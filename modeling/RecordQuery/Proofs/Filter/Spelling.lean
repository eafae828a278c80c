import RecordQuery.Proofs.Filter.Scanning

/-! # Tokens that a text can have

A token that occurs in a text can be written again, in front of a blank, by characters of its own. So any
sequence of such tokens, wherever they were found, is the whole of the tokens of some text. Only names and
numbers are not arbitrary here: a keyword is never a name, and a number is the value of digits.
-/

namespace RecordQuery.Lexer

/-- Some characters are this token when a blank follows. -/
def Spelled (kind : TokenKind) : Prop :=
  ∃ characters, ∀ rest more, Lexes rest more → Lexes (characters ++ ' ' :: rest) (kind :: more)

variable {kind : TokenKind} {kinds : List TokenKind}

theorem spelled_of_spells {characters : List Char} (spelled : Spells characters [kind]) : Spelled kind := by
  refine ⟨characters, ?_⟩
  intro rest more remaining
  exact spelled (' ' :: rest) more rfl (.blank rfl remaining)

theorem spelled_word {word : List Char} (isName : Name.isName word) : Spelled (wordKind word) :=
  spelled_of_spells (spells_word isName)

/-- A keyword in lower case spells its token. -/
theorem spelled_keyword (word : String) (known : (word, kind) ∈ keywords) : Spelled kind := by
  have spelled : ∀ entry ∈ keywords, Name.isName entry.1.toList = true ∧ wordKind entry.1.toList = entry.2 := by
    decide +kernel
  obtain ⟨isName, same⟩ := spelled (word, kind) known
  dsimp only at isName same
  rw [← same]
  exact spelled_word isName

theorem spelled_mark (mark : Char) (solid : Text.isBlank mark = false)
    (scanned : ∀ rest, scan mark rest = .ok (kind, 0)) : Spelled kind :=
  spelled_of_spells (Spells.nil.mark solid scanned)

theorem spelled_numeral {negative : Bool} {whole fraction : List Char} (nonempty : whole ≠ [])
    (digits : ∀ digit ∈ whole ++ fraction, digit.isDigit) :
    Spelled (.number (.ofDigits negative whole fraction)) :=
  spelled_of_spells (spells_numeral negative nonempty digits)

theorem spelled_text (content : String) : Spelled (.text content) := by
  have spelled := spells_text (.inl rfl) content.toList
  rw [String.ofList_toList] at spelled
  exact spelled_of_spells spelled

/-- A name was scanned from its own characters, and these are no keyword. -/
theorem word_of_scan {first : Char} {rest : List Char} {name : String} {count : Nat}
    (scanned : scan first rest = .ok (.name name, count)) :
    ∃ word, Name.isName word ∧ wordKind word = .name name := by
  generalize same : TokenKind.name name = kind at scanned
  cases scans_of_scan scanned with
  | word start => exact ⟨_, isName_cons_takeWhile start rest, rfl⟩
  | relation | opening | closing | comma | text | number => cases same

theorem word_of_mem_kinds {text name : String} (member : .name name ∈ Lexer.kinds text) :
    ∃ word, Name.isName word ∧ wordKind word = .name name := by
  obtain ⟨token, among, found⟩ := List.mem_map.mp member
  obtain ⟨_, first, rest, count, _, _, _, scanned⟩ := scanned_of_mem among
  rw [found] at scanned
  exact word_of_scan scanned

/-- Neither a name nor a number. -/
def isFree : TokenKind → Bool
  | .name _ | .number _ => false
  | _ => true

/-- Where the characters of a token are not limited, it can be written. -/
theorem spelled_of_isFree (free : isFree kind) : Spelled kind := by
  cases kind with
  | name | number => cases free
  | conjunction => exact spelled_keyword "and" (by decide)
  | disjunction => exact spelled_keyword "or" (by decide)
  | negation => exact spelled_keyword "not" (by decide)
  | membership => exact spelled_keyword "in" (by decide)
  | null => exact spelled_keyword "null" (by decide)
  | textMatch word =>
    have known : (word.symbol, .textMatch word) ∈ keywords := by cases word <;> decide
    exact spelled_keyword _ known
  | boolean value =>
    have known : (toString value, .boolean value) ∈ keywords := by cases value <;> decide
    exact spelled_keyword _ known
  | relation sign => exact ⟨sign.symbol.toList, fun _ _ remaining => remaining.relation sign⟩
  | opening => exact spelled_mark '(' rfl fun _ => rfl
  | closing => exact spelled_mark ')' rfl fun _ => rfl
  | comma => exact spelled_mark ',' rfl fun _ => rfl
  | text content => exact spelled_text content

/-- Every token of a text can be written again. -/
theorem spelled_of_mem_kinds {text : String} (member : kind ∈ Lexer.kinds text) : Spelled kind := by
  cases free : isFree kind with
  | true => exact spelled_of_isFree free
  | false =>
    cases kind with
    | number value =>
      obtain ⟨negative, whole, fraction, writes, rfl⟩ := number_mem_kinds_iff.mp member
      obtain ⟨_, _, _, nonempty, digits, _⟩ := writes
      exact spelled_numeral nonempty digits
    | name word =>
      obtain ⟨characters, isName, same⟩ := word_of_mem_kinds member
      rw [← same]
      exact spelled_word isName
    | _ => cases free

/-- Tokens that can be written one by one are the tokens of a text. -/
theorem exists_text_of_spelled (spelled : ∀ kind ∈ kinds, Spelled kind) :
    ∃ text, (tokens text).error? = none ∧ Lexer.kinds text = kinds := by
  have written : ∃ characters, Lexes characters kinds := by
    induction kinds with
    | nil => exact ⟨[], .nil⟩
    | cons kind rest ih =>
      obtain ⟨first, writes⟩ := spelled kind List.mem_cons_self
      obtain ⟨others, remaining⟩ := ih fun other member => spelled other (List.mem_cons_of_mem _ member)
      exact ⟨first ++ ' ' :: others, writes others rest remaining⟩
  obtain ⟨characters, lexes⟩ := written
  refine ⟨String.ofList characters, ?_⟩
  rw [Lexer.kinds, tokens, String.toList_ofList]
  exact lexes 0

end RecordQuery.Lexer
