import RecordQuery.Filter.Lexer
import RecordQuery.Proofs.Number.RoundTrip

/-! # Characters that spell tokens

A text is taken token by token, and where a token stands does not change what it is. Words and numbers end
where a character comes that cannot stand inside a name, and so tokens that are kept apart in this way are
found again one by one. A quoted text whose quotes and backslashes are guarded has its content back.
-/

namespace RecordQuery.Lexer

/-- The characters consist of tokens of these kinds, wherever they start. -/
def Lexes (characters : List Char) (kinds : List TokenKind) : Prop :=
  ∀ offset, (tokensFrom offset characters).error? = none ∧
    (tokensFrom offset characters).tokens.map Token.kind = kinds

/-- No character that could stand inside a name comes first. -/
def Detached (rest : List Char) : Prop := rest.head?.any Name.isPart = false

/-- In front of anything detached the characters are tokens of these kinds. -/
def Spells (characters : List Char) (kinds : List TokenKind) : Prop :=
  ∀ rest more, Detached rest → Lexes rest more → Lexes (characters ++ rest) (kinds ++ more)

/-- A character between quotes, where the quote and the backslash have a backslash in front. -/
def guarded (quote character : Char) : List Char :=
  if character = quote ∨ character = '\\' then ['\\', character] else [character]

variable {first second rest : List Char} {before behind kinds : List TokenKind} {kind : TokenKind}

theorem Lexes.nil : Lexes [] [] := by
  intro offset
  rw [tokensFrom]
  exact ⟨rfl, rfl⟩

theorem Lexes.blank {character : Char} (blank : Text.isBlank character) (remaining : Lexes rest kinds) :
    Lexes (character :: rest) kinds := by
  intro offset
  rw [tokensFrom, if_pos blank]
  exact remaining _

/-- A token is taken off. -/
theorem Lexes.token (character : Char) (others : List Char) (solid : Text.isBlank character = false)
    (scanned : scan character (others ++ rest) = .ok (kind, others.length)) (remaining : Lexes rest kinds) :
    Lexes (character :: others ++ rest) (kind :: kinds) := by
  intro offset
  obtain ⟨clean, found⟩ := remaining
    (offset + character.utf8Size + Text.byteLength ((others ++ rest).take others.length))
  rw [List.cons_append, tokensFrom, if_neg (Bool.eq_false_iff.mp solid), scanned]
  dsimp only
  rw [List.drop_left]
  exact ⟨clean, congrArg (kind :: ·) found⟩

/-- What spells tokens in front of the end of the text consists of them. -/
theorem Spells.lexes (spelled : Spells first before) : Lexes first before := by
  simpa only [List.append_nil] using spelled [] [] rfl .nil

theorem Spells.append (left : Spells first before) (right : Spells second behind) (nonempty : second ≠ [])
    (apart : Detached second) : Spells (first ++ second) (before ++ behind) := by
  intro rest more detached remaining
  rw [List.append_assoc, List.append_assoc]
  refine left _ _ ?_ (right rest more detached remaining)
  cases second with
  | nil => exact absurd rfl nonempty
  | cons => exact apart

theorem Spells.blank (spelled : Spells first before) : Spells (' ' :: first) before :=
  fun rest more detached remaining => .blank rfl (spelled rest more detached remaining)

/-- A blank keeps tokens apart. -/
theorem Spells.blank_append (left : Spells first before) (right : Spells second behind) :
    Spells (first ++ ' ' :: second) (before ++ behind) :=
  left.append right.blank (List.cons_ne_nil _ _) rfl

theorem Spells.nil : Spells [] [] := fun _ _ _ remaining => remaining

/-- A mark is a token of its own, whatever follows. -/
theorem Spells.mark {mark : Char} (solid : Text.isBlank mark = false)
    (scanned : ∀ rest, scan mark rest = .ok (kind, 0)) (spelled : Spells first before) :
    Spells (mark :: first) (kind :: before) :=
  fun rest more detached remaining => .token mark [] solid (scanned _) (spelled rest more detached remaining)

/-- A closing parenthesis ends any token. -/
theorem Spells.closing (spelled : Spells first before) : Spells (first ++ [')']) (before ++ [.closing]) :=
  spelled.append (Spells.nil.mark rfl fun _ => rfl) (List.cons_ne_nil _ _) rfl

section Words

theorem toNat_of_isStart {character : Char} (start : Name.isStart character) :
    65 ≤ character.toNat ∧ character.toNat ≤ 122 := by
  rw [Name.isStart, Bool.or_eq_true, beq_iff_eq] at start
  rcases start with alpha | rfl
  · change (decide (character.val ≥ 65 ∧ character.val ≤ 90) ||
      decide (character.val ≥ 97) && decide (character.val ≤ 122)) = true at alpha
    simp only [Bool.or_eq_true, Bool.and_eq_true, decide_eq_true_eq, ge_iff_le,
      UInt32.le_iff_toNat_le] at alpha
    change 65 ≤ character.toNat ∧ character.toNat ≤ 90 ∨ 97 ≤ character.toNat ∧ character.toNat ≤ 122 at alpha
    omega
  · decide

theorem scan_of_isStart {character : Char} (start : Name.isStart character) (rest : List Char) :
    scan character rest = .ok (scanWord character rest) := by
  have place := toNat_of_isStart start
  have noDigit : character.isDigit = false := by
    rw [Bool.eq_false_iff]
    intro digit
    have := Text.toNat_of_isDigit digit
    omega
  have noMinus : (character == '-') = false := by
    rw [beq_eq_false_iff_ne]
    rintro rfl
    exact absurd place.1 (by decide)
  unfold scan
  split
  case h_10 =>
    rw [noDigit, noMinus, if_pos start]
    rfl
  all_goals exact absurd start (by decide)

private theorem scan_of_isDigit {character : Char} (digit : character.isDigit) (rest : List Char) :
    scan character rest = .ok (scanNumber character rest) := by
  unfold scan
  split
  case h_10 => rw [digit, Bool.true_or, if_pos rfl]
  all_goals exact absurd digit (by decide)

private theorem scan_minus {rest : List Char} (digit : startsWithDigit rest) :
    scan '-' rest = .ok (scanNumber '-' rest) := by
  unfold scan
  rw [digit]
  rfl

/-- A first letter and what may follow it are a name. -/
theorem isName_cons_takeWhile {character : Char} (start : Name.isStart character) (rest : List Char) :
    Name.isName (character :: rest.takeWhile Name.isPart) := by
  rw [Name.isName, start, Bool.true_and]
  exact List.all_takeWhile

/-- A word is scanned to its end. -/
theorem scan_word {character : Char} {others : List Char} (isName : Name.isName (character :: others))
    (detached : Detached rest) : Text.isBlank character = false ∧
      scan character (others ++ rest) = .ok (wordKind (character :: others), others.length) := by
  rw [Name.isName, Bool.and_eq_true, List.all_eq_true] at isName
  obtain ⟨start, parts⟩ := isName
  have place := toNat_of_isStart start
  refine ⟨Text.isBlank_of_toNat (by omega) place.2, ?_⟩
  rw [scan_of_isStart start, scanWord, Text.takeWhile_run parts detached]

theorem spells_word {word : List Char} (isName : Name.isName word) : Spells word [wordKind word] := by
  intro rest more detached remaining
  cases word with
  | nil => cases isName
  | cons first others =>
    obtain ⟨solid, scanned⟩ := scan_word isName detached
    exact .token first others solid scanned remaining

end Words

section Numerals

variable {whole fraction : List Char}

private theorem head_of_detached {kind : Char → Bool} (detached : Detached rest)
    (part : ∀ character, kind character = true → Name.isPart character = true) :
    rest.head?.any kind = false := by
  cases rest with
  | nil => rfl
  | cons first others =>
    exact Bool.eq_false_iff.mpr fun inside => Bool.eq_false_iff.mp detached (part first inside)

private theorem isPart_of_isDigit (character : Char) (digit : character.isDigit) : Name.isPart character := by
  rw [Name.isPart, Char.isAlphanum, digit, Bool.or_true]
  rfl

/-- The digits in front of a point and behind it are told apart. -/
private theorem split_numeral (digits : ∀ digit ∈ whole ++ fraction, digit.isDigit)
    (detached : Detached rest) :
    let characters := whole ++ Number.pointed fraction ++ rest
    characters.takeWhile Char.isDigit = whole ∧
      fractionDigits (characters.dropWhile Char.isDigit) = fraction := by
  have inWhole : ∀ digit ∈ whole, digit.isDigit :=
    fun digit member => digits digit (List.mem_append_left _ member)
  have inFraction : ∀ digit ∈ fraction, digit.isDigit := fun digit member =>
    digits digit (List.mem_append_right _ member)
  have stops := head_of_detached detached isPart_of_isDigit
  dsimp only
  rw [List.append_assoc, Number.pointed]
  split
  · rename_i integral
    rw [List.nil_append, Text.takeWhile_run inWhole stops, Text.dropWhile_run inWhole stops, integral]
    refine ⟨rfl, ?_⟩
    unfold fractionDigits
    split
    · cases detached
    · rfl
  · have point : ('.' :: fraction ++ rest).head?.any Char.isDigit = false := rfl
    rw [Text.takeWhile_run inWhole point, Text.dropWhile_run inWhole point]
    exact ⟨rfl, Text.takeWhile_run inFraction stops⟩

theorem length_numeral (whole fraction : List Char) :
    whole.length + (if fraction = [] then 0 else fraction.length + 1) =
      (whole ++ Number.pointed fraction).length := by
  rw [Number.pointed]
  split <;> simp

/-- A numeral is scanned to its end. -/
theorem scan_numeral {negative : Bool} {first : Char} {others : List Char} (nonempty : whole ≠ [])
    (digits : ∀ digit ∈ whole ++ fraction, digit.isDigit)
    (written : first :: others = Number.numeral negative whole fraction) (detached : Detached rest) :
    Text.isBlank first = false ∧
      scan first (others ++ rest) = .ok (.number (.ofDigits negative whole fraction), others.length) := by
  obtain ⟨digit, more, rfl⟩ := List.exists_cons_of_ne_nil nonempty
  have isDigit : digit.isDigit := digits digit List.mem_cons_self
  cases negative with
  | true =>
    obtain ⟨rfl, rfl⟩ : first = '-' ∧ others = digit :: more ++ Number.pointed fraction := List.cons.inj written
    obtain ⟨run, behind⟩ := split_numeral digits detached
    have starts : startsWithDigit (digit :: more ++ Number.pointed fraction ++ rest) := isDigit
    refine ⟨rfl, (scan_minus starts).trans ?_⟩
    rw [scanNumber, run, behind, length_numeral]
    rfl
  | false =>
    obtain ⟨rfl, rfl⟩ : first = digit ∧ others = more ++ Number.pointed fraction := List.cons.inj written
    have moreDigits : ∀ digit ∈ more ++ fraction, digit.isDigit := fun digit member =>
      digits digit (List.mem_cons_of_mem _ member)
    have noMinus : first ≠ '-' := by
      rintro rfl
      cases isDigit
    obtain ⟨run, behind⟩ := split_numeral moreDigits detached
    refine ⟨Text.isBlank_of_isDigit isDigit, (scan_of_isDigit isDigit _).trans ?_⟩
    rw [scanNumber, run, behind, length_numeral, if_neg noMinus]

theorem spells_numeral (negative : Bool) (nonempty : whole ≠ [])
    (digits : ∀ digit ∈ whole ++ fraction, digit.isDigit) :
    Spells (Number.numeral negative whole fraction) [.number (.ofDigits negative whole fraction)] := by
  intro rest more detached remaining
  obtain ⟨first, others, written⟩ : ∃ first others, first :: others = Number.numeral negative whole fraction := by
    obtain ⟨digit, more, rfl⟩ := List.exists_cons_of_ne_nil nonempty
    cases negative <;> exact ⟨_, _, rfl⟩
  obtain ⟨solid, scanned⟩ := scan_numeral nonempty digits written detached
  rw [← written]
  exact .token first others solid scanned remaining

end Numerals

/-- A text between quotes with its guarded characters has its content back. -/
theorem textContent?_guarded {quote : Char} (noBackslash : quote ≠ '\\') (content rest : List Char) :
    textContent? quote (content.flatMap (guarded quote) ++ quote :: rest) =
      some (content, (content.flatMap (guarded quote)).length + 1) := by
  induction content with
  | nil =>
    unfold textContent?
    exact if_pos rfl
  | cons character others ih =>
    rw [List.flatMap_cons, List.append_assoc]
    by_cases special : character = quote ∨ character = '\\'
    · rw [guarded, if_pos special, List.cons_append, List.cons_append, List.nil_append]
      unfold textContent?
      rw [if_neg (Ne.symm noBackslash), if_pos rfl]
      dsimp only
      rw [ih, Option.map_some, if_pos special]
      rfl
    · rw [guarded, if_neg special, List.cons_append, List.nil_append]
      rw [not_or] at special
      unfold textContent?
      rw [if_neg special.1, if_neg special.2, ih]
      rfl

/-- A quoted text is scanned to its closing quote. -/
theorem spells_text {quote : Char} (chosen : quote = '\x22' ∨ quote = '\x27') (content : List Char) :
    Spells (quote :: content.flatMap (guarded quote) ++ [quote]) [.text (String.ofList content)] := by
  intro rest more _ remaining
  have noBackslash : quote ≠ '\\' := by
    rcases chosen with rfl | rfl <;> decide
  have solid : Text.isBlank quote = false := by
    rcases chosen with rfl | rfl <;> rfl
  have scanned (behind : List Char) : scan quote behind = scanText quote behind := by
    rcases chosen with rfl | rfl <;> rfl
  refine .token quote (content.flatMap (guarded quote) ++ [quote]) solid ?_ remaining
  rw [scanned, scanText, List.append_assoc, List.singleton_append, textContent?_guarded noBackslash]
  simp only [List.length_append, List.length_singleton]

/-- A relation is scanned up to the blank behind it. -/
theorem Lexes.relation (sign : Relation) (remaining : Lexes rest kinds) :
    Lexes (sign.symbol.toList ++ ' ' :: rest) (.relation sign :: kinds) := by
  have behind : Lexes (' ' :: rest) kinds := .blank rfl remaining
  cases sign with
  | equal => exact .token '=' [] rfl rfl behind
  | notEqual => exact .token '!' ['='] rfl rfl behind
  | greater => exact .token '>' [] rfl rfl behind
  | greaterOrEqual => exact .token '>' ['='] rfl rfl behind
  | less => exact .token '<' [] rfl rfl behind
  | lessOrEqual => exact .token '<' ['='] rfl rfl behind

theorem Spells.relation (sign : Relation) (spelled : Spells first before) :
    Spells (sign.symbol.toList ++ ' ' :: first) (.relation sign :: before) := by
  intro rest more detached remaining
  simpa only [List.append_assoc, List.cons_append] using (spelled rest more detached remaining).relation sign

end RecordQuery.Lexer
