import RecordQuery.Proofs.Filter.Layout
import RecordQuery.Proofs.Filter.Printing
import RecordQuery.Proofs.Filter.SortLanguage
import RecordQuery.Proofs.Filter.Spelling

/-! # Names in filters and in sort lists

A sort list tests the characters of a name one by one, and a filter scans words and tells keywords from names. Both
know the same words: characters are a name exactly if they are a single token that is a name or a keyword. So the
fields of accepted filters are names that sort lists accept with the same spelling, and among the names of accepted
sort lists only the keywords, in whatever letter case, cannot be the field of a filter.
-/

namespace RecordQuery

/-- The token is a name or one of the keywords. -/
def TokenKind.IsWord (kind : TokenKind) : Prop :=
  (∃ word, kind = .name word) ∨ kind ∈ Lexer.keywords.map Prod.snd

namespace Lexer

variable {kind : TokenKind} {word : List Char} {name text : String}

/-! ## Words as tokens -/

theorem isWord_wordKind (word : List Char) : (wordKind word).IsWord := by
  by_contra other
  rw [TokenKind.IsWord, not_or, not_exists] at other
  exact wordKind_ne other.1 other.2 word rfl

/-- A name is a token by itself. -/
theorem makes_word (named : Name.isName word) : Makes word (wordKind word) := by
  cases word with
  | nil => cases named
  | cons first others =>
    have scanned (behind : List Char) (apart : Apart behind) := scan_word named apart.detached
    exact ⟨first, others, rfl, (scanned [] rfl).1, fun behind apart => (scanned behind apart).2⟩

/-- The characters of a word are a name. -/
theorem isName_of_scan {first : Char} {others behind : List Char} (isWord : kind.IsWord)
    (scanned : scan first (others ++ behind) = .ok (kind, others.length)) : Name.isName (first :: others) := by
  generalize same : others.length = count at scanned
  cases scans_of_scan scanned with
  | word start =>
    have own : others = (others ++ behind).takeWhile Name.isPart := by
      rw [List.prefix_iff_eq_take.mp (List.takeWhile_prefix _), ← same, List.take_left]
    rw [own]
    exact isName_cons_takeWhile start _
  | relation | opening | closing | comma | text | number => simp [TokenKind.IsWord, keywords, scanNumber] at isWord

/-- Characters are a name exactly if they are one token, and this is a name or a keyword. -/
theorem isName_iff_tokens_eq : Name.isName text.toList ↔ ∃ kind : TokenKind, kind.IsWord ∧
    tokens text = .token ⟨kind, 0, Text.byteLength text.toList⟩ .done := by
  constructor
  · intro named
    have alone := (makes_word named).tokens_eq
    rw [String.ofList_toList] at alone
    exact ⟨_, isWord_wordKind _, alone⟩
  · rintro ⟨kind, isWord, alone⟩
    have member : ⟨kind, 0, Text.byteLength text.toList⟩ ∈ (tokens text).tokens := by
      rw [alone]
      exact List.mem_singleton_self _
    obtain ⟨_, first, others, behind, _, _, _, part, _, scanned⟩ := exists_part member
    have whole := Text.slice_byteLength [] text.toList []
    rw [List.nil_append, List.append_nil, Text.byteLength, Nat.zero_add] at whole
    rw [← whole, part]
    exact isName_of_scan isWord scanned

/-- A name among the tokens of a text is a name by its characters, and no keyword. -/
theorem isName_of_mem_kinds (member : .name name ∈ Lexer.kinds text) :
    Name.isName name.toList ∧ ¬ IsKeyword name := by
  obtain ⟨word, named, same⟩ := word_of_mem_kinds member
  obtain ⟨rfl, free⟩ := wordKind_eq_name_iff.mp same
  exact ⟨by rwa [String.toList_ofList], free⟩

end Lexer

/-! ## Fields -/

/-- The field of a comparison is among its tokens. -/
theorem Grammar.WritesComparison.name_mem {kinds : List TokenKind} {leaf : Comparison}
    (written : WritesComparison kinds leaf) : .name leaf.field ∈ kinds := by
  cases written <;> simp

/-- The fields of an accepted filter are names among its tokens. -/
theorem Filter.name_mem_kinds {limits : Limits} {text : String} {filter : Filter} {leaf : Comparison}
    (accepted : parse limits text = .ok filter) (member : leaf ∈ filter.comparisons) :
    .name leaf.field ∈ Lexer.kinds text := by
  obtain ⟨-, -, nesting, -, derivation⟩ := derives_of_parse accepted
  obtain ⟨part, inside, written⟩ := derivation.writes_of_mem member
  exact inside.subset written.name_mem

/-- A name that is no keyword can be compared with null. -/
theorem Filter.parse_equal_null {limits : Limits} {name : String} (named : Name.isName name.toList)
    (free : ¬ Lexer.IsKeyword name) (short : Text.byteLength (name ++ " = null").toList ≤ limits.maxLength) :
    parse limits (name ++ " = null") = .ok (.comparison ⟨name, .relation .equal, .single .null⟩) := by
  have field : Lexer.Spells name.toList [.name name] := by
    rw [← Lexer.wordKind_eq_name_iff.mpr ⟨String.ofList_toList, free⟩]
    exact Lexer.spells_word named
  have null : Lexer.Spells "null".toList [Lexer.wordKind "null".toList] := Lexer.spells_word rfl
  have spelled := field.blank_append (null.relation .equal)
  have whole : name.toList ++ ' ' :: (Relation.equal.symbol.toList ++ ' ' :: "null".toList) =
      (name ++ " = null").toList := by
    rw [String.toList_append]
    rfl
  rw [whole] at spelled
  obtain ⟨clean, same⟩ := spelled.lexes 0
  change Lexer.kinds (name ++ " = null") = _ at same
  refine parse_of_derives short clean ?_ (Nat.zero_le _)
  rw [same]
  have noList : Operator.relation .equal ≠ .membership := nofun
  exact .chain (.operand (.comparison (.single name noList .null)))

namespace SortList

/-- The fields of an accepted sort list are names. -/
theorem isName_of_parse {text : String} {keys : List SortKey} {key : SortKey} (read : parse text = .ok keys)
    (member : key ∈ keys) : Name.isName key.field.toList := by
  by_cases blank : text.toList.all Text.isBlank
  · rw [parse, if_pos blank] at read
    cases read
    cases member
  · obtain ⟨items, -, written⟩ := (parse_eq_ok_iff blank).mp read
    obtain ⟨item, -, writes⟩ := Outcome.exists_left_of_mem written member
    cases writes with
    | plain padded named | directed padded named wordPadded worded => rwa [String.toList_ofList]

/-- A name by itself is an ascending key. -/
theorem parse_name {name : String} (named : Name.isName name.toList) :
    parse name = .ok [⟨name, .ascending⟩] := by
  have padded : Text.Pads name.toList name.toList := ⟨[], [], (List.append_nil _).symm, rfl, rfl⟩
  have writes : Writes name.toList ⟨String.ofList name.toList, .ascending⟩ := .plain padded named
  rw [String.ofList_toList] at writes
  exact (parse_eq_ok_iff (not_all_isBlank_of_pads padded named)).mpr
    ⟨[name.toList], List.intercalate_singleton.symm, .cons writes .nil⟩

end SortList

/-- Filters and sort lists agree about names. A text is a name exactly if it is one token from its first byte to its
last one, which is a name or a keyword. The field of an accepted filter is accepted as a sort list with the same
spelling, and is no keyword. The field of an accepted sort list can be the field of a filter, if it is no keyword. -/
theorem Filter.names_agree_with_sort_lists (name : String) :
    (Name.isName name.toList ↔ ∃ kind : TokenKind, kind.IsWord ∧
      Lexer.tokens name = .token ⟨kind, 0, Text.byteLength name.toList⟩ .done) ∧
    (∀ limits text filter, parse limits text = .ok filter → (∃ leaf ∈ filter.comparisons, leaf.field = name) →
      SortList.parse name = .ok [⟨name, .ascending⟩] ∧ ¬ Lexer.IsKeyword name) ∧
    ∀ text keys, SortList.parse text = .ok keys → (∃ key ∈ keys, key.field = name) → ¬ Lexer.IsKeyword name →
      ∀ limits : Limits, Text.byteLength (name ++ " = null").toList ≤ limits.maxLength →
        parse limits (name ++ " = null") = .ok (.comparison ⟨name, .relation .equal, .single .null⟩) := by
  refine ⟨Lexer.isName_iff_tokens_eq, ?_, ?_⟩
  · rintro limits text filter accepted ⟨leaf, member, rfl⟩
    obtain ⟨named, free⟩ := Lexer.isName_of_mem_kinds (name_mem_kinds accepted member)
    exact ⟨SortList.parse_name named, free⟩
  · rintro text keys read ⟨key, member, rfl⟩ free limits short
    exact parse_equal_null (SortList.isName_of_parse read member) free short

/-- A dotted name that begins like a keyword, as the field of a filter and of a sort list. -/
theorem Filter.names_agree_with_sort_lists_of_dotted :
    let name := "in.stock"
    let compared := Filter.negation
      (.comparison ⟨name, .relation .greaterOrEqual, .single (.number (.ofDigits false ['1'] []))⟩)
    let keys : List SortKey := [⟨"id", .ascending⟩, ⟨name, .descending⟩]
    (parse .standard "not in.stock >= 1" = .ok compared ∧ (∃ leaf ∈ compared.comparisons, leaf.field = name) ∧
      SortList.parse name = .ok [⟨name, .ascending⟩] ∧ ¬ Lexer.IsKeyword name) ∧
    SortList.parse "id, in.stock : DESC" = .ok keys ∧ (∃ key ∈ keys, key.field = name) ∧
      Text.byteLength (name ++ " = null").toList ≤ Limits.standard.maxLength ∧
      parse .standard (name ++ " = null") = .ok (.comparison ⟨name, .relation .equal, .single .null⟩) := by
  intro name compared keys
  have accepted : parse .standard "not in.stock >= 1" = .ok compared := by decide +kernel
  have read : SortList.parse "id, in.stock : DESC" = .ok keys := by decide +kernel
  have field : ∃ leaf ∈ compared.comparisons, leaf.field = name := ⟨_, List.mem_singleton_self _, rfl⟩
  have key : ∃ key ∈ keys, key.field = name := ⟨_, List.mem_cons_of_mem _ (List.mem_singleton_self _), rfl⟩
  have short : Text.byteLength (name ++ " = null").toList ≤ Limits.standard.maxLength := by decide +kernel
  obtain ⟨-, sorts, compares⟩ := names_agree_with_sort_lists name
  obtain ⟨alone, free⟩ := sorts _ _ _ accepted field
  exact ⟨⟨accepted, field, alone, free⟩, read, key, short, compares _ _ read key free _ short⟩

/-- A keyword is a name for sort lists only. -/
example : SortList.parse "Null" = .ok [⟨"Null", .ascending⟩] ∧ (Filter.parse .standard "Null = 1").isOk = false := by
  decide +kernel

end RecordQuery
