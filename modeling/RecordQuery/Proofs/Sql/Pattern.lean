import RecordQuery.Sql.Basic
import Mathlib.Data.List.Infix

/-! # Patterns and texts

LIKE matches a pattern against a whole text: a percent sign stands for any characters, an underscore for
any one, and a backslash takes the next character as it is. A pattern is therefore a row of items, and a text
matches if it is made of what they stand for. The items of a text match are the characters of its needle, with
any characters before or behind them: it stands for exactly the texts that hold the needle in that way,
whatever characters the needle has.
-/

namespace RecordQuery

/-- The characters of a text hold those of a needle in this way. -/
def TextMatch.Finds (needle haystack : List Char) : TextMatch → Prop
  | contains => needle <:+: haystack
  | startsWith => needle <+: haystack
  | endsWith => needle <:+ haystack

/-- Texts are searched character by character. -/
theorem TextMatch.admits_iff_finds {word : TextMatch} {haystack needle : String} :
    word.admits haystack needle = true ↔ word.Finds needle.toList haystack.toList := by
  cases word with
  | contains => exact String.contains_string_iff
  | startsWith => exact String.startsWith_string_iff
  | endsWith =>
    rw [admits, ← String.endsWith_toSlice, String.Slice.endsWith_string_iff, String.copy_toSlice]
    rfl

namespace Sql

/-- The text starts with an allowed character, and its rest is as required. -/
def startsWithOne (allowed : Char → Bool) (required : List Char → Bool) : List Char → Bool
  | [] => false
  | first :: rest => allowed first && required rest

/-- The text matches the pattern, in which a backslash is the escape character. -/
def matchesPattern : List Char → List Char → Bool
  | [] => List.isEmpty
  | '%' :: rest => fun text => text.tails.any (matchesPattern rest)
  | '_' :: rest => startsWithOne (fun _ => true) (matchesPattern rest)
  | ['\\'] => fun _ => false
  | '\\' :: escaped :: rest => startsWithOne (· == escaped) (matchesPattern rest)
  | character :: rest => startsWithOne (· == character) (matchesPattern rest)

/-- What stands in a pattern: any characters, any one character, or a certain one. -/
inductive PatternItem where
  | characters
  | character
  | exactly (wanted : Char)
deriving DecidableEq, Repr

/-- The items of a pattern from left to right. There are none if its last character is a backslash that no
other one escapes, which has nothing to escape itself. -/
def patternItems? : List Char → Option (List PatternItem)
  | [] => some []
  | '%' :: rest => (patternItems? rest).map (.characters :: ·)
  | '_' :: rest => (patternItems? rest).map (.character :: ·)
  | ['\\'] => none
  | '\\' :: escaped :: rest => (patternItems? rest).map (.exactly escaped :: ·)
  | wanted :: rest => (patternItems? rest).map (.exactly wanted :: ·)

/-- The text is made of what the items stand for, one after the other. -/
def Spans : List PatternItem → List Char → Prop
  | [], text => text = []
  | .characters :: items, text => ∃ front back, text = front ++ back ∧ Spans items back
  | .character :: items, text => ∃ first back, text = first :: back ∧ Spans items back
  | .exactly wanted :: items, text => ∃ back, text = wanted :: back ∧ Spans items back

theorem startsWithOne_iff {allowed : Char → Bool} {required : List Char → Bool} {text : List Char} :
    startsWithOne allowed required text = true ↔
      ∃ first others, text = first :: others ∧ allowed first = true ∧ required others = true := by
  cases text with
  | nil => simp [startsWithOne]
  | cons first rest => simp [startsWithOne]

theorem startsWithOne_beq_iff {wanted : Char} {required : List Char → Bool} {text : List Char} :
    startsWithOne (· == wanted) required text = true ↔
      ∃ others, text = wanted :: others ∧ required others = true := by
  rw [startsWithOne_iff]
  simp only [beq_iff_eq]
  exact ⟨fun ⟨_, others, same, first, matched⟩ => ⟨others, first ▸ same, matched⟩,
    fun ⟨others, same, matched⟩ => ⟨wanted, others, same, rfl, matched⟩⟩

/-- A text matches a pattern exactly if it is made of what the items of the pattern stand for. -/
theorem matchesPattern_iff_spans (pattern text : List Char) :
    matchesPattern pattern text = true ↔ ∃ items, patternItems? pattern = some items ∧ Spans items text := by
  -- Each character of a pattern puts one item in front of those of the rest.
  have behind {items? : Option (List PatternItem)} {item : PatternItem} {text : List Char} :
      (∃ items, items?.map (item :: ·) = some items ∧ Spans items text) ↔
        ∃ items, items? = some items ∧ Spans (item :: items) text := by
    cases items? <;> simp
  fun_induction patternItems? pattern generalizing text with
  | case1 => simp [matchesPattern, Spans]
  | case2 rest ih =>
    rw [behind, matchesPattern, List.any_eq_true]
    simp only [List.mem_tails, ih, Spans]
    constructor
    · rintro ⟨back, ⟨front, whole⟩, items, read, spans⟩
      exact ⟨items, read, front, back, whole.symm, spans⟩
    · rintro ⟨items, read, front, back, whole, spans⟩
      exact ⟨back, ⟨front, whole.symm⟩, items, read, spans⟩
  | case3 rest ih =>
    rw [behind, matchesPattern, startsWithOne_iff]
    simp only [ih, Spans, true_and]
    exact ⟨fun ⟨first, back, whole, items, read, spans⟩ => ⟨items, read, first, back, whole, spans⟩,
      fun ⟨items, read, first, back, whole, spans⟩ => ⟨first, back, whole, items, read, spans⟩⟩
  | case4 => simp [matchesPattern]
  | case5 escaped rest ih =>
    rw [behind, matchesPattern, startsWithOne_beq_iff]
    simp only [ih, Spans]
    exact ⟨fun ⟨back, whole, items, read, spans⟩ => ⟨items, read, back, whole, spans⟩,
      fun ⟨items, read, back, whole, spans⟩ => ⟨back, whole, items, read, spans⟩⟩
  | case6 wanted rest noPercent noUnderscore noEnd noBackslash ih =>
    have itself : matchesPattern (wanted :: rest) = startsWithOne (· == wanted) (matchesPattern rest) := by
      rw [matchesPattern] <;> assumption
    rw [behind, itself, startsWithOne_beq_iff]
    simp only [ih, Spans]
    exact ⟨fun ⟨back, whole, items, read, spans⟩ => ⟨items, read, back, whole, spans⟩,
      fun ⟨items, read, back, whole, spans⟩ => ⟨back, whole, items, read, spans⟩⟩

/-- The number of backslashes at the end of a pattern. -/
def closingBackslashes (pattern : List Char) : Nat := (pattern.reverse.takeWhile (· = '\\')).length

private theorem closingBackslashes_append (front back : List Char) : closingBackslashes (front ++ back) =
    if closingBackslashes back = back.length then back.length + closingBackslashes front
    else closingBackslashes back := by
  unfold closingBackslashes
  rw [List.reverse_append, List.takeWhile_append, List.length_reverse]
  split
  · rw [List.length_append, List.length_reverse]
  · rfl

private theorem closingBackslashes_cons {first : Char} (plain : first ≠ '\\') (rest : List Char) :
    closingBackslashes (first :: rest) = closingBackslashes rest := by
  have none : closingBackslashes [first] = 0 := by simp [closingBackslashes, plain]
  rw [← List.singleton_append, closingBackslashes_append, none]
  split
  · rename_i whole
    rw [whole, Nat.add_zero]
  · rfl

private theorem closingBackslashes_escaped (escaped : Char) (rest : List Char) :
    closingBackslashes ('\\' :: escaped :: rest) % 2 = closingBackslashes rest % 2 := by
  have even : closingBackslashes ['\\', escaped] % 2 = 0 := by
    by_cases same : escaped = '\\' <;> simp [closingBackslashes, same]
  change closingBackslashes (['\\', escaped] ++ rest) % 2 = _
  rw [closingBackslashes_append]
  split
  · rename_i whole
    rw [whole]
    omega
  · rfl

/-- A pattern is refused exactly if the backslashes at its end do not pair up. -/
theorem patternItems?_eq_none_iff (pattern : List Char) :
    patternItems? pattern = none ↔ closingBackslashes pattern % 2 = 1 := by
  fun_induction patternItems? pattern with
  | case1 => decide
  | case2 rest ih => rw [Option.map_eq_none_iff, ih, closingBackslashes_cons (by decide)]
  | case3 rest ih => rw [Option.map_eq_none_iff, ih, closingBackslashes_cons (by decide)]
  | case4 => decide
  | case5 escaped rest ih => rw [Option.map_eq_none_iff, ih, closingBackslashes_escaped]
  | case6 wanted rest noPercent noUnderscore noEnd noBackslash ih =>
    have plain : wanted ≠ '\\' := by
      intro backslash
      cases rest with
      | nil => exact noEnd backslash rfl
      | cons escaped others => exact noBackslash escaped others backslash rfl
    rw [Option.map_eq_none_iff, ih, closingBackslashes_cons plain]

/-- An escaped character is one item. -/
theorem patternItems?_escaped (wanted : Char) (rest : List Char) :
    patternItems? (escapedPatternCharacter wanted ++ rest) = (patternItems? rest).map (.exactly wanted :: ·) := by
  unfold escapedPatternCharacter
  split
  · rw [List.cons_append, List.singleton_append, patternItems?]
  · rename_i plain
    simp only [not_or] at plain
    obtain ⟨noBackslash, noPercent, noUnderscore⟩ := plain
    rw [List.singleton_append, patternItems?] <;> simp_all

/-- An escaped needle is read as its characters. -/
theorem patternItems?_needle (needle rest : List Char) :
    patternItems? (needle.flatMap escapedPatternCharacter ++ rest) =
      (patternItems? rest).map (needle.map .exactly ++ ·) := by
  induction needle with
  | nil => simp
  | cons character needle ih =>
    rw [List.flatMap_cons, List.append_assoc, patternItems?_escaped, ih, Option.map_map]
    rfl

/-- The items of a text match: the characters of the needle, and any characters where others may stand. -/
def itemsOf (needle : List Char) : TextMatch → List PatternItem
  | .contains => .characters :: (needle.map .exactly ++ [.characters])
  | .startsWith => needle.map .exactly ++ [.characters]
  | .endsWith => .characters :: needle.map .exactly

/-- The pattern of a text match has the items that are meant: nothing of the needle is read as a wildcard, and
no backslash is left without a character to escape. -/
theorem patternItems?_pattern (word : TextMatch) (needle : String) :
    patternItems? (pattern word needle).toList = some (itemsOf needle.toList word) := by
  have percent : patternItems? ['%'] = some [.characters] := rfl
  cases word with
  | contains =>
    simp only [pattern, escapedPattern, String.toList_append, String.toList_ofList]
    change patternItems? ('%' :: (needle.toList.flatMap escapedPatternCharacter ++ ['%'])) = _
    rw [patternItems?, patternItems?_needle, percent]
    rfl
  | startsWith =>
    simp only [pattern, escapedPattern, String.toList_append, String.toList_ofList]
    change patternItems? (needle.toList.flatMap escapedPatternCharacter ++ ['%']) = _
    rw [patternItems?_needle, percent]
    rfl
  | endsWith =>
    simp only [pattern, escapedPattern, String.toList_append, String.toList_ofList]
    change patternItems? ('%' :: needle.toList.flatMap escapedPatternCharacter) = _
    rw [patternItems?, ← List.append_nil (needle.toList.flatMap _), patternItems?_needle]
    simp [patternItems?, itemsOf]

/-- The characters of a needle stand for a beginning. -/
theorem spans_needle_iff {needle text : List Char} {items : List PatternItem} :
    Spans (needle.map .exactly ++ items) text ↔ ∃ back, text = needle ++ back ∧ Spans items back := by
  induction needle generalizing text with
  | nil => simp
  | cons character needle ih =>
    simp only [List.map_cons, List.cons_append, Spans, ih]
    constructor
    · rintro ⟨_, rfl, back, rfl, spans⟩
      exact ⟨back, rfl, spans⟩
    · rintro ⟨back, rfl, spans⟩
      exact ⟨_, rfl, back, rfl, spans⟩

theorem spans_characters_cons_iff {items : List PatternItem} {text : List Char} :
    Spans (.characters :: items) text ↔ ∃ front back, text = front ++ back ∧ Spans items back := Iff.rfl

/-- Any characters at the end stand for any rest. -/
theorem spans_characters (text : List Char) : Spans [.characters] text :=
  ⟨text, [], (List.append_nil text).symm, rfl⟩

/-- The items of a text match stand for the texts that hold the needle in this way. -/
theorem spans_itemsOf_iff {word : TextMatch} {needle text : List Char} :
    Spans (itemsOf needle word) text ↔ word.Finds needle text := by
  cases word with
  | contains =>
    rw [itemsOf, spans_characters_cons_iff]
    simp only [spans_needle_iff, spans_characters, and_true]
    constructor
    · rintro ⟨front, _, whole, back, rfl⟩
      exact ⟨front, back, by rw [whole, List.append_assoc]⟩
    · rintro ⟨front, back, whole⟩
      exact ⟨front, needle ++ back, by rw [← whole, List.append_assoc], back, rfl⟩
  | startsWith =>
    simp only [itemsOf, spans_needle_iff, spans_characters, and_true]
    exact exists_congr fun back => eq_comm
  | endsWith =>
    rw [itemsOf, ← List.append_nil (needle.map _)]
    simp only [Spans, spans_needle_iff]
    constructor
    · rintro ⟨front, _, whole, _, rfl, rfl⟩
      exact ⟨front, by rw [whole, List.append_nil]⟩
    · rintro ⟨front, whole⟩
      exact ⟨front, needle, whole.symm, [], (List.append_nil needle).symm, rfl⟩

/-- The pattern of a text match stands for the texts that hold the needle in this way. -/
theorem matchesPattern_pattern (word : TextMatch) (haystack needle : String) :
    matchesPattern (pattern word needle).toList haystack.toList = word.admits haystack needle := by
  rw [Bool.eq_iff_iff, matchesPattern_iff_spans, patternItems?_pattern, TextMatch.admits_iff_finds,
    ← spans_itemsOf_iff]
  simp

/-- Whatever characters the needle has, the pattern of a text match accepts in SQL exactly the texts that pass
the test in memory, which are those that hold the needle in this way, and the backslashes at its end pair up. -/
theorem pattern_accepts_iff (word : TextMatch) (needle haystack : String) :
    (matchesPattern (pattern word needle).toList haystack.toList = true ↔
      (Test.text word needle).holds (.text haystack) = true) ∧
    ((Test.text word needle).holds (.text haystack) = true ↔ word.Finds needle.toList haystack.toList) ∧
    (∃ items, patternItems? (pattern word needle).toList = some items ∧
      (Spans items haystack.toList ↔ word.Finds needle.toList haystack.toList)) ∧
    closingBackslashes (pattern word needle).toList % 2 = 0 := by
  have inMemory : (Test.text word needle).holds (.text haystack) = word.admits haystack needle := rfl
  have read := patternItems?_pattern word needle
  refine ⟨by rw [inMemory, matchesPattern_pattern], inMemory ▸ TextMatch.admits_iff_finds,
    ⟨_, read, spans_itemsOf_iff⟩, ?_⟩
  have paired : ¬ closingBackslashes (pattern word needle).toList % 2 = 1 := by
    rw [← patternItems?_eq_none_iff, read]
    exact Option.some_ne_none _
  omega

end Sql

end RecordQuery
