import Mathlib.Data.List.DropRight
import Mathlib.Tactic.IntervalCases
import RecordQuery.Text.Folding

/-! # Names in another spelling

Folding takes no notice of blanks at the ends of a name and of the case of the letters A to Z, also where a
letter decides about the form of a sigma beside it. What is asked of single characters is checked letter by
letter, since any other character is its own lower case.
-/

namespace RecordQuery.Text

variable {character : Char}

/-- The text with the letters A to Z as a to z. -/
def lowered (text : String) : String := String.ofList (text.toList.map Char.toLower)

theorem toList_lowered (text : String) : (lowered text).toList = text.toList.map Char.toLower := String.toList_ofList

/-- The letters A to Z. -/
def capitals : List Char := "ABCDEFGHIJKLMNOPQRSTUVWXYZ".toList

theorem toLower_eq_self_or (character : Char) : character.toLower = character ∨ character ∈ capitals := by
  unfold Char.toLower
  split
  · rename_i capital
    right
    simp only [ge_iff_le, UInt32.le_iff_toNat_le] at capital
    change 65 ≤ character.toNat ∧ character.toNat ≤ 90 at capital
    obtain ⟨least, most⟩ := capital
    rw [← Char.ofNat_toNat character]
    generalize character.toNat = code at least most
    interval_cases code <;> decide
  · exact .inl rfl

/-- What agrees for each of the letters A to Z and its lower case agrees for every character. -/
theorem toLower_congr {α : Type} [DecidableEq α] (property : Char → α)
    (letters : capitals.all fun capital => property capital.toLower = property capital) (character : Char) :
    property character.toLower = property character := by
  rcases toLower_eq_self_or character with same | capital
  · rw [same]
  · exact of_decide_eq_true (List.all_eq_true.mp letters character capital)

theorem toLower_toLower (character : Char) : character.toLower.toLower = character.toLower :=
  toLower_congr Char.toLower (by decide +kernel) character

theorem isBlank_toLower (character : Char) : isBlank character.toLower = isBlank character :=
  toLower_congr isBlank (by decide +kernel) character

theorem isCased_toLower (character : Char) : isCased character.toLower = isCased character :=
  toLower_congr isCased (by decide +kernel) character

theorem isCaseIgnorable_toLower (character : Char) : isCaseIgnorable character.toLower = isCaseIgnorable character :=
  toLower_congr isCaseIgnorable (by decide +kernel) character

theorem lowerLetter_toLower (character : Char) : lowerLetter character.toLower = lowerLetter character :=
  toLower_congr lowerLetter (by decide +kernel) character

theorem utf8Size_toLower (character : Char) : character.toLower.utf8Size = character.utf8Size :=
  toLower_congr Char.utf8Size (by decide +kernel) character

/-- The character is none of the letters A to Z and a to z. -/
def isUncased (mark : Char) : Bool := capitals.all fun capital => capital.toLower ≠ mark ∧ capital ≠ mark

/-- Only the character itself becomes one that is no letter. -/
theorem toLower_eq_iff {mark : Char} (uncased : isUncased mark) : character.toLower = mark ↔ character = mark := by
  rcases toLower_eq_self_or character with same | capital
  · rw [same]
  · obtain ⟨lower, upper⟩ := of_decide_eq_true (List.all_eq_true.mp uncased character capital)
    exact iff_of_false lower upper

/-! ## Blanks at the ends -/

theorem trimRight_eq (characters : List Char) : trimRight characters = characters.rdropWhile isBlank := rfl

theorem trimBoth_trimBoth (characters : List Char) : trimBoth (trimBoth characters) = trimBoth characters := by
  have trimmed : trimLeft (trimBoth characters) = trimBoth characters := by
    refine List.dropWhile_eq_self_iff.mpr fun nonempty => ?_
    have same := (List.rdropWhile_prefix isBlank (trimLeft characters)).getElem nonempty
    rw [show (trimBoth characters)[0] = _ from same]
    exact List.dropWhile_get_zero_not isBlank characters _
  rw [trimBoth, trimmed, trimBoth, trimRight_eq, trimRight_eq, List.rdropWhile_idempotent]

section Blanks

variable {left right characters : List Char}

theorem trimBoth_append_left (blank : left.all isBlank) (characters : List Char) :
    trimBoth (left ++ characters) = trimBoth characters := by
  rw [trimBoth, trimLeft, List.dropWhile_append_of_pos (List.all_eq_true.mp blank), trimBoth, trimLeft]

theorem trimRight_append_right (characters : List Char) (blank : right.all isBlank) :
    trimRight (characters ++ right) = trimRight characters := by
  have turned : ∀ character ∈ right.reverse, isBlank character = true :=
    fun character member => List.all_eq_true.mp blank character (List.mem_reverse.mp member)
  rw [trimRight, List.reverse_append, List.dropWhile_append_of_pos turned, trimRight]

theorem trimBoth_eq_nil_iff : trimBoth characters = [] ↔ characters.all isBlank := by
  rw [trimBoth, trimRight_eq, List.rdropWhile_eq_nil_iff, List.all_eq_true]
  constructor
  · intro blank character member
    rw [← List.takeWhile_append_dropWhile (p := isBlank) (l := characters)] at member
    exact (List.mem_append.mp member).elim (List.all_eq_true.mp List.all_takeWhile character) (blank character)
  · intro blank character member
    exact blank character (List.dropWhile_subset _ member)

theorem trimBoth_append_right (characters : List Char) (blank : right.all isBlank) :
    trimBoth (characters ++ right) = trimBoth characters := by
  by_cases vanishes : trimLeft characters = []
  · have all : characters.all isBlank := List.all_eq_true.mpr (List.dropWhile_eq_nil_iff.mp vanishes)
    rw [trimBoth_eq_nil_iff.mpr all, trimBoth_eq_nil_iff, List.all_append, all, blank]
    rfl
  · have kept : trimLeft (characters ++ right) = trimLeft characters ++ right := by
      rw [trimLeft, List.dropWhile_append, if_neg (by rwa [List.isEmpty_iff]), trimLeft]
    rw [trimBoth, kept, trimRight_append_right _ blank, trimBoth]

/-- Only blanks are trimmed off. -/
theorem exists_blanks (characters : List Char) : ∃ left right,
    characters = left ++ trimBoth characters ++ right ∧ left.all isBlank ∧ right.all isBlank := by
  refine ⟨characters.takeWhile isBlank, (trimLeft characters).rtakeWhile isBlank, ?_, List.all_takeWhile,
    List.all_eq_true.mpr fun _ => List.mem_rtakeWhile_imp⟩
  rw [List.append_assoc, trimBoth, trimRight_eq, List.rdropWhile_append_rtakeWhile, trimLeft,
    List.takeWhile_append_dropWhile]

end Blanks

theorem trim_trim (text : String) : trim (trim text) = trim text := by
  rw [trim, trim, String.toList_ofList, trimBoth_trimBoth]

theorem fold_trim (name : String) : fold (trim name) = fold name := by
  rw [fold, trim_trim, fold]

/-! ## The case of letters -/

theorem byteLength_map_toLower (characters : List Char) :
    byteLength (characters.map Char.toLower) = byteLength characters := by
  induction characters with
  | nil => rfl
  | cons first rest ih => rw [List.map_cons, byteLength, byteLength, utf8Size_toLower, ih]

theorem dropWhile_map_toLower {stops : Char → Bool} (same : ∀ character, stops character.toLower = stops character)
    (characters : List Char) :
    (characters.map Char.toLower).dropWhile stops = (characters.dropWhile stops).map Char.toLower := by
  rw [List.dropWhile_map, funext (f := stops ∘ Char.toLower) same]

theorem takeWhile_map_toLower {stops : Char → Bool} (same : ∀ character, stops character.toLower = stops character)
    (characters : List Char) :
    (characters.map Char.toLower).takeWhile stops = (characters.takeWhile stops).map Char.toLower := by
  rw [List.takeWhile_map, funext (f := stops ∘ Char.toLower) same]

theorem trimBoth_map_toLower (characters : List Char) :
    trimBoth (characters.map Char.toLower) = (trimBoth characters).map Char.toLower := by
  rw [trimBoth, trimLeft, dropWhile_map_toLower isBlank_toLower, trimRight, ← List.map_reverse,
    dropWhile_map_toLower isBlank_toLower, ← List.map_reverse]
  rfl

theorem meetsCased_map_toLower (characters : List Char) :
    meetsCased (characters.map Char.toLower) = meetsCased characters := by
  rw [meetsCased, meetsCased, dropWhile_map_toLower isCaseIgnorable_toLower]
  cases characters.dropWhile isCaseIgnorable with
  | nil => rfl
  | cons first rest => exact isCased_toLower first

/-- The letters around a letter have the same influence in any case. -/
theorem lowerFrom_map_toLower (before characters : List Char) :
    lowerFrom (before.map Char.toLower) (characters.map Char.toLower) = lowerFrom before characters := by
  induction characters generalizing before with
  | nil => rfl
  | cons first rest ih =>
    have sigma : first.toLower = 'Σ' ↔ first = 'Σ' := toLower_eq_iff (by decide)
    have dotted : first.toLower = 'İ' ↔ first = 'İ' := toLower_eq_iff (by decide)
    have behind := ih (first :: before)
    rw [List.map_cons] at behind
    simp only [List.map_cons, lowerFrom, behind, sigma, dotted, lowerLetter_toLower, lowerSigma,
      meetsCased_map_toLower]

/-- The case of the letters A to Z does not count in a name. -/
theorem fold_lowered (name : String) : fold (lowered name) = fold name := by
  rw [fold, fold, lowercase, lowercase, trim, trim, toList_lowered, String.toList_ofList, String.toList_ofList,
    trimBoth_map_toLower]
  exact congrArg String.ofList (lowerFrom_map_toLower [] _)

theorem map_toLower_map_toLower (characters : List Char) :
    (characters.map Char.toLower).map Char.toLower = characters.map Char.toLower := by
  rw [List.map_map, funext (f := Char.toLower ∘ Char.toLower) toLower_toLower]

theorem trim_lowered (text : String) : trim (lowered text) = lowered (trim text) := by
  rw [trim, toList_lowered, trimBoth_map_toLower, lowered, trim, String.toList_ofList]

theorem lowered_eq_empty_iff (text : String) : lowered text = "" ↔ text = "" := by
  rw [← String.toList_eq_nil_iff, toList_lowered, List.map_eq_nil_iff, String.toList_eq_nil_iff]

theorem equalIgnoringCase_lowered (first second : String) :
    equalIgnoringCase (lowered first) second = equalIgnoringCase first second := by
  rw [equalIgnoringCase, toList_lowered, map_toLower_map_toLower, equalIgnoringCase]

theorem equalIgnoringCase_lowered_right (first second : String) :
    equalIgnoringCase first (lowered second) = equalIgnoringCase first second := by
  rw [equalIgnoringCase, toList_lowered, map_toLower_map_toLower, equalIgnoringCase]

end RecordQuery.Text
