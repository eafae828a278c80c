import RecordQuery.Proofs.Filter.Positions
import RecordQuery.Shell.Session

/-! # The mark below an error

The mark stands behind as many blanks as there are characters in front of the byte of an error, provided that
this byte stands between characters. That holds for all errors of filters and sort lists but one: a text that
is too long is reported at the limit itself, which may lie inside a character. The mark then stands behind as
many blanks as there are bytes.
-/

namespace RecordQuery.Shell

variable {position : Nat} {characters : List Char} {text : String}

/-- The characters in front of a byte are counted. -/
theorem column?_byteLength (before behind : List Char) :
    column? (Text.byteLength before) (before ++ behind) = some before.length := by
  induction before with
  | nil => cases behind <;> rfl
  | cons first rest ih =>
    have wide := Char.utf8Size_pos first
    have inside : first.utf8Size ≤ Text.byteLength (first :: rest) := Nat.le_add_right _ _
    have passed : Text.byteLength (first :: rest) - first.utf8Size = Text.byteLength rest :=
      Nat.add_sub_cancel_left _ _
    rw [List.cons_append, column?, if_neg (by omega), if_pos inside, passed, ih]
    rfl

/-- Characters are counted only in front of a byte between two of them. -/
theorem isBoundary_of_column? {column : Nat} (counted : column? position characters = some column) :
    Text.IsBoundary characters position := by
  induction characters generalizing position column with
  | nil =>
    rw [column?] at counted
    split at counted
    · rename_i start
      exact start ▸ Text.isBoundary_zero []
    · cases counted
  | cons first rest ih =>
    rw [column?] at counted
    split at counted
    · rename_i start
      exact start ▸ Text.isBoundary_zero _
    · split at counted
      · rename_i inside
        obtain ⟨_, found, -⟩ := Option.map_eq_some_iff.mp counted
        obtain ⟨before, behind, rfl, same⟩ := ih found
        refine ⟨first :: before, behind, rfl, ?_⟩
        rw [Text.byteLength, same]
        omega
      · cases counted

/-- The byte stands between characters, and its mark behind as many blanks as there are characters before it. -/
def MarksPlace (text : String) (position : Nat) : Prop :=
  ∃ before behind, text.toList = before ++ behind ∧ Text.byteLength before = position ∧
    markedText text position = ["  " ++ text, "  " ++ String.ofList (List.replicate before.length ' ') ++ "^"]

theorem marksPlace_iff : MarksPlace text position ↔ Text.IsBoundary text.toList position := by
  constructor
  · rintro ⟨before, behind, whole, same, -⟩
    exact ⟨before, behind, whole, same⟩
  · rintro ⟨before, behind, whole, rfl⟩
    refine ⟨before, behind, whole, rfl, ?_⟩
    rw [markedText, whole, column?_byteLength, Option.getD_some]

/-- Inside a character the bytes are counted. -/
theorem markedText_of_not_isBoundary (inside : ¬ Text.IsBoundary text.toList position) :
    markedText text position = ["  " ++ text, "  " ++ String.ofList (List.replicate position ' ') ++ "^"] := by
  have uncounted : column? position text.toList = none :=
    Option.eq_none_iff_forall_ne_some.mpr fun _ counted => inside (isBoundary_of_column? counted)
  rw [markedText, uncounted, Option.getD_none]

/-- Every error of a filter or of a sort list is reported at a byte of the text or at its end. This byte stands
between characters, and the mark below the text behind exactly the characters in front of it. The one exception
is a filter that is longer than a limit inside a character: it is refused at the limit, with a mark behind as
many blanks as the limit has bytes. -/
theorem marksPlace_of_refused (limits : Limits) (text : String) :
    (∀ error, Filter.parse limits text = .error error →
      error.position ≤ Text.byteLength text.toList ∧
      (MarksPlace text error.position ↔
        ¬ (limits.maxLength < Text.byteLength text.toList ∧ ¬ Text.IsBoundary text.toList limits.maxLength)) ∧
      (¬ MarksPlace text error.position →
        error = .grammatical ⟨limits.maxLength, .tooLong limits.maxLength⟩ ∧
        markedText text error.position =
          ["  " ++ text, "  " ++ String.ofList (List.replicate limits.maxLength ' ') ++ "^"])) ∧
    ∀ error, SortList.parse text = .error error →
      error.position ≤ Text.byteLength text.toList ∧ MarksPlace text error.position := by
  constructor
  · intro error refused
    rw [marksPlace_iff]
    rcases Filter.isBoundary_of_parse refused with boundary | ⟨long, rfl⟩
    · refine ⟨boundary.le, iff_of_true boundary ?_, fun inside => absurd boundary inside⟩
      rintro ⟨long, inside⟩
      rw [Filter.parse_of_long long] at refused
      cases refused
      exact inside boundary
    · refine ⟨Nat.le_of_lt long, ?_, fun inside => ⟨rfl, markedText_of_not_isBoundary inside⟩⟩
      change Text.IsBoundary text.toList limits.maxLength ↔ _
      tauto
  · intro error refused
    have boundary := SortList.isBoundary_of_parse refused
    exact ⟨boundary.le, marksPlace_iff.mpr boundary⟩

/-- The limit of nine bytes lies inside the letter between the quotes. -/
example : Filter.parse ⟨9, 32⟩ "name = 'é'" = .error (.grammatical ⟨9, .tooLong 9⟩) ∧
    column? 9 "name = 'é'".toList = none := by decide

end RecordQuery.Shell
