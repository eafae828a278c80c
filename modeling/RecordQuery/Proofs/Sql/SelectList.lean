import RecordQuery.Proofs.Sql.Tokens

/-! # The columns that a statement selects

The selected columns are read from the tokens of a statement: each is a column, the word AS and its output name,
commas stand between two of them, and the word FROM behind the last. They are those of the statement, in order,
whatever else it says.
-/

namespace RecordQuery.Sql

/-- Reads at least one selected column, up to the word FROM. -/
def selections? : List Token → Option (List Selection)
  | .identifier column :: .word joining :: .identifier output :: behind =>
    let selection : Selection := ⟨String.ofList column, String.ofList output⟩
    if joining = "AS".toList then
      match behind with
      | .sign [','] :: more => (selections? more).map (selection :: ·)
      | .word ending :: _ => if ending = "FROM".toList then some [selection] else none
      | _ => none
    else none
  | _ => none

/-- Reads the columns that a statement selects, which may be none. -/
def selectList? : List Token → Option (List Selection)
  | .word leading :: behind =>
    if leading = "SELECT".toList then
      if behind.head? = some (.word "FROM".toList) then some [] else selections? behind
    else none
  | _ => none

/-- Selected columns in front of the word FROM are read back. -/
theorem selections?_commaSeparated {selections : List Selection} (nonempty : selections ≠ [])
    (behind : List Token) :
    selections? ((commaSeparated (selections.map Selection.pieces)).flatMap Piece.tokens ++
      .word "FROM".toList :: behind) = some selections := by
  induction selections with
  | nil => exact absurd rfl nonempty
  | cons selection rest ih =>
    have tokens : selection.pieces.flatMap Piece.tokens =
        [.identifier selection.column.toList, .word "AS".toList, .identifier selection.output.toList] := rfl
    cases rest with
    | nil =>
      change selections? (selection.pieces.flatMap Piece.tokens ++ _) = _
      rw [tokens]
      simp [selections?]
    | cons second more =>
      have remaining := ih (List.cons_ne_nil _ _)
      have separated : (commaSeparated ((selection :: second :: more).map Selection.pieces)).flatMap
          Piece.tokens = selection.pieces.flatMap Piece.tokens ++ .sign [','] ::
            (commaSeparated ((second :: more).map Selection.pieces)).flatMap Piece.tokens := by
        simp [commaSeparated, Piece.tokens]
      rw [separated, tokens]
      simp only [List.cons_append, List.nil_append, selections?, String.ofList_toList, remaining, if_true]
      rfl

/-- The columns that a statement selects are read back from its tokens. -/
theorem Statement.selectList?_tokens (statement : Statement) :
    selectList? (statement.pieces.flatMap Piece.tokens) = some statement.selections := by
  obtain ⟨rest, tokens⟩ : ∃ rest, statement.pieces.flatMap Piece.tokens = .word "SELECT".toList ::
      ((commaSeparated (statement.selections.map Selection.pieces)).flatMap Piece.tokens ++
        .word "FROM".toList :: rest) := by
    simp [pieces, Piece.tokens]
  rw [tokens]
  cases selected : statement.selections with
  | nil => rfl
  | cons selection others =>
    have read := selections?_commaSeparated (List.cons_ne_nil selection others) rest
    rw [selectList?, if_pos rfl, if_neg, read]
    cases others <;> simp [commaSeparated, Selection.pieces, Piece.tokens]

end RecordQuery.Sql
