import RecordQuery.Proofs.Query.Dependence
import RecordQuery.Proofs.Sql.Tokens

/-! # What a statement is written with

The condition of a statement is written with its constants, and beside them only with blanks, marks, names,
texts and certain words. The constants are those of the values that the query compares with, in their order,
and so are the numbers in the text of a statement. The clause that sorts is the last one, and no word before
it looks like its beginning.
-/

namespace RecordQuery.Sql

/-- The constants in an expression from left to right. -/
def Expression.scalars : Expression → List Scalar
  | relation _ _ value => [value]
  | membership _ values => values
  | like _ _ | isNull _ | isNotNull _ => []
  | conjunction left right | disjunction left right => left.scalars ++ right.scalars
  | negation inner => inner.scalars

/-- The constants in the condition of a statement. -/
def Statement.scalars (statement : Statement) : List Scalar := statement.condition?.elim [] Expression.scalars

/-- The words of statements in front of the sorting clause. -/
def frameWords : List String :=
  ["SELECT", "AS", "FROM", "WHERE", "AND", "OR", "NOT", "IN", "LIKE", "ESCAPE", "IS", "NULL"]

/-- The piece is neither a number nor a truth value, nor does it belong to the sorting clause alone. -/
def Piece.isFrame : Piece → Bool
  | blank | mark _ | identifier _ | text _ => true
  | word letters => frameWords.contains letters
  | number _ => false

/-- Without their frame the pieces write these constants. -/
def Writes (pieces : List Piece) (scalars : List Scalar) : Prop :=
  pieces.filter (! ·.isFrame) = (scalars.map Scalar.piece).filter (! ·.isFrame)

variable {pieces first second : List Piece} {scalars before behind : List Scalar}

theorem Writes.append (left : Writes first before) (right : Writes second behind) :
    Writes (first ++ second) (before ++ behind) := by
  rw [Writes, List.filter_append, List.map_append, List.filter_append, left, right]

/-- Outside the frame there are only the pieces of the constants. -/
theorem Writes.mem_iff (writes : Writes pieces scalars) {piece : Piece} (outside : piece.isFrame = false) :
    piece ∈ pieces ↔ ∃ scalar ∈ scalars, scalar.piece = piece := by
  have same : piece ∈ pieces.filter (! ·.isFrame) ↔
      piece ∈ (scalars.map Scalar.piece).filter (! ·.isFrame) := by rw [writes]
  simpa [outside] using same

/-- What is in the frame writes nothing. -/
theorem writes_nil (frame : pieces.all Piece.isFrame) : Writes pieces [] := by
  rw [List.all_eq_true] at frame
  refine List.filter_eq_nil_iff.mpr fun piece member => ?_
  rw [frame piece member]
  exact Bool.false_ne_true

theorem Writes.append_nil (left : Writes first before) (frame : second.all Piece.isFrame) :
    Writes (first ++ second) before := by
  simpa only [List.append_nil] using left.append (writes_nil frame)

theorem Writes.nil_append (frame : first.all Piece.isFrame) (right : Writes second behind) :
    Writes (first ++ second) behind := (writes_nil frame).append right

theorem writes_parenthesized (inner : Writes pieces scalars) : Writes (parenthesized pieces) scalars :=
  (Writes.nil_append rfl inner).append_nil rfl

/-- Separated items write their constants one after the other. -/
theorem writes_items {α : Type} {write : α → List Piece} {constants : α → List Scalar}
    (each : ∀ item, Writes (write item) (constants item)) (items : List α) :
    Writes (commaSeparated (items.map write)) (items.flatMap constants) := by
  induction items with
  | nil => exact writes_nil rfl
  | cons item rest ih =>
    rw [List.flatMap_cons]
    cases rest with
    | nil => simpa [commaSeparated] using each item
    | cons => exact ((each item).append_nil rfl).append ih

private theorem isFrame_or_mem_of_commaSeparated {items : List (List Piece)} {piece : Piece}
    (member : piece ∈ commaSeparated items) : piece.isFrame ∨ ∃ item ∈ items, piece ∈ item := by
  fun_induction commaSeparated items with
  | case1 => cases member
  | case2 item => exact .inr ⟨item, List.mem_cons_self, member⟩
  | case3 item rest more ih =>
    rcases List.mem_append.mp member with leading | remaining
    · rcases List.mem_append.mp leading with inside | comma
      · exact .inr ⟨item, List.mem_cons_self, inside⟩
      · have frame : [Piece.mark ",", .blank].all Piece.isFrame := rfl
        exact .inl (List.all_eq_true.mp frame piece comma)
    · rcases ih remaining with frame | ⟨other, among, inside⟩
      · exact .inl frame
      · exact .inr ⟨other, List.mem_cons_of_mem _ among, inside⟩

theorem writes_wrapped (needed : Bool) (inner : Writes pieces scalars) :
    Writes (Expression.wrapped needed pieces) scalars := by
  cases needed with
  | false => exact inner
  | true => exact writes_parenthesized inner

/-- An expression is written with its constants in their order. -/
theorem Expression.writes_pieces (expression : Expression) : Writes expression.pieces expression.scalars := by
  induction expression with
  | relation column sign value =>
    have start : [.identifier column, .blank, .mark (relationSign sign), .blank].all Piece.isFrame := rfl
    exact Writes.nil_append start rfl
  | membership column values =>
    have start : [.identifier column, .blank, .word "IN", .blank].all Piece.isFrame := rfl
    have item (value : Scalar) : Writes [value.piece] [value] := rfl
    have items := writes_items item values
    rw [List.flatMap_singleton'] at items
    exact Writes.nil_append start (writes_parenthesized items)
  | like column pattern | isNull column | isNotNull column => exact writes_nil rfl
  | conjunction left right ihLeft ihRight | disjunction left right ihLeft ihRight =>
    rw [pieces, scalars]
    exact ((writes_wrapped _ ihLeft).append_nil rfl).append (writes_wrapped _ ihRight)
  | negation inner ih => exact Writes.nil_append rfl (writes_wrapped _ ih)

/-- The text is a numeral: a sign, if there is one, digits, and a point with other digits, if there is one. -/
def IsNumeral (text : List Char) : Prop :=
  ∃ negative whole fraction, whole ≠ [] ∧ (∀ digit ∈ whole ++ fraction, digit.isDigit) ∧
    text = Number.numeral negative whole fraction

/-- A numeral is no word. -/
theorem IsNumeral.word_not_mem {characters : List Char} (isNumeral : IsNumeral characters)
    (letters : List Char) : .word letters ∉ numberTokens characters := by
  obtain ⟨negative, whole, fraction, nonempty, digits, rfl⟩ := isNumeral
  rw [numberTokens_numeral nonempty digits]
  cases negative <;> simp

theorem isNumeral_of_isFinite {value : Number} (isFinite : value.isFinite) : IsNumeral value.text.toList := by
  obtain ⟨negative, whole, fraction, nonempty, digits, written, -⟩ := Number.exists_numeral isFinite
  exact ⟨negative, whole, fraction, nonempty, digits, written⟩

theorem isNumeral_of_integer (value : Int) : IsNumeral (toString value).toList := by
  obtain ⟨negative, whole, nonempty, digits, written⟩ := exists_numeral_of_integer value
  exact ⟨negative, whole, [], nonempty, digits, written⟩

/-- An infinity is no numeral. -/
theorem not_isNumeral_infinite (negative : Bool) : ¬IsNumeral (Number.infinite negative).text.toList := by
  intro isNumeral
  apply isNumeral.word_not_mem ['i', 'n', 'f']
  rw [numberTokens_infinite]
  exact List.mem_append_right _ (List.mem_singleton_self _)

/-- The constant of a defined value that is written as a number is a numeral, or the value is infinite. -/
theorem isNumeral_or_infinite {value : Value} {scalar : Scalar} {digits : String}
    (defined : value ≠ .number .nan) (constant : Scalar.ofValue? value = some scalar)
    (written : scalar.piece = .number digits) :
    IsNumeral digits.toList ∨
      ∃ negative, value = .number (.infinite negative) ∧ digits = (Number.infinite negative).text := by
  cases value with
  | null => cases constant
  | text | instant | variant =>
    cases constant
    cases written
  | boolean =>
    cases constant
    cases written
  | number content =>
    obtain rfl : Scalar.ofNumber content = scalar := Option.some.inj constant
    unfold Scalar.ofNumber at written
    split at written
    · cases written
      exact .inl (isNumeral_of_integer _)
    · cases written
      cases content with
      | nan => exact absurd rfl defined
      | infinite negative => exact .inr ⟨negative, rfl, rfl⟩
      | finite negative steps below short => exact .inl (isNumeral_of_isFinite rfl)

/-- No constant looks like the beginning of the sorting clause, also where a number is a word. -/
private theorem order_not_mem_scalar (scalar : Scalar) : .word "ORDER".toList ∉ scalar.piece.tokens := by
  cases scalar with
  | text content => exact fun member => by cases List.mem_singleton.mp member
  | boolean value => cases value <;> decide
  | integer value => exact (isNumeral_of_integer value).word_not_mem _
  | number value =>
    cases value with
    | nan => decide
    | infinite negative => cases negative <;> decide
    | finite negative steps below short => exact (isNumeral_of_isFinite rfl).word_not_mem _

namespace Statement

variable {statement : Statement}

/-- The pieces of the sorting clause. -/
def orderPieces (statement : Statement) : List Piece :=
  if statement.order = [] then []
  else
    [.blank, .word "ORDER", .blank, .word "BY", .blank] ++
      commaSeparated (statement.order.map SortColumn.pieces)

/-- The sorting clause stands at the end. -/
theorem pieces_eq_append (statement : Statement) :
    statement.pieces = { statement with order := [] }.pieces ++ statement.orderPieces := by
  simp only [pieces, orderPieces, if_pos, List.append_nil]

/-- A statement that does not sort is written with the constants of its condition in their order. -/
theorem writes_unsorted (statement : Statement) :
    Writes { statement with order := [] }.pieces statement.scalars := by
  obtain ⟨selections, table, condition?, order⟩ := statement
  have shown : Writes (commaSeparated (selections.map Selection.pieces)) (selections.flatMap fun _ => []) :=
    writes_items (fun selection => writes_nil rfl) selections
  have source : Writes ([.word "SELECT", .blank] ++ commaSeparated (selections.map Selection.pieces) ++
      [.blank, .word "FROM", .blank, .identifier table]) [] := by
    rw [List.flatMap_eq_nil_iff.mpr fun _ _ => rfl] at shown
    exact (Writes.nil_append rfl shown).append_nil rfl
  cases condition? with
  | none => exact (source.append_nil rfl).append_nil rfl
  | some condition =>
    have chosen : Writes ([.blank, .word "WHERE", .blank] ++ condition.pieces) condition.scalars :=
      Writes.nil_append rfl condition.writes_pieces
    exact (source.append chosen).append_nil rfl

/-- The sorting clause has no numbers. -/
private theorem number_not_mem_orderPieces {digits : String} : .number digits ∉ statement.orderPieces := by
  have keys : .number digits ∉ commaSeparated (statement.order.map SortColumn.pieces) := by
    intro member
    rcases isFrame_or_mem_of_commaSeparated member with frame | ⟨key, among, inside⟩
    · cases frame
    · obtain ⟨⟨column, direction⟩, -, rfl⟩ := List.mem_map.mp among
      cases direction <;> simp [SortColumn.pieces] at inside
  unfold orderPieces
  split
  · exact List.not_mem_nil
  · simp [keys]

/-- The numbers in the text of a statement are those among the constants of its condition. -/
theorem number_mem_pieces_iff {digits : String} :
    .number digits ∈ statement.pieces ↔ ∃ scalar ∈ statement.scalars, scalar.piece = .number digits := by
  rw [pieces_eq_append, List.mem_append, or_iff_left number_not_mem_orderPieces]
  exact statement.writes_unsorted.mem_iff rfl

/-- No word in front of the sorting clause looks like its beginning. -/
theorem order_not_mem_tokens :
    .word "ORDER".toList ∉ { statement with order := [] }.pieces.flatMap Piece.tokens := by
  intro among
  obtain ⟨piece, member, token⟩ := List.mem_flatMap.mp among
  cases frame : piece.isFrame with
  | true =>
    cases piece with
    | blank => cases token
    | number digits => cases frame
    | mark | identifier | text => cases List.mem_singleton.mp token
    | word letters =>
      have same : "ORDER" = letters := String.toList_injective (Token.word.inj (List.mem_singleton.mp token))
      subst same
      cases frame
  | false =>
    obtain ⟨scalar, -, rfl⟩ := (statement.writes_unsorted.mem_iff frame).mp member
    exact order_not_mem_scalar scalar token

end Statement

/-- A test is written with the constants of its operands, and guards add none. -/
theorem scalars_ofTest (column : String) (negated : Bool) (question : Test) :
    (ofTest column negated question).scalars = question.operands.filterMap Scalar.ofValue? := by
  have guarded (matchesNull : Bool) (expression : Expression) :
      (Expression.guarded column matchesNull negated expression).scalars = expression.scalars := by
    unfold Expression.guarded
    split <;> simp [Expression.scalars]
  cases question with
  | relation sign value =>
    cases found : Scalar.ofValue? value with
    | none => cases sign <;> simp [ofTest, found, Test.operands, Expression.scalars]
    | some scalar => simp [ofTest, found, guarded, Test.operands, Expression.scalars]
  | text word needle => simp [ofTest, guarded, Test.operands, Expression.scalars]
  | membership values =>
    simp only [ofTest, Test.operands]
    split
    · rename_i absent
      rw [absent, Expression.scalars]
    · rw [guarded, Expression.scalars]

theorem scalars_ofCondition {ρ : Type} (negated : Bool) (condition : Condition ρ) :
    (ofCondition negated condition).scalars =
      (condition.tests.flatMap fun bound => bound.2.operands).filterMap Scalar.ofValue? := by
  induction condition generalizing negated with
  | test field question => simp [ofCondition, scalars_ofTest, Condition.tests]
  | conjunction left right ihLeft ihRight | disjunction left right ihLeft ihRight =>
    simp [ofCondition, Expression.scalars, ihLeft, ihRight, Condition.tests]
  | negation inner ih => exact ih _

/-- The constants of a statement are those of the values that its query compares with, in their order. -/
theorem Statement.scalars_ofQuery {ρ : Type} (table : String) (query : Query ρ) :
    (ofQuery table query).scalars = query.operands.filterMap Scalar.ofValue? := by
  unfold scalars ofQuery Query.operands Query.tests
  cases query.condition? with
  | none => rfl
  | some condition => exact scalars_ofCondition false condition

/-- The numbers in the text of a statement are those of the values that its query compares with. -/
theorem Statement.number_mem_pieces_ofQuery_iff {ρ : Type} {table digits : String} {query : Query ρ} :
    .number digits ∈ (ofQuery table query).pieces ↔
      ∃ value ∈ query.operands, ∃ scalar,
        Scalar.ofValue? value = some scalar ∧ scalar.piece = .number digits := by
  rw [number_mem_pieces_iff, scalars_ofQuery]
  simp only [List.mem_filterMap]
  constructor
  · rintro ⟨scalar, ⟨value, member, constant⟩, piece⟩
    exact ⟨value, member, scalar, constant, piece⟩
  · rintro ⟨value, member, scalar, constant, piece⟩
    exact ⟨scalar, ⟨value, member, constant⟩, piece⟩

end RecordQuery.Sql
