import Mathlib.Data.List.Forall2
import RecordQuery.Proofs.Query.Dependence
import RecordQuery.Proofs.Sql.Tokens

/-! # The columns that a statement names

A reader of the tokens of a statement takes every identifier for a column, except that AS is followed by an
output name and FROM by the table. A word that is not of the language is a name too: it is in no need of its
quotes. The columns found in this way are those of the selections, of the condition and of the sort order, and
beside them only the words that stand for infinite and undefined numbers.
-/

namespace RecordQuery.Sql

/-- The words of the language that statements use. -/
def keywords : List String :=
  ["SELECT", "AS", "FROM", "WHERE", "ORDER", "BY", "ASC", "DESC", "NULLS", "FIRST", "LAST", "AND", "OR", "NOT",
    "IN", "LIKE", "ESCAPE", "IS", "NULL", "TRUE", "FALSE"]

/-- What is known between two tokens: whether a name that is no column has to follow, and the columns that
were named so far. -/
structure ColumnScan where
  introduced : Bool
  columns : List String
deriving DecidableEq

/-- Reads a name. -/
def ColumnScan.name (scan : ColumnScan) (name : String) : ColumnScan :=
  ⟨false, if scan.introduced then scan.columns else scan.columns ++ [name]⟩

/-- Reads one token. Without quotes, letter case does not matter. -/
def ColumnScan.step (scan : ColumnScan) : Token → ColumnScan
  | .word letters =>
    let word := String.ofList (letters.map Char.toUpper)
    if keywords.contains word then { scan with introduced := word == "AS" || word == "FROM" }
    else scan.name (String.ofList (letters.map Char.toLower))
  | .identifier name => scan.name (String.ofList name)
  | .sign _ | .constant _ | .number _ => { scan with introduced := false }

/-- The columns that the tokens name. -/
def columnNames (tokens : List Token) : List String := (tokens.foldl ColumnScan.step ⟨false, []⟩).columns

/-- The word of a number that has no digits. -/
def Scalar.names : Scalar → List String
  | number .nan => ["nan"]
  | number (.infinite _) => ["inf"]
  | text _ | integer _ | number _ | boolean _ => []

/-- The names in an expression from left to right. -/
def Expression.names : Expression → List String
  | relation column _ value => column :: value.names
  | membership column values => column :: values.flatMap Scalar.names
  | like column _ | isNull column | isNotNull column => [column]
  | conjunction left right | disjunction left right => left.names ++ right.names
  | negation inner => inner.names

/-- The names in a statement from left to right. -/
def Statement.names (statement : Statement) : List String :=
  statement.selections.map Selection.column ++ statement.condition?.elim [] Expression.names ++
    statement.order.map SortColumn.column

/-- Wherever these pieces stand for themselves, they name these columns and leave nothing introduced. -/
def Names (pieces : List Piece) (columns : List String) : Prop :=
  ∀ before, (pieces.flatMap Piece.tokens).foldl ColumnScan.step ⟨false, before⟩ = ⟨false, before ++ columns⟩

variable {pieces first second : List Piece} {columns before behind : List String}

theorem Names.append (left : Names first before) (right : Names second behind) :
    Names (first ++ second) (before ++ behind) := by
  intro names
  rw [List.flatMap_append, List.foldl_append, left, right, List.append_assoc]

/-- Pieces that name nothing add nothing. -/
theorem Names.append_silent (left : Names first before) (right : Names second []) :
    Names (first ++ second) before := by
  simpa only [List.append_nil] using left.append right

theorem Names.silent_append (left : Names first []) (right : Names second behind) :
    Names (first ++ second) behind := left.append right

private theorem names_nil : Names [] [] := fun names => by simp

private theorem names_blank : Names [.blank] [] := fun names => by simp [Piece.tokens]

private theorem names_mark (sign : String) : Names [.mark sign] [] :=
  fun names => by simp [Piece.tokens, ColumnScan.step]

/-- A word of the language between blanks names nothing unless it introduces a name. -/
private theorem names_word {letters : String} (known : ∀ scan : ColumnScan,
    scan.step (.word letters.toList) = { scan with introduced := false }) :
    Names [.blank, .word letters, .blank] [] :=
  fun names => by simp [Piece.tokens, known]

theorem names_parenthesized (inner : Names pieces columns) : Names (parenthesized pieces) columns :=
  ((names_mark "(").silent_append inner).append_silent (names_mark ")")

/-- Separated items name their columns one after the other. -/
theorem names_commaSeparated {items : List (List Piece)} {names : List (List String)}
    (named : List.Forall₂ Names items names) : Names (commaSeparated items) names.flatten := by
  induction named with
  | nil => exact fun names => by simp [commaSeparated]
  | @cons item columns rest others first remaining ih =>
    cases remaining with
    | nil => simpa only [commaSeparated, List.flatten_cons, List.flatten_nil, List.append_nil] using first
    | cons =>
      rw [commaSeparated, List.flatten_cons]
      · exact ((first.append_silent ((names_mark ",").append names_blank))).append ih
      · exact List.cons_ne_nil _ _

private theorem names_items {α : Type} {write : α → List Piece} {name : α → List String}
    (named : ∀ item, Names (write item) (name item)) (items : List α) :
    Names (commaSeparated (items.map write)) (items.flatMap name) := by
  have each : List.Forall₂ Names (items.map write) (items.map name) := by
    rw [List.forall₂_map_left_iff, List.forall₂_map_right_iff, List.forall₂_same]
    exact fun item _ => named item
  exact names_commaSeparated each

/-- A numeral names nothing. -/
private theorem names_numeral {negative : Bool} {digits : String} {whole fraction : List Char}
    (nonempty : whole ≠ []) (inside : ∀ digit ∈ whole ++ fraction, digit.isDigit)
    (written : digits.toList = Number.numeral negative whole fraction) : Names [.number digits] [] := by
  intro names
  rw [List.flatMap_singleton, Piece.tokens, written, numberTokens_numeral nonempty inside]
  cases negative <;> simp [ColumnScan.step]

theorem Scalar.names_piece (scalar : Scalar) : Names [scalar.piece] scalar.names := by
  cases scalar with
  | text content => exact fun names => by simp [Scalar.piece, Scalar.names, Piece.tokens, ColumnScan.step]
  | boolean value =>
    intro names
    cases value <;> simp [Scalar.piece, Scalar.names, Piece.tokens, ColumnScan.step, keywords]
  | integer value =>
    obtain ⟨negative, whole, nonempty, digits, written⟩ := exists_numeral_of_integer value
    exact names_numeral nonempty digits written
  | number value =>
    cases value with
    | nan =>
      intro names
      change [Token.word ['N', 'a', 'N']].foldl _ _ = _
      simp [ColumnScan.step, ColumnScan.name, keywords, Scalar.names]
    | infinite negative =>
      intro names
      rw [List.flatMap_singleton, Scalar.piece, Piece.tokens, numberTokens_infinite]
      cases negative <;> simp [ColumnScan.step, ColumnScan.name, keywords, Scalar.names]
    | finite negative steps below short =>
      have isFinite : (Number.finite negative steps below short).isFinite := rfl
      obtain ⟨minus, whole, fraction, nonempty, digits, written, -⟩ := Number.exists_numeral isFinite
      exact names_numeral nonempty digits written

theorem names_wrapped (needed : Bool) (inner : Names pieces columns) :
    Names (Expression.wrapped needed pieces) columns := by
  cases needed with
  | false => exact inner
  | true => exact names_parenthesized inner

/-- The text of an expression names its columns. -/
theorem Expression.names_pieces (expression : Expression) : Names expression.pieces expression.names := by
  induction expression with
  | relation column sign value =>
    have start : Names [.identifier column, .blank, .mark (relationSign sign), .blank] [column] :=
      fun names => by simp [Piece.tokens, ColumnScan.step, ColumnScan.name]
    exact start.append value.names_piece
  | membership column values =>
    have start : Names [.identifier column, .blank, .word "IN", .blank] [column] :=
      fun names => by simp [Piece.tokens, ColumnScan.step, ColumnScan.name, keywords]
    rw [pieces]
    exact start.append (names_parenthesized (names_items Scalar.names_piece values))
  | like column pattern | isNull column | isNotNull column =>
    intro names
    simp [pieces, Expression.names, Piece.tokens, ColumnScan.step, ColumnScan.name, keywords]
  | conjunction left right ihLeft ihRight =>
    have word : Names [.blank, .word "AND", .blank] [] :=
      names_word fun scan => by simp [ColumnScan.step, keywords]
    rw [pieces, Expression.names]
    exact ((names_wrapped _ ihLeft).append_silent word).append (names_wrapped _ ihRight)
  | disjunction left right ihLeft ihRight =>
    have word : Names [.blank, .word "OR", .blank] [] :=
      names_word fun scan => by simp [ColumnScan.step, keywords]
    rw [pieces, Expression.names]
    exact ((names_wrapped _ ihLeft).append_silent word).append (names_wrapped _ ihRight)
  | negation inner ih =>
    have start : Names [.word "NOT", .blank] [] :=
      fun names => by simp [Piece.tokens, ColumnScan.step, keywords]
    exact start.silent_append (names_wrapped _ ih)

theorem Selection.names_pieces (selection : Selection) : Names selection.pieces [selection.column] :=
  fun names => by simp [Selection.pieces, Piece.tokens, ColumnScan.step, ColumnScan.name, keywords]

theorem SortColumn.names_pieces (sortColumn : SortColumn) : Names sortColumn.pieces [sortColumn.column] := by
  obtain ⟨column, direction⟩ := sortColumn
  cases direction <;>
    exact fun names => by simp [SortColumn.pieces, Piece.tokens, ColumnScan.step, ColumnScan.name, keywords]

/-- The text of a statement names what stands in its parts and nothing else. -/
theorem Statement.columnNames_tokens (statement : Statement) :
    columnNames (statement.pieces.flatMap Piece.tokens) = statement.names := by
  obtain ⟨selections, table, condition?, order⟩ := statement
  have select : Names [.word "SELECT", .blank] [] :=
    fun names => by simp [Piece.tokens, ColumnScan.step, keywords]
  have shown := names_items Selection.names_pieces selections
  have source : Names [.blank, .word "FROM", .blank, .identifier table] [] :=
    fun names => by simp [Piece.tokens, ColumnScan.step, ColumnScan.name, keywords]
  have sorted : Names (if order = [] then []
      else
        [.blank, .word "ORDER", .blank, .word "BY", .blank] ++ commaSeparated (order.map SortColumn.pieces))
      (order.flatMap fun sortColumn => [sortColumn.column]) := by
    have words : Names [.blank, .word "ORDER", .blank, .word "BY", .blank] [] :=
      fun names => by simp [Piece.tokens, ColumnScan.step, keywords]
    by_cases unordered : order = []
    · rw [if_pos unordered, unordered]
      exact names_nil
    · rw [if_neg unordered]
      exact words.silent_append (names_items SortColumn.names_pieces order)
  rw [columnNames, Statement.names, List.map_eq_flatMap, List.map_eq_flatMap]
  cases condition? with
  | none =>
    have whole := ((select.silent_append shown).append_silent source).append names_nil |>.append sorted
    exact congrArg ColumnScan.columns (whole [])
  | some condition =>
    have chosen : Names ([.blank, .word "WHERE", .blank] ++ condition.pieces) condition.names :=
      (names_word fun scan => by simp [ColumnScan.step, keywords]).silent_append condition.names_pieces
    have whole := ((select.silent_append shown).append_silent source).append chosen |>.append sorted
    exact congrArg ColumnScan.columns (whole [])

/-- The word of a value that is a number without digits. -/
def valueNames (value : Value) : List String := (Scalar.ofValue? value).elim [] Scalar.names

/-- Among the defined values only the infinite numbers have a word. -/
theorem mem_valueNames_iff {name : String} {value : Value} (defined : value ≠ .number .nan) :
    name ∈ valueNames value ↔ name = "inf" ∧ ∃ negative, value = .number (.infinite negative) := by
  cases value with
  | null | text | boolean | instant | variant => simp [valueNames, Scalar.ofValue?, Scalar.names]
  | number content =>
    cases content with
    | nan => exact absurd rfl defined
    | infinite negative =>
      have word : valueNames (.number (.infinite negative)) = ["inf"] := rfl
      simp [word]
    | finite negative steps below short =>
      have silent : (Scalar.ofNumber (.finite negative steps below short)).names = [] := by
        unfold Scalar.ofNumber
        split <;> rfl
      simp [valueNames, Scalar.ofValue?, silent]

private theorem mem_names_guarded {column name : String} {matchesNull negated : Bool}
    {expression : Expression} (names : column ∈ expression.names) :
    name ∈ (Expression.guarded column matchesNull negated expression).names ↔ name ∈ expression.names := by
  have covered : name = column → name ∈ expression.names := fun same => same ▸ names
  unfold Expression.guarded
  split
  · simpa [Expression.names] using covered
  · simpa [Expression.names] using covered
  · rfl

/-- A test is written with the column of its field and the words of its operands. -/
theorem mem_names_ofTest {column name : String} {negated : Bool} {question : Test} :
    name ∈ (ofTest column negated question).names ↔
      column = name ∨ ∃ value ∈ question.operands, name ∈ valueNames value := by
  cases question with
  | relation sign value =>
    cases found : Scalar.ofValue? value with
    | none => cases sign <;> simp [ofTest, Test.operands, valueNames, found, Expression.names, eq_comm]
    | some scalar =>
      simp only [ofTest, found]
      rw [mem_names_guarded (by simp [Expression.names])]
      simp [Expression.names, Test.operands, valueNames, found, eq_comm]
  | text word needle =>
    simp only [ofTest]
    rw [mem_names_guarded (by simp [Expression.names])]
    simp [Expression.names, Test.operands, eq_comm]
  | membership values =>
    have words : name ∈ (values.filterMap Scalar.ofValue?).flatMap Scalar.names ↔
        ∃ value ∈ values, name ∈ valueNames value := by
      simp only [List.mem_flatMap, List.mem_filterMap]
      constructor
      · rintro ⟨scalar, ⟨value, member, same⟩, inside⟩
        exact ⟨value, member, by simpa [valueNames, same] using inside⟩
      · rintro ⟨value, member, inside⟩
        cases same : Scalar.ofValue? value with
        | none => simp [valueNames, same] at inside
        | some scalar => exact ⟨scalar, ⟨value, member, same⟩, by simpa [valueNames, same] using inside⟩
    rw [Test.operands, ← words]
    simp only [ofTest]
    split
    · rename_i absent
      simp [absent, Expression.names, eq_comm]
    · rw [mem_names_guarded (by simp [Expression.names]), Expression.names, List.mem_cons, eq_comm]

/-- A condition is written with the columns and the operands of its tests. -/
theorem mem_names_ofCondition {ρ : Type} {name : String} {negated : Bool} {condition : Condition ρ} :
    name ∈ (ofCondition negated condition).names ↔ ∃ bound ∈ condition.tests,
      bound.1.column = name ∨ ∃ value ∈ bound.2.operands, name ∈ valueNames value := by
  induction condition generalizing negated with
  | test field question =>
    rw [ofCondition, mem_names_ofTest]
    simp [Condition.tests]
  | conjunction left right ihLeft ihRight | disjunction left right ihLeft ihRight =>
    rw [ofCondition, Expression.names, List.mem_append, ihLeft, ihRight]
    simp only [Condition.tests, List.mem_append, or_and_right, exists_or]
  | negation inner ih => exact ih

/-- A statement is written with the columns of the fields that its query reads and the words of its
operands. -/
theorem mem_names_ofQuery {ρ : Type} {name table : String} {query : Query ρ} :
    name ∈ (Statement.ofQuery table query).names ↔
      (∃ field ∈ query.fields, field.column = name) ∨ ∃ value ∈ query.operands, name ∈ valueNames value := by
  have chosen : name ∈ (query.condition?.map (ofCondition false)).elim [] Expression.names ↔
      ∃ bound ∈ query.tests, bound.1.column = name ∨ ∃ value ∈ bound.2.operands, name ∈ valueNames value := by
    unfold Query.tests
    cases query.condition? with
    | none => simp
    | some condition => exact mem_names_ofCondition
  simp only [Statement.names, Statement.ofQuery, List.map_map, List.mem_append, chosen, List.mem_map,
    Function.comp_apply]
  constructor
  · rintro ((⟨column, shown, rfl⟩ | ⟨bound, tested, same | ⟨value, among, inside⟩⟩) | ⟨key, sorted, rfl⟩)
    · exact .inl ⟨column.field, Query.mem_fields_iff.mpr (.inr (.inr ⟨column, shown, rfl⟩)), rfl⟩
    · exact .inl ⟨bound.1, Query.mem_fields_iff.mpr (.inl ⟨bound, tested, rfl⟩), same⟩
    · exact .inr ⟨value, Query.mem_operands_iff.mpr ⟨bound, tested, among⟩, inside⟩
    · exact .inl ⟨key.1, Query.mem_fields_iff.mpr (.inr (.inl ⟨key, sorted, rfl⟩)), rfl⟩
  · rintro (⟨field, read, rfl⟩ | ⟨value, compared, inside⟩)
    · rcases Query.mem_fields_iff.mp read with ⟨bound, tested, rfl⟩ | ⟨key, sorted, rfl⟩ | ⟨column, shown, rfl⟩
      · exact .inl (.inr ⟨bound, tested, .inl rfl⟩)
      · exact .inr ⟨key, sorted, rfl⟩
      · exact .inl (.inl ⟨column, shown, rfl⟩)
    · obtain ⟨bound, tested, among⟩ := Query.mem_operands_iff.mp compared
      exact .inl (.inr ⟨bound, tested, .inr ⟨value, among, inside⟩⟩)

end RecordQuery.Sql
