import RecordQuery.Proofs.Sql.Pieces

/-! # The texts in a statement

The texts of a statement are read as its constants, one constant for each text and in the same order. In front
of a text the reader is between two tokens, so that the constant begins and ends where the text was written.
What the texts contain has no influence on the other tokens.
-/

namespace RecordQuery.Sql

section Masking

/-- The token without the content of a constant. -/
def Token.masked : Token → Token
  | constant _ => .constant []
  | other => other

/-- The piece without the content of a text. -/
def Piece.masked : Piece → Piece
  | text _ => .text ""
  | other => other

def Scalar.masked : Scalar → Scalar
  | text _ => .text ""
  | other => other

/-- The expression without the contents of its texts. -/
def Expression.masked : Expression → Expression
  | relation column sign value => .relation column sign value.masked
  | membership column values => .membership column (values.map Scalar.masked)
  | like column _ => .like column ""
  | isNull column => .isNull column
  | isNotNull column => .isNotNull column
  | conjunction left right => .conjunction left.masked right.masked
  | disjunction left right => .disjunction left.masked right.masked
  | negation inner => .negation inner.masked

def Statement.masked (statement : Statement) : Statement :=
  { statement with condition? := statement.condition?.map Expression.masked }

/-- Masked pieces have the masked tokens. -/
theorem map_masked_flatMap_tokens (pieces : List Piece) :
    ((pieces.map Piece.masked).flatMap Piece.tokens).map Token.masked =
      (pieces.flatMap Piece.tokens).map Token.masked := by
  have each (piece : Piece) : piece.masked.tokens.map Token.masked = piece.tokens.map Token.masked := by
    cases piece <;> rfl
  simp only [List.flatMap_map, List.map_flatMap, each]

theorem map_masked_commaSeparated (items : List (List Piece)) :
    (commaSeparated items).map Piece.masked = commaSeparated (items.map (List.map Piece.masked)) := by
  fun_induction commaSeparated items with
  | case1 | case2 => rfl
  | case3 item rest more ih =>
    cases rest with
    | nil => exact absurd rfl more
    | cons =>
      rw [List.map_append, List.map_append, ih]
      rfl

theorem map_masked_wrapped (needed : Bool) (pieces : List Piece) :
    (Expression.wrapped needed pieces).map Piece.masked =
      Expression.wrapped needed (pieces.map Piece.masked) := by
  cases needed with
  | false => rfl
  | true => simp [Expression.wrapped, parenthesized, Piece.masked]

theorem Scalar.masked_piece (scalar : Scalar) : scalar.masked.piece.masked = scalar.piece.masked := by
  cases scalar <;> rfl

/-- Masked expressions have the masked pieces. -/
theorem Expression.map_masked_pieces (expression : Expression) :
    expression.masked.pieces.map Piece.masked = expression.pieces.map Piece.masked := by
  induction expression with
  | relation column sign value => simp [masked, pieces, value.masked_piece]
  | membership column values =>
    simp [masked, pieces, parenthesized, map_masked_commaSeparated, Scalar.masked_piece, Function.comp_def]
  | like column pattern | isNull column | isNotNull column => rfl
  | conjunction left right ihLeft ihRight =>
    have kind (expression : Expression) : expression.masked.isCompound = expression.isCompound ∧
        expression.masked.isConjunction = expression.isConjunction := by
      cases expression <;> exact ⟨rfl, rfl⟩
    simp [masked, pieces, map_masked_wrapped, kind, ihLeft, ihRight]
  | disjunction left right ihLeft ihRight =>
    have kind (expression : Expression) : expression.masked.isCompound = expression.isCompound ∧
        expression.masked.isDisjunction = expression.isDisjunction := by
      cases expression <;> exact ⟨rfl, rfl⟩
    simp [masked, pieces, map_masked_wrapped, kind, ihLeft, ihRight]
  | negation inner ih =>
    have kind : inner.masked.isCompound = inner.isCompound := by cases inner <;> rfl
    simp [masked, pieces, map_masked_wrapped, kind, ih]

/-- The texts of a statement decide nothing but the contents of its constants. -/
theorem Statement.map_masked_tokens (statement : Statement) :
    (statement.masked.pieces.flatMap Piece.tokens).map Token.masked =
      (statement.pieces.flatMap Piece.tokens).map Token.masked := by
  have same : statement.masked.pieces.map Piece.masked = statement.pieces.map Piece.masked := by
    obtain ⟨selections, table, condition?, order⟩ := statement
    cases condition? with
    | none => rfl
    | some condition =>
      simp only [Statement.masked, pieces, Option.map_some, List.map_append, condition.map_masked_pieces]
      rfl
  rw [← map_masked_flatMap_tokens, same, map_masked_flatMap_tokens]

end Masking

section Constants

/-- What is written between the quotes of a constant. -/
def Token.constant? : Token → Option (List Char)
  | constant written => some written
  | _ => none

def Piece.text? : Piece → Option String
  | text content => some content
  | _ => none

def Scalar.text? : Scalar → Option String
  | text content => some content
  | _ => none

/-- The texts in an expression from left to right. The sign that guards in a pattern is one of them. -/
def Expression.texts : Expression → List String
  | relation _ _ value => value.text?.toList
  | membership _ values => values.filterMap Scalar.text?
  | like _ pattern => [pattern, "\\"]
  | isNull _ | isNotNull _ => []
  | conjunction left right | disjunction left right => left.texts ++ right.texts
  | negation inner => inner.texts

/-- The texts that a test is written with. -/
def textsOfTest : Test → List String
  | .relation _ value => ((Scalar.ofValue? value).bind Scalar.text?).toList
  | .text word needle => [pattern word needle, "\\"]
  | .membership values => values.filterMap fun value => (Scalar.ofValue? value).bind Scalar.text?

/-- Each text is one constant, and nothing else is. -/
theorem filterMap_constant?_tokens (pieces : List Piece) :
    (pieces.flatMap Piece.tokens).filterMap Token.constant? =
      (pieces.filterMap Piece.text?).map fun content => content.toList.flatMap textCharacter := by
  have number (digits : List Char) : (numberTokens digits).filterMap Token.constant? = [] := by
    unfold numberTokens unsignedToken
    split <;> split <;> rfl
  have each (piece : Piece) : piece.tokens.filterMap Token.constant? =
      (piece.text?.map fun content => content.toList.flatMap textCharacter).toList := by
    cases piece with
    | number digits => exact number digits.toList
    | _ => rfl
  induction pieces with
  | nil => rfl
  | cons piece rest ih =>
    rw [List.flatMap_cons, List.filterMap_append, each, ih]
    cases found : piece.text? <;> simp [found]

theorem filterMap_text?_commaSeparated (items : List (List Piece)) :
    (commaSeparated items).filterMap Piece.text? = items.flatMap (List.filterMap Piece.text?) := by
  fun_induction commaSeparated items with
  | case1 => rfl
  | case2 item => simp
  | case3 item rest more ih => simp [ih, List.filterMap_cons, Piece.text?]

theorem filterMap_text?_wrapped (needed : Bool) (pieces : List Piece) :
    (Expression.wrapped needed pieces).filterMap Piece.text? = pieces.filterMap Piece.text? := by
  cases needed with
  | false => rfl
  | true => simp [Expression.wrapped, parenthesized, List.filterMap_cons, Piece.text?]

/-- An expression is written with its texts. -/
theorem Expression.filterMap_text?_pieces (expression : Expression) :
    expression.pieces.filterMap Piece.text? = expression.texts := by
  induction expression with
  | relation column sign value =>
    cases value <;> rfl
  | membership column values =>
    have item (value : Scalar) : [value.piece].filterMap Piece.text? = value.text?.toList := by
      cases value <;> rfl
    have items : (commaSeparated (values.map fun value => [value.piece])).filterMap Piece.text? =
        values.filterMap Scalar.text? := by
      rw [filterMap_text?_commaSeparated, List.flatMap_map, List.filterMap_eq_flatMap_toList]
      simp only [item]
    simp [pieces, texts, parenthesized, items, List.filterMap_cons, Piece.text?]
  | like column pattern | isNull column | isNotNull column => rfl
  | conjunction left right ihLeft ihRight | disjunction left right ihLeft ihRight =>
    simp [pieces, texts, filterMap_text?_wrapped, List.filterMap_cons, Piece.text?, ihLeft, ihRight]
  | negation inner ih => simp [pieces, texts, filterMap_text?_wrapped, List.filterMap_cons, Piece.text?, ih]

/-- A test is written with its texts, and guards add none. -/
theorem texts_ofTest (column : String) (negated : Bool) (question : Test) :
    (ofTest column negated question).texts = textsOfTest question := by
  have guarded (matchesNull : Bool) (expression : Expression) :
      (Expression.guarded column matchesNull negated expression).texts = expression.texts := by
    unfold Expression.guarded
    split <;> simp [Expression.texts]
  cases question with
  | relation sign value =>
    cases found : Scalar.ofValue? value with
    | none => cases sign <;> simp [ofTest, found, textsOfTest, Expression.texts]
    | some scalar => simp [ofTest, found, guarded, textsOfTest, Expression.texts]
  | text word needle => simp [ofTest, guarded, textsOfTest, Expression.texts]
  | membership values =>
    have present : (values.filterMap Scalar.ofValue?).filterMap Scalar.text? =
        textsOfTest (.membership values) := List.filterMap_filterMap
    rw [← present]
    simp only [ofTest]
    split
    · rename_i absent
      rw [absent]
      rfl
    · rw [guarded, Expression.texts]

theorem texts_ofCondition {ρ : Type} (negated : Bool) (condition : Condition ρ) :
    (ofCondition negated condition).texts = condition.tests.flatMap fun bound => textsOfTest bound.2 := by
  induction condition generalizing negated with
  | test field question => simp [ofCondition, texts_ofTest, Condition.tests]
  | conjunction left right ihLeft ihRight | disjunction left right ihLeft ihRight =>
    simp [ofCondition, Expression.texts, ihLeft, ihRight, Condition.tests]
  | negation inner ih => exact ih _

/-- Items without texts make a list without texts. -/
theorem filterMap_text?_items {α : Type} (write : α → List Piece)
    (noText : ∀ item, (write item).filterMap Piece.text? = []) (items : List α) :
    (commaSeparated (items.map write)).filterMap Piece.text? = [] := by
  rw [filterMap_text?_commaSeparated, List.flatMap_map]
  exact List.flatMap_eq_nil_iff.mpr fun item _ => noText item

/-- The clause that sorts has no texts. -/
theorem Statement.filterMap_text?_orderPieces (statement : Statement) :
    statement.orderPieces.filterMap Piece.text? = [] := by
  have key (sortColumn : SortColumn) : sortColumn.pieces.filterMap Piece.text? = [] := by
    obtain ⟨column, direction⟩ := sortColumn
    cases direction <;> rfl
  have keys := filterMap_text?_items SortColumn.pieces key statement.order
  unfold orderPieces
  split
  · rfl
  · rw [List.filterMap_append, keys]
    rfl

/-- The texts of a statement are those of its condition. -/
theorem Statement.filterMap_text?_pieces (statement : Statement) :
    statement.pieces.filterMap Piece.text? = statement.condition?.elim [] Expression.texts := by
  rw [pieces_eq_append, List.filterMap_append, filterMap_text?_orderPieces, List.append_nil]
  obtain ⟨selections, table, condition?, order⟩ := statement
  have shown := filterMap_text?_items Selection.pieces (fun _ => rfl) selections
  cases condition? with
  | none => simp [pieces, shown, List.filterMap_cons, Piece.text?]
  | some condition =>
    simp [pieces, shown, condition.filterMap_text?_pieces, List.filterMap_cons, Piece.text?]

/-- A statement of a query is written with the texts of its tests in their order. -/
theorem Statement.filterMap_text?_ofQuery {ρ : Type} (table : String) (query : Query ρ) :
    (ofQuery table query).pieces.filterMap Piece.text? =
      query.tests.flatMap fun bound => textsOfTest bound.2 := by
  rw [Statement.filterMap_text?_pieces, ofQuery, Query.tests]
  cases query.condition? with
  | none => rfl
  | some condition => exact texts_ofCondition false condition

end Constants

section Boundaries

variable {first second pieces : List Piece}

/-- In front of each text the reader is between two tokens. -/
def TextsApart (pieces : List Piece) : Prop :=
  ∀ front content back, pieces = front ++ .text content :: back → Closed front

theorem textsApart_of_no_text (noText : pieces.filterMap Piece.text? = []) : TextsApart pieces := by
  rintro front content back rfl
  simp [Piece.text?] at noText

theorem textsApart_singleton (piece : Piece) : TextsApart [piece] := by
  intro front content back split
  cases front with
  | nil => exact .nil
  | cons => simp at split

/-- What follows a complete part has its texts apart. -/
theorem TextsApart.append (left : TextsApart first) (closed : Closed first) (right : TextsApart second) :
    TextsApart (first ++ second) := by
  intro front content back split
  -- The text lies in the second part, at the cut or in the first part.
  rcases List.append_eq_append_iff.mp split with ⟨middle, rfl, inside⟩ | ⟨middle, inside, rest⟩
  · exact closed.append (right middle content back inside)
  · cases middle with
    | nil =>
      rw [List.append_nil] at inside
      subst inside
      exact closed
    | cons piece middle =>
      obtain ⟨rfl, -⟩ := List.cons.inj rest
      exact left front content middle inside

/-- Behind the texts there may be more without any. -/
theorem TextsApart.append_right (left : TextsApart first) (noText : second.filterMap Piece.text? = []) :
    TextsApart (first ++ second) := by
  intro front content back split
  rcases List.append_eq_append_iff.mp split with ⟨middle, rfl, inside⟩ | ⟨middle, inside, rest⟩
  · rw [inside] at noText
    simp [Piece.text?] at noText
  · cases middle with
    | nil =>
      rw [List.nil_append] at rest
      rw [← rest] at noText
      simp [Piece.text?] at noText
    | cons piece middle =>
      obtain ⟨rfl, -⟩ := List.cons.inj rest
      exact left front content middle inside

theorem TextsApart.spaced (left : TextsApart first) (readable : Readable first) (right : TextsApart second) :
    TextsApart (first ++ .blank :: second) := by
  have front : TextsApart (first ++ [.blank]) := left.append_right rfl
  simpa using front.append (readable.append_separator separates_blank) right

theorem TextsApart.wrapped (needed : Bool) (inner : TextsApart first) :
    TextsApart (Expression.wrapped needed first) := by
  cases needed with
  | false => exact inner
  | true =>
    have opening : TextsApart [.mark "("] := textsApart_of_no_text rfl
    exact (opening.append closed_opening inner).append_right rfl

theorem textsApart_items (scalars : List Scalar) :
    TextsApart (commaSeparated (scalars.map fun value => [value.piece])) := by
  induction scalars with
  | nil => exact textsApart_of_no_text rfl
  | cons scalar rest ih =>
    cases rest with
    | nil => exact textsApart_singleton _
    | cons next others =>
      have separated := (scalar.readable_piece.append_separator separates_comma).append separates_blank.1
      have front : TextsApart ([scalar.piece] ++ [.mark ",", .blank]) :=
        (textsApart_singleton _).append_right rfl
      exact front.append (by simpa using separated) ih

/-- In front of each text of an expression the reader is between two tokens. -/
theorem Expression.textsApart_pieces (expression : Expression) : TextsApart expression.pieces := by
  induction expression with
  | relation column sign value =>
    exact (textsApart_singleton _).spaced (readable_identifier column)
      ((textsApart_singleton _).spaced (readable_relationSign sign) (textsApart_singleton _))
  | membership column values =>
    exact (textsApart_singleton _).spaced (readable_identifier column)
      ((textsApart_singleton _).spaced (readable_word (by decide)) ((textsApart_items values).wrapped true))
  | like column pattern =>
    exact (textsApart_singleton _).spaced (readable_identifier column)
      ((textsApart_singleton _).spaced (readable_word (by decide))
        ((textsApart_singleton _).spaced (readable_text pattern)
          ((textsApart_singleton _).spaced (readable_word (by decide)) (textsApart_singleton _))))
  | isNull column | isNotNull column => exact textsApart_of_no_text rfl
  | conjunction left right ihLeft ihRight | disjunction left right ihLeft ihRight =>
    rw [pieces, List.append_assoc]
    exact (ihLeft.wrapped _).spaced (readable_wrapped left.readable_pieces)
      ((textsApart_singleton _).spaced (readable_word (by decide)) (ihRight.wrapped _))
  | negation inner ih => exact (textsApart_singleton _).spaced (readable_word (by decide)) (ih.wrapped _)

/-- In front of each text of a statement the reader is between two tokens. -/
theorem Statement.textsApart_pieces (statement : Statement) : TextsApart statement.pieces := by
  rw [pieces_eq_append]
  refine TextsApart.append_right ?_ statement.filterMap_text?_orderPieces
  obtain ⟨selections, table, condition?, order⟩ := statement
  have source := readable_pieces ⟨selections, table, none, []⟩
  have noText := filterMap_text?_pieces ⟨selections, table, none, []⟩
  cases condition? with
  | none => exact textsApart_of_no_text noText
  | some condition =>
    simp only [pieces, if_pos, List.append_nil] at source noText ⊢
    exact (textsApart_of_no_text noText).spaced source
      ((textsApart_singleton _).spaced (readable_word (by decide)) condition.textsApart_pieces)

/-- The text of pieces. -/
def written (pieces : List Piece) : String := String.ofList (pieces.flatMap Piece.characters)

/-- A text behind the front is read as one constant, which begins and ends where the text was written: cut at
either end, there are the tokens in front of the cut. -/
def EndsAsWritten (tokens : List Token) (front content : String) : Prop :=
  ∃ before behind, tokens = before ++ .constant (content.toList.flatMap textCharacter) :: behind ∧
    tokens? front = some before ∧
    tokens? (front ++ written [.text content]) =
      some (before ++ [.constant (content.toList.flatMap textCharacter)])

theorem Statement.endsAsWritten_of_split {statement : Statement} {front back : List Piece} {content : String}
    (split : statement.pieces = front ++ .text content :: back) :
    EndsAsWritten (statement.pieces.flatMap Piece.tokens) (written front) content := by
  have closed := statement.textsApart_pieces front content back split
  refine ⟨front.flatMap Piece.tokens, back.flatMap Piece.tokens, ?_, ?_, ?_⟩
  · rw [split, List.flatMap_append, List.flatMap_cons]
    rfl
  · simpa [tokens?, written, Reader.read] using closed [] []
  · have ends := closed.append_readable (readable_text content) [] [] rfl
    simpa [tokens?, written, Reader.read, Piece.tokens] using ends

end Boundaries

end RecordQuery.Sql
