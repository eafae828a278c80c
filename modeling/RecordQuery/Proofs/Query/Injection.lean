import RecordQuery.Proofs.Filter.Masking
import RecordQuery.Proofs.Query.Confidentiality
import RecordQuery.Proofs.Sql.Constants

/-! # What texts in a filter can do to a statement

The texts that a filter compares with fields of texts become constants of the statement. Each of them is read
as one constant, which ends where it was written, and nothing else in the statement depends on what it holds.
So two requests that differ in such texts have statements that differ in the contents of constants.
-/

namespace RecordQuery

/-- The value without the content of a text. -/
def Value.masked : Value → Value
  | text _ => .text ""
  | other => other

def Test.masked : Test → Test
  | relation sign value => .relation sign value.masked
  | text word _ => .text word ""
  | membership values => .membership (values.map Value.masked)

/-- The condition without the contents of texts that are compared with fields of texts. -/
def Condition.masked {ρ : Type} : Condition ρ → Condition ρ
  | test field question => .test field (if field.type = .text then question.masked else question)
  | conjunction left right => .conjunction left.masked right.masked
  | disjunction left right => .disjunction left.masked right.masked
  | negation inner => .negation inner.masked

/-- The content of a literal text. -/
def Literal.text? : Literal → Option String
  | text content => some content
  | _ => none

/-- The texts that a comparison with a field of texts is written with in a statement. A text match writes its
pattern and the sign that guards in it. -/
def Comparison.texts (leaf : Comparison) : List String :=
  let contents := leaf.operand.literals.filterMap Literal.text?
  match leaf.operator with
  | .text word => contents.flatMap fun needle => [Sql.pattern word needle, "\\"]
  | .relation _ | .membership => contents

namespace Test

/-- What an operator asks of a field of texts. -/
inductive AsksText : Operator → Operand → Test → Prop where
  | relation {sign : Relation} {literal : Literal} {value : Value}
      (coerced : ValueType.text.coerce? literal = some value) (suits : ¬ (value = .null ∧ sign.isOrdering)) :
      AsksText (.relation sign) (.single literal) (.relation sign value)
  | text (word : TextMatch) (needle : String) : AsksText (.text word) (.single (.text needle)) (.text word needle)
  | membership {literals : List Literal} {values : List Value}
      (coerced : List.Forall₂ (fun literal value => ValueType.text.coerce? literal = some value) literals values) :
      AsksText .membership (.list literals) (.membership values)

theorem ofOperator_text_iff {operator : Operator} {operand : Operand} {question : Test} :
    ofOperator .text operator operand = .ok question ↔ AsksText operator operand question := by
  constructor
  · intro accepted
    cases operator with
    | relation sign =>
      simp only [ofOperator] at accepted
      split at accepted
      · cases accepted
      · cases operand with
        | list => cases accepted
        | single literal =>
          obtain ⟨value, coerced, chosen⟩ := Outcome.bind_eq_ok_iff.mp accepted
          split at chosen
          · cases chosen
          · rename_i suits
            cases chosen
            exact .relation (coerce_eq_ok_iff.mp coerced) suits
    | text word =>
      simp only [ofOperator, if_pos] at accepted
      unfold ofTextMatch at accepted
      split at accepted <;> cases accepted
      exact .text word _
    | membership =>
      cases operand with
      | single => cases accepted
      | list literals =>
        obtain ⟨values, coerced, rfl⟩ := Outcome.map_eq_ok_iff.mp accepted
        exact .membership ((Outcome.mapM_eq_ok_iff.mp coerced).imp fun _ _ => coerce_eq_ok_iff.mp)
  · intro asks
    cases asks with
    | @relation sign literal value coerced suits =>
      have ordered : ¬ (sign.isOrdering ∧ ¬ ValueType.text.isOrdered) := by simp [ValueType.isOrdered]
      simp only [ofOperator, if_neg ordered, ofRelation]
      exact Outcome.bind_eq_ok_iff.mpr ⟨value, coerce_eq_ok_iff.mpr coerced, if_neg suits⟩
    | text word needle => rfl
    | membership coerced =>
      exact Outcome.map_eq_ok_iff.mpr
        ⟨_, Outcome.mapM_eq_ok_iff.mpr (coerced.imp fun _ _ => coerce_eq_ok_iff.mpr), rfl⟩

theorem coerce?_masked {literal : Literal} {value : Value}
    (coerced : ValueType.text.coerce? literal = some value) :
    ValueType.text.coerce? (literal.masked true) = some value.masked := by
  cases literal <;> cases coerced <;> rfl

/-- The masked operand asks for the masked test. -/
theorem AsksText.masked {operator : Operator} {operand : Operand} {question : Test}
    (asks : AsksText operator operand question) : AsksText operator (operand.masked true) question.masked := by
  cases asks with
  | @relation sign literal value coerced suits =>
    refine .relation (coerce?_masked coerced) fun ⟨absent, ordering⟩ => suits ⟨?_, ordering⟩
    cases value <;> first | rfl | cases absent
  | text word needle => exact .text word ""
  | @membership literals values coerced =>
    refine .membership ?_
    rw [List.forall₂_map_left_iff, List.forall₂_map_right_iff]
    exact coerced.imp fun _ _ => coerce?_masked

/-- The texts of the test are those of its comparison. -/
theorem AsksText.texts {field : String} {operator : Operator} {operand : Operand} {question : Test}
    (asks : AsksText operator operand question) :
    Sql.textsOfTest question = Comparison.texts ⟨field, operator, operand⟩ := by
  have each {literal : Literal} {value : Value} (coerced : ValueType.text.coerce? literal = some value) :
      (Sql.Scalar.ofValue? value).bind Sql.Scalar.text? = literal.text? := by
    cases literal <;> cases coerced <;> rfl
  cases asks with
  | @relation sign literal value coerced =>
    change ((Sql.Scalar.ofValue? value).bind Sql.Scalar.text?).toList = [literal].filterMap Literal.text?
    rw [each coerced]
    cases literal <;> rfl
  | text word needle => rfl
  | @membership literals values coerced =>
    change values.filterMap _ = literals.filterMap _
    induction coerced with
    | nil => rfl
    | cons first _ ih => rw [List.filterMap_cons, List.filterMap_cons, each first, ih]

end Test

/-- The name is that of a field of texts. -/
def FieldRegistry.holdsText {ρ : Type} (registry : FieldRegistry ρ) (name : String) : Bool :=
  (registry.get? name).any fun field => field.type = .text

section Masking

variable {ρ : Type} {registry : FieldRegistry ρ} {condition : Condition ρ}

theorem FieldRegistry.holdsText_of_resolve {name : String} {use : Capability} {field : Field ρ}
    (resolved : registry.resolve name use = .ok field) : registry.holdsText name = decide (field.type = .text) := by
  rw [holdsText, (resolve_eq_ok_iff.mp resolved).1, Option.any_some]

theorem Operand.masked_false (operand : Operand) : operand.masked false = operand := by
  have each (literal : Literal) : literal.masked false = literal := by cases literal <;> rfl
  cases operand with
  | single literal => exact congrArg single (each literal)
  | list literals =>
    have same := List.map_id'' each literals
    exact congrArg list same

/-- The masked comparison has the masked condition. -/
theorem FieldRegistry.condition_masked {leaf : Comparison} (accepted : registry.condition leaf = .ok condition) :
    registry.condition (leaf.masked registry.holdsText) = .ok condition.masked := by
  obtain ⟨field, resolved, tested⟩ := Outcome.bind_eq_ok_iff.mp accepted
  refine Outcome.bind_eq_ok_iff.mpr ⟨field, resolved, ?_⟩
  split at tested
  · rename_i question asked
    cases tested
    have masked : Test.ofOperator field.type leaf.operator (leaf.operand.masked (registry.holdsText leaf.field)) =
        .ok (if field.type = .text then question.masked else question) := by
      rw [holdsText_of_resolve resolved]
      by_cases text : field.type = .text
      · rw [text] at asked ⊢
        exact Test.ofOperator_text_iff.mpr (Test.ofOperator_text_iff.mp asked).masked
      · simpa [text, Operand.masked_false] using asked
    simp only [Comparison.masked, masked]
    rfl
  · cases tested

/-- The masked filter has the masked condition. -/
theorem Filter.condition_masked {filter : Filter} (accepted : filter.condition registry = .ok condition) :
    (filter.masked registry.holdsText).condition registry = .ok condition.masked := by
  induction filter generalizing condition with
  | comparison leaf => exact FieldRegistry.condition_masked accepted
  | conjunction left right ihLeft ihRight | disjunction left right ihLeft ihRight =>
    simp only [Filter.condition, masked, Outcome.bind_eq_ok_iff, Outcome.pure_eq_ok_iff] at accepted ⊢
    obtain ⟨first, before, second, behind, rfl⟩ := accepted
    exact ⟨_, ihLeft before, _, ihRight behind, rfl⟩
  | negation inner ih =>
    simp only [Filter.condition, masked, Outcome.bind_eq_ok_iff, Outcome.pure_eq_ok_iff] at accepted ⊢
    obtain ⟨bound, before, rfl⟩ := accepted
    exact ⟨_, ih before, rfl⟩

/-- Masked tests are written as masked expressions. -/
theorem Sql.masked_ofTest (column : String) (negated : Bool) (question : Test) :
    (ofTest column negated question.masked).masked = (ofTest column negated question).masked := by
  have guarded (matchesNull : Bool) (expression : Expression) :
      (Expression.guarded column matchesNull negated expression).masked =
        Expression.guarded column matchesNull negated expression.masked := by
    unfold Expression.guarded
    split <;> rfl
  have scalar (value : Value) : (Scalar.ofValue? value.masked).map Scalar.masked =
      (Scalar.ofValue? value).map Scalar.masked := by
    cases value <;> rfl
  cases question with
  | relation sign value =>
    cases value <;> simp [ofTest, Test.masked, Value.masked, Scalar.ofValue?, guarded, Expression.masked,
      Scalar.masked]
  | text word needle => simp [ofTest, Test.masked, guarded, Expression.masked]
  | membership values =>
    -- Masking keeps which values are absent and how many are not, and so the guards.
    have present : ((values.map Value.masked).filterMap Scalar.ofValue?).map Scalar.masked =
        (values.filterMap Scalar.ofValue?).map Scalar.masked := by
      simp only [List.map_filterMap, List.filterMap_map, Function.comp_def, scalar]
    have count := congrArg List.length present
    have empty : (values.map Value.masked).filterMap Scalar.ofValue? = [] ↔ values.filterMap Scalar.ofValue? = [] := by
      rw [← List.map_eq_nil_iff (f := Scalar.masked), present, List.map_eq_nil_iff]
    rw [List.length_map, List.length_map] at count
    simp only [ofTest, Test.masked, empty, count, List.length_map]
    split
    · rfl
    · rw [guarded, guarded, Expression.masked, present, Expression.masked]

theorem Sql.masked_ofCondition (negated : Bool) (condition : Condition ρ) :
    (ofCondition negated condition.masked).masked = (ofCondition negated condition).masked := by
  induction condition generalizing negated with
  | test field question =>
    by_cases text : field.type = .text
    · simpa [ofCondition, Condition.masked, text] using masked_ofTest field.column negated question
    · simp [ofCondition, Condition.masked, text]
  | conjunction left right ihLeft ihRight | disjunction left right ihLeft ihRight =>
    simp only [ofCondition, Condition.masked, Expression.masked, ihLeft, ihRight]
  | negation inner ih => simp only [ofCondition, Condition.masked, Expression.masked, ih]

end Masking

namespace Catalog

variable {ρ : Type} {catalog : Catalog ρ} {first second : Request} {query other : Query ρ}

/-- The tokens of the filter of a request, without the contents of texts that are compared with fields of
texts. -/
def maskedTokens? (catalog : Catalog ρ) (request : Request) : Option (List TokenKind) :=
  request.filter?.map fun text => TokenKind.maskedList catalog.fields.holdsText false (Lexer.kinds text)

/-- The texts in the statement of a request are its constants. Each text that the filter compares with a field
of texts is one of them, in the order of the filter, and begins and ends where it was written. -/
structure Renders (catalog : Catalog ρ) (request : Request) (query : Query ρ) (table : String)
    (tokens : List Sql.Token) : Prop where
  whole : Sql.tokens? (Sql.Statement.ofQuery table query).text = some tokens
  constants : tokens.filterMap Sql.Token.constant? =
    (query.tests.flatMap fun bound => Sql.textsOfTest bound.2).map fun content =>
      content.toList.flatMap Sql.textCharacter
  operands : ∀ text filter, request.filter? = some text → Filter.parse catalog.limits text = .ok filter →
    List.Forall₂ (fun leaf bound => catalog.fields.holdsText leaf.field →
      Sql.textsOfTest bound.2 = leaf.texts) filter.comparisons query.tests
  ends : ∀ front content back,
    (Sql.Statement.ofQuery table query).pieces = front ++ .text content :: back →
      Sql.EndsAsWritten tokens (Sql.written front) content

/-- The conditions of accepted filters with the same masked tokens are the same when masked. -/
theorem masked_eq_of_readCondition {text otherText : String} {condition otherCondition : Condition ρ}
    (accepted : catalog.readCondition text = .ok condition)
    (acceptedOther : catalog.readCondition otherText = .ok otherCondition)
    (same : TokenKind.maskedList catalog.fields.holdsText false (Lexer.kinds text) =
      TokenKind.maskedList catalog.fields.holdsText false (Lexer.kinds otherText)) :
    condition.masked = otherCondition.masked := by
  obtain ⟨filter, parsed, resolved⟩ := Outcome.bind_eq_ok_iff.mp accepted
  obtain ⟨other, parsedOther, resolvedOther⟩ := Outcome.bind_eq_ok_iff.mp acceptedOther
  have masked := Filter.masked_eq_of_parse (Outcome.mapError_eq_ok_iff.mp parsed)
    (Outcome.mapError_eq_ok_iff.mp parsedOther) same
  have left := Filter.condition_masked resolved
  rw [masked, Filter.condition_masked resolvedOther] at left
  exact (Except.ok.inj left).symm

/-- Requests whose filters have the same masked tokens have conditions that are the same when masked. -/
theorem masked_condition?_eq (accepted : catalog.query first = .ok query)
    (acceptedOther : catalog.query second = .ok other)
    (same : catalog.maskedTokens? first = catalog.maskedTokens? second) :
    query.condition?.map Condition.masked = other.condition?.map Condition.masked := by
  obtain ⟨condition?, -, filtered, -, -, found, -⟩ := query_eq_ok_iff.mp accepted
  obtain ⟨otherCondition?, -, filteredOther, -, -, foundOther, -⟩ := query_eq_ok_iff.mp acceptedOther
  rw [found, foundOther]
  unfold maskedTokens? at same
  cases given : first.filter? with
  | none =>
    cases givenOther : second.filter? with
    | none =>
      rw [given] at filtered
      rw [givenOther] at filteredOther
      cases filtered
      cases filteredOther
      rfl
    | some otherText =>
      rw [given, givenOther] at same
      cases same
  | some text =>
    cases givenOther : second.filter? with
    | none =>
      rw [given, givenOther] at same
      cases same
    | some otherText =>
      rw [given] at filtered
      rw [givenOther] at filteredOther
      rw [given, givenOther] at same
      obtain ⟨condition, rfl, read⟩ := Outcome.exists_result_of_optionMapM filtered
      obtain ⟨otherCondition, rfl, readOther⟩ := Outcome.exists_result_of_optionMapM filteredOther
      exact congrArg some (masked_eq_of_readCondition read readOther (Option.some.inj same))

/-- The texts of an accepted request are rendered as constants. -/
theorem renders (accepted : catalog.query first = .ok query) (table : String) :
    catalog.Renders first query table
      ((Sql.Statement.ofQuery table query).pieces.flatMap Sql.Piece.tokens) where
  whole := Sql.Statement.tokens?_text _
  constants := by rw [Sql.filterMap_constant?_tokens, Sql.Statement.filterMap_text?_ofQuery]
  operands := by
    intro text filter given parsed
    obtain ⟨condition?, -, filtered, -, -, found, -⟩ := query_eq_ok_iff.mp accepted
    rw [given] at filtered
    obtain ⟨condition, rfl, read⟩ := Outcome.exists_result_of_optionMapM filtered
    obtain ⟨filter', parsed', resolved⟩ := Outcome.bind_eq_ok_iff.mp read
    obtain rfl := Except.ok.inj (parsed.symm.trans (Outcome.mapError_eq_ok_iff.mp parsed'))
    rw [Query.tests, found]
    refine (Filter.forall₂_binds_of_condition resolved).imp fun leaf bound binds holdsText => ?_
    rw [FieldRegistry.holdsText_of_resolve binds.1, decide_eq_true_eq] at holdsText
    have asked := binds.2
    rw [holdsText] at asked
    exact (Test.ofOperator_text_iff.mp asked).texts
  ends := fun front content back split => Sql.Statement.endsAsWritten_of_split split

/-- Texts that are compared with fields of texts cannot change a statement. If two accepted requests differ
only in such texts of their filters, their statements over any table are read as tokens that differ only in
the contents of constants; each of the texts is rendered as one constant that ends where it was written. -/
theorem query_renders_texts (accepted : catalog.query first = .ok query)
    (acceptedOther : catalog.query second = .ok other)
    (sameFilter : catalog.maskedTokens? first = catalog.maskedTokens? second)
    (sameSort : first.sort? = second.sort?) (sameView : first.view? = second.view?) (table : String) :
    ∃ tokens others, catalog.Renders first query table tokens ∧ catalog.Renders second other table others ∧
      tokens.map Sql.Token.masked = others.map Sql.Token.masked := by
  refine ⟨_, _, renders accepted table, renders acceptedOther table, ?_⟩
  have conditions := masked_condition?_eq accepted acceptedOther sameFilter
  obtain ⟨-, order?, -, sorted, shown, -, order⟩ := query_eq_ok_iff.mp accepted
  obtain ⟨-, otherOrder?, -, sortedOther, shownOther, -, orderOther⟩ := query_eq_ok_iff.mp acceptedOther
  rw [← sameSort, sorted] at sortedOther
  rw [← sameView, shown] at shownOther
  obtain rfl := Except.ok.inj sortedOther
  have projections := Except.ok.inj shownOther
  -- Masked conditions are the same, and masking before or after the expression is written is one.
  have expressions : (query.condition?.map (Sql.ofCondition false)).map Sql.Expression.masked =
      (other.condition?.map (Sql.ofCondition false)).map Sql.Expression.masked := by
    have through (condition? : Option (Condition ρ)) :
        (condition?.map (Sql.ofCondition false)).map Sql.Expression.masked =
          ((condition?.map Condition.masked).map (Sql.ofCondition false)).map Sql.Expression.masked := by
      simp only [Option.map_map, Function.comp_def, Sql.masked_ofCondition]
    rw [through, conditions, ← through]
  have statements : (Sql.Statement.ofQuery table query).masked = (Sql.Statement.ofQuery table other).masked := by
    simp only [Sql.Statement.masked, Sql.Statement.ofQuery, expressions, projections, order, orderOther]
  rw [← Sql.Statement.map_masked_tokens, statements, Sql.Statement.map_masked_tokens]

/-- Quotes, backslashes and signs of patterns in a text match and in a list leave the other tokens of the
statement, and the date beside them is the same text in both. -/
theorem query_renders_texts_of_quotes :
    let catalog : Catalog (String → Value) :=
      ⟨.ofList [.ofName "name" .text (· "name"), .ofName "day" .instant (· "day")],
        ⟨[View.ofFields "list" ["name"]], some "list"⟩, .standard⟩
    let first : Request :=
      ⟨some "not Name contains 'x' and day < '2024-01-02T00:00:00Z' or name in ('', 'a')", some "name", none⟩
    let second : Request :=
      ⟨some "not Name contains \"' OR '1'='1' --\" and day < '2024-01-02T00:00:00Z' or name in ('\\\\', '\\'_%\n')",
        some "name", none⟩
    ∃ query other tokens others, catalog.query first = .ok query ∧ catalog.query second = .ok other ∧
      catalog.Renders first query "people" tokens ∧ catalog.Renders second other "people" others ∧
      tokens.map Sql.Token.masked = others.map Sql.Token.masked := by
  intro catalog first second
  have accepted : (catalog.query first).isOk = true := by decide +kernel
  have acceptedOther : (catalog.query second).isOk = true := by decide +kernel
  have sameFilter : catalog.maskedTokens? first = catalog.maskedTokens? second := by decide +kernel
  cases found : catalog.query first with
  | error refused =>
    rw [found] at accepted
    cases accepted
  | ok query =>
    cases foundOther : catalog.query second with
    | error refused =>
      rw [foundOther] at acceptedOther
      cases acceptedOther
    | ok other =>
      obtain ⟨tokens, others, rendered, renderedOther, same⟩ :=
        query_renders_texts found foundOther sameFilter rfl rfl "people"
      exact ⟨query, other, tokens, others, rfl, rfl, rendered, renderedOther, same⟩

end Catalog

end RecordQuery
