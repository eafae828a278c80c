import RecordQuery.Proofs.Number.Overflow
import RecordQuery.Proofs.Query.Confidentiality
import RecordQuery.Proofs.Sql.Pieces

/-! # The numbers of a request in its statement

The numbers in the text of a statement are those that the condition compares with. A finite one is written as
a numeral, and quoted numbers are finite. A numeral without quotes in the filter text, however, is read as an
infinity if it reaches the overflow, and an infinity is written as a word.
-/

namespace RecordQuery

section Operands

variable {type : ValueType} {value : Number}

/-- A number that is not finite comes from a literal number alone, since texts of numbers are finite. -/
theorem ValueType.coerce?_eq_number_iff {literal : Literal} {result : Value}
    (coerced : type.coerce? literal = some result) (boundless : value.isFinite = false) :
    result = .number value ↔ literal = .number value := by
  cases literal with
  | null =>
    cases coerced
    simp
  | number given =>
    cases type <;> cases coerced
    simp
  | boolean given =>
    cases type <;> cases coerced
    simp
  | text content =>
    suffices result ≠ .number value by simpa
    rintro rfl
    cases type with
    | text => cases coerced
    | number =>
      simp only [coerce?, Option.map_eq_some_iff] at coerced
      obtain ⟨number, written, same⟩ := coerced
      obtain rfl := Value.number.inj same
      have finite := (Option.filter_eq_some_iff.mp written).2
      rw [boundless] at finite
      cases finite
    | boolean | instant | variants =>
      simp only [coerce?, Option.map_eq_some_iff] at coerced
      obtain ⟨_, -, same⟩ := coerced
      cases same

/-- A test compares with a number that is not finite exactly if its operand has this literal. -/
theorem Test.number_mem_operands_iff {operator : Operator} {operand : Operand} {question : Test}
    (accepted : ofOperator type operator operand = .ok question) (boundless : value.isFinite = false) :
    .number value ∈ question.operands ↔ .number value ∈ operand.literals := by
  cases operator with
  | relation sign =>
    simp only [ofOperator] at accepted
    split at accepted
    · cases accepted
    · cases operand with
      | list => cases accepted
      | single literal =>
        obtain ⟨result, coerced, chosen⟩ := Outcome.bind_eq_ok_iff.mp accepted
        have same := ValueType.coerce?_eq_number_iff (coerce_eq_ok_iff.mp coerced) boundless
        split at chosen
        · cases chosen
        · cases chosen
          simpa [operands, Operand.literals, eq_comm] using same
  | text word =>
    simp only [ofOperator] at accepted
    split at accepted
    · unfold ofTextMatch at accepted
      split at accepted <;> cases accepted
      simp [operands, Operand.literals]
    · cases accepted
  | membership =>
    cases operand with
    | single => cases accepted
    | list literals =>
      obtain ⟨values, coerced, rfl⟩ := Outcome.map_eq_ok_iff.mp accepted
      have related := Outcome.mapM_eq_ok_iff.mp coerced
      have same := Outcome.exists_mem_iff related fun literal result step =>
        ValueType.coerce?_eq_number_iff (coerce_eq_ok_iff.mp step) boundless
      simpa [operands, Operand.literals] using same

variable {ρ : Type} {registry : FieldRegistry ρ} {filter : Filter} {condition : Condition ρ}

/-- A condition compares with a number that is not finite exactly if its filter has this literal. -/
theorem Filter.number_mem_operands_iff (accepted : filter.condition registry = .ok condition)
    (boundless : value.isFinite = false) :
    (∃ bound ∈ condition.tests, .number value ∈ bound.2.operands) ↔ .number value ∈ filter.literals := by
  rw [literals, List.mem_flatMap]
  exact Outcome.exists_mem_iff (forall₂_binds_of_condition accepted) fun leaf bound binds =>
    Test.number_mem_operands_iff binds.2 boundless

end Operands

namespace Catalog

variable {ρ : Type} {catalog : Catalog ρ} {request : Request} {query : Query ρ}

/-- The condition of an accepted filter text compares with a number that is not finite exactly if the text
writes a numeral of it. -/
theorem number_mem_tests_iff {text : String} {condition : Condition ρ}
    (accepted : catalog.readCondition text = .ok condition) {value : Number}
    (boundless : value.isFinite = false) :
    (∃ bound ∈ condition.tests, .number value ∈ bound.2.operands) ↔ ∃ negative whole fraction,
      Lexer.WritesNumeral text negative whole fraction ∧ Number.ofDigits negative whole fraction = value := by
  obtain ⟨filter, parsed, resolved⟩ := Outcome.bind_eq_ok_iff.mp accepted
  rw [Filter.number_mem_operands_iff resolved boundless,
    Filter.number_mem_literals_iff (Outcome.mapError_eq_ok_iff.mp parsed)]

theorem number_mem_operands_iff (accepted : catalog.query request = .ok query) {value : Number}
    (boundless : value.isFinite = false) :
    .number value ∈ query.operands ↔ ∃ text, request.filter? = some text ∧ ∃ negative whole fraction,
      Lexer.WritesNumeral text negative whole fraction ∧ Number.ofDigits negative whole fraction = value := by
  constructor
  · intro member
    obtain ⟨bound, tested, among⟩ := Query.mem_operands_iff.mp member
    obtain ⟨text, condition, given, read, inside⟩ := exists_readCondition accepted tested
    exact ⟨text, given, (number_mem_tests_iff read boundless).mp ⟨bound, inside, among⟩⟩
  · rintro ⟨text, given, written⟩
    obtain ⟨condition?, -, filtered, -, -, same, -⟩ := query_eq_ok_iff.mp accepted
    rw [given] at filtered
    obtain ⟨condition, taken, read⟩ := Outcome.exists_result_of_optionMapM filtered
    obtain ⟨bound, inside, among⟩ := (number_mem_tests_iff read boundless).mpr written
    refine Query.mem_operands_iff.mpr ⟨bound, Query.mem_tests_iff.mpr ⟨condition, ?_, inside⟩, among⟩
    rw [same, taken]

/-- The condition compares with an infinity exactly if the filter text writes a numeral that reaches the
overflow. -/
theorem comparesInfinite_iff (accepted : catalog.query request = .ok query) :
    query.ComparesInfinite ↔ ∃ text, request.filter? = some text ∧ ∃ negative whole fraction,
      Lexer.WritesNumeral text negative whole fraction ∧
      Number.overflow * 10 ^ fraction.length ≤ Text.digitsValue (whole ++ fraction) := by
  constructor
  · rintro ⟨minus, compared⟩
    obtain ⟨text, given, negative, whole, fraction, writes, infinite⟩ :=
      (number_mem_operands_iff accepted rfl).mp compared
    have boundless : (Number.ofDigits negative whole fraction).isFinite = false := by
      rw [infinite]
      rfl
    exact ⟨text, given, negative, whole, fraction, writes, Number.isFinite_ofDigits_eq_false_iff.mp boundless⟩
  · rintro ⟨text, given, negative, whole, fraction, writes, reached⟩
    have boundless : (Number.ofDigits negative whole fraction).isFinite = false :=
      Number.isFinite_ofDigits_eq_false_iff.mpr reached
    have compared := (number_mem_operands_iff accepted boundless).mpr
      ⟨text, given, negative, whole, fraction, writes, rfl⟩
    cases found : Number.ofDigits negative whole fraction with
    | nan => exact absurd found (Number.ofDigits_ne_nan _ _ _)
    | infinite minus => exact ⟨minus, found ▸ compared⟩
    | finite =>
      rw [found] at boundless
      cases boundless

/-- A number in the statement is a numeral, or an infinity that the condition compares with. -/
theorem isNumeral_or_compares (accepted : catalog.query request = .ok query) {table digits : String}
    (member : .number digits ∈ (Sql.Statement.ofQuery table query).pieces) :
    Sql.IsNumeral digits.toList ∨ ∃ negative, .number (.infinite negative) ∈ query.operands ∧
      digits = (Number.infinite negative).text := by
  obtain ⟨value, compared, scalar, constant, piece⟩ := Sql.Statement.number_mem_pieces_ofQuery_iff.mp member
  have defined : value ≠ .number .nan := fun undefined => nan_not_mem_operands accepted (undefined ▸ compared)
  rcases Sql.isNumeral_or_infinite defined constant piece with isNumeral | ⟨negative, rfl, word⟩
  · exact .inl isNumeral
  · exact .inr ⟨negative, compared, word⟩

/-- Every number in the statement of an accepted request is a numeral or an infinity, and some number is no
numeral exactly if the filter text writes a numeral, without quotes, that reaches the overflow. -/
theorem query_writes_numerals (accepted : catalog.query request = .ok query) (table : String) :
    (∀ digits, .number digits ∈ (Sql.Statement.ofQuery table query).pieces →
      Sql.IsNumeral digits.toList ∨ digits = "inf" ∨ digits = "-inf") ∧
    ((∃ digits, .number digits ∈ (Sql.Statement.ofQuery table query).pieces ∧ ¬Sql.IsNumeral digits.toList) ↔
      ∃ text, request.filter? = some text ∧ ∃ negative whole fraction,
        Lexer.WritesNumeral text negative whole fraction ∧
        Number.overflow * 10 ^ fraction.length ≤ Text.digitsValue (whole ++ fraction)) := by
  constructor
  · intro digits member
    rcases isNumeral_or_compares accepted member with isNumeral | ⟨negative, -, rfl⟩
    · exact .inl isNumeral
    · cases negative with
      | false => exact .inr (.inl rfl)
      | true => exact .inr (.inr rfl)
  · rw [← comparesInfinite_iff accepted]
    constructor
    · rintro ⟨digits, member, noNumeral⟩
      rcases isNumeral_or_compares accepted member with isNumeral | ⟨negative, compared, -⟩
      · exact absurd isNumeral noNumeral
      · exact ⟨negative, compared⟩
    · rintro ⟨negative, compared⟩
      refine ⟨(Number.infinite negative).text, ?_, Sql.not_isNumeral_infinite negative⟩
      exact Sql.Statement.number_mem_pieces_ofQuery_iff.mpr ⟨_, compared, _, rfl, rfl⟩

/-- A list with a quoted number and a numeral of 310 digits is accepted and has a number without digits. -/
theorem query_writes_numerals_of_overflow :
    let catalog : Catalog (String → Value) :=
      ⟨.ofList [.ofName "age" .number (· "age")], ⟨[View.ofFields "list" ["age"]], some "list"⟩, .standard⟩
    let text := String.ofList ("age in ('1e300', -".toList ++ List.replicate 310 '9' ++ [')'])
    ∃ query, catalog.query ⟨some text, none, none⟩ = .ok query ∧
      .number "-inf" ∈ (Sql.Statement.ofQuery "people" query).pieces ∧
      ∃ negative whole fraction, Lexer.WritesNumeral text negative whole fraction ∧
        Number.overflow * 10 ^ fraction.length ≤ Text.digitsValue (whole ++ fraction) := by
  intro catalog text
  -- Any text of these characters will do, so that the characters are not decoded again.
  have readable (written : String) (same : written.toList = "age in ('1e300', -".toList ++
      List.replicate 310 '9' ++ [')']) : (catalog.query ⟨some written, none, none⟩).toOption.any (fun query =>
        decide (.number "-inf" ∈ (Sql.Statement.ofQuery "people" query).pieces)) = true := by
    simp only [Catalog.query, Option.mapM_some, Catalog.readCondition, Filter.parse, Lexer.tokens, same]
    decide +kernel
  have checked := readable text String.toList_ofList
  cases accepted : catalog.query ⟨some text, none, none⟩ with
  | error refused =>
    rw [accepted] at checked
    cases checked
  | ok query =>
    rw [accepted] at checked
    have member := of_decide_eq_true checked
    obtain ⟨-, iff⟩ := query_writes_numerals accepted "people"
    obtain ⟨given, same, written⟩ := iff.mp ⟨"-inf", member, Sql.not_isNumeral_infinite true⟩
    obtain rfl : text = given := Option.some.inj same
    exact ⟨query, rfl, member, written⟩

end Catalog

end RecordQuery
