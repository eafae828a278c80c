import RecordQuery.Proofs.Instant.RoundTrip
import RecordQuery.Proofs.Number.Rounding
import RecordQuery.Proofs.Query.Alternatives
import RecordQuery.Proofs.Value.Order

/-! # Rows are found again by what they show

What a row shows of a field can be written as a literal of a filter. The equality with this literal is met by
the row, unless the value is lost on the way: numbers that are not finite are shown as null, a variant gives
way to an earlier one in another letter case, and the text of an instant is read only if its year has four
digits. A negative zero is shown as zero, which equals it, and leap seconds and fractions are kept.
-/

namespace RecordQuery

/-- The literal that a JSON value denotes; an object denotes none. -/
def Json.literal? : Json → Option Literal
  | null => some .null
  | boolean value => some (.boolean value)
  | integer whole => some (.number (.ofInt whole))
  | number value => some (.number value)
  | text content => some (.text content)
  | object _ => none

namespace ValueType

/-- The name is one of the names, and none in front of it equals it without regard to case. -/
def ComesFirst (names : List String) (name : String) : Prop :=
  ∃ before behind, names = before ++ name :: behind ∧
    ∀ earlier ∈ before, Text.equalIgnoringCase earlier name = false

/-- A filter on a field of the type finds the value by what is shown of it. -/
def Recovers : ValueType → Value → Prop
  | _, .null => True
  | text, .text _ | text, .variant _ => True
  | number, .number value => value.isFinite
  | boolean, .boolean _ => True
  | instant, .instant moment => 0 ≤ moment.date.year ∧ moment.date.year ≤ 9999
  | variants names, .text name | variants names, .variant name => ComesFirst names name
  | _, _ => False

variable {type : ValueType} {value : Value}

theorem equalIgnoringCase_self (text : String) : Text.equalIgnoringCase text text = true := beq_self_eq_true _

/-- A name is found among variants as itself if it comes first. -/
theorem find?_eq_some_self_iff {names : List String} {name : String} :
    names.find? (Text.equalIgnoringCase · name) = some name ↔ ComesFirst names name := by
  rw [List.find?_eq_some_iff_append]
  simp only [equalIgnoringCase_self, true_and, Bool.not_eq_true', ComesFirst]

/-- The literal becomes a value of the type that equals another one. -/
def Equates (type : ValueType) (literal : Literal) (value : Value) : Prop :=
  ∃ found, type.coerce? literal = some found ∧ found.compare? value = some .eq

theorem equates_null (type : ValueType) : type.Equates .null .null := ⟨.null, by cases type <;> rfl, rfl⟩

theorem equates_text_iff (content : String) :
    type.Equates (.text content) (.text content) ↔ type.Recovers (.text content) := by
  cases type with
  | text | number | boolean | instant =>
    simp [Equates, Recovers, coerce?, Value.compare?, -Bool.exists_bool]
  | variants names => simpa [Equates, Recovers, coerce?, Value.compare?] using find?_eq_some_self_iff

/-- Variants are equal to what equals their text. -/
theorem equates_variant_iff (name : String) :
    type.Equates (.text name) (.variant name) ↔ type.Recovers (.variant name) := by
  have compared (found : Value) : found.compare? (.variant name) = found.compare? (.text name) := by
    cases found <;> rfl
  have kept : type.Recovers (.variant name) ↔ type.Recovers (.text name) := by cases type <;> exact Iff.rfl
  rw [kept, ← equates_text_iff]
  simp only [Equates, compared]

theorem equates_boolean_iff (content : Bool) :
    type.Equates (.boolean content) (.boolean content) ↔ type.Recovers (.boolean content) := by
  cases type <;> simp [Equates, Recovers, coerce?, Value.compare?]

/-- A text of an instant is that of a year with four digits, or it belongs to no instant. -/
theorem equates_instant_iff (moment : Instant) :
    type.Equates (.text moment.text) (.instant moment) ↔ type.Recovers (.instant moment) := by
  cases type with
  | text | number | boolean | variants names =>
    simp [Equates, Recovers, coerce?, Value.compare?, -Bool.exists_bool]
  | instant =>
    have same : moment.order moment = .eq := by simp [Instant.order]
    simp only [Equates, coerce?, Instant.ofText?_text, Recovers]
    split
    · rename_i ordinary
      exact iff_of_true ⟨.instant moment, rfl, congrArg some same⟩ ordinary
    · rename_i signed
      refine iff_of_false ?_ signed
      rintro ⟨_, found, -⟩
      cases found

/-- The literal of a finite number stands in its place. -/
theorem exists_literal?_ofNumber {value : Number} (finite : value.isFinite = true) :
    ∃ written, (Json.ofNumber value).literal? = some (.number written) ∧ written.compare? value = some .eq := by
  have defined : value ≠ .nan := by
    rintro rfl
    cases finite
  unfold Json.ofNumber
  split
  · rename_i whole found
    exact ⟨.ofInt whole, rfl, Number.compare?_of_same_position (Number.position?_ofInt found) defined⟩
  · rw [if_pos finite]
    exact ⟨value, rfl, Number.compare?_of_same_position rfl defined⟩

theorem literal?_ofNumber {value : Number} (infinite : value.isFinite = false) :
    (Json.ofNumber value).literal? = some .null := by
  cases value with
  | nan | infinite => rfl
  | finite => cases infinite

theorem exists_equates_number_iff (value : Number) : ∃ literal,
    (Json.ofNumber value).literal? = some literal ∧
      (type.Equates literal (.number value) ↔ type.Recovers (.number value)) := by
  cases finite : value.isFinite with
  | true =>
    obtain ⟨written, shown, equal⟩ := exists_literal?_ofNumber finite
    refine ⟨_, shown, ?_⟩
    cases type <;> simp [Equates, Recovers, coerce?, Value.compare?, equal, finite]
  | false =>
    refine ⟨_, literal?_ofNumber finite, ?_⟩
    cases type <;> simp [Equates, Recovers, coerce?, Value.compare?, finite]

/-- What is shown of a value equals it, as a literal for a type, exactly if the type recovers the value. -/
theorem exists_equates_iff (type : ValueType) (value : Value) : ∃ literal,
    value.toJson.literal? = some literal ∧ (type.Equates literal value ↔ type.Recovers value) := by
  cases value with
  | null => exact ⟨.null, rfl, iff_of_true (equates_null type) (by cases type <;> trivial)⟩
  | text content => exact ⟨_, rfl, equates_text_iff content⟩
  | number value => exact exists_equates_number_iff value
  | boolean content => exact ⟨_, rfl, equates_boolean_iff content⟩
  | instant moment => exact ⟨_, rfl, equates_instant_iff moment⟩
  | variant name => exact ⟨_, rfl, equates_variant_iff name⟩

end ValueType

namespace Value

/-- Values are equal either way. -/
theorem compare?_eq_comm {first second : Value} :
    first.compare? second = some .eq ↔ second.compare? first = some .eq := by
  rw [compare?_swap first second, Option.map_eq_some_iff]
  simp [Ordering.swap_eq_eq]

/-- An equality is met by a row if its literal becomes a value that equals what the row holds. -/
theorem answers_equality_iff {ρ : Type} {registry : FieldRegistry ρ} {name : String} {field : Field ρ}
    (resolved : registry.resolve name .filterable = .ok field) {literal : Literal} {row : ρ} :
    registry.answers row (.equality name literal) = true ↔ field.type.Equates literal (field.read row) := by
  cases coerced : Test.coerce field.type literal with
  | error problem =>
    have refused : (Filter.comparison (.equality name literal)).condition registry =
        .error (.mismatch name problem) := by
      rw [Filter.condition, FieldRegistry.condition_equality resolved, coerced]
      rfl
    rw [FieldRegistry.answers, refused]
    refine iff_of_false Bool.false_ne_true ?_
    rintro ⟨found, belongs, -⟩
    rw [(Test.coerce_eq_error_iff.mp coerced).1] at belongs
    cases belongs
  | ok value =>
    rw [FieldRegistry.answers_equality resolved coerced, beq_iff_eq, compare?_eq_comm, ValueType.Equates,
      Test.coerce_eq_ok_iff.mp coerced]
    simp

/-- What is shown of a value is a literal. It belongs to a type and equals the value exactly if the type
recovers the value, and exactly then the equality with it, asked of a field of the type, is met by the rows
that hold the value. An instant whose year does not have four digits is refused. -/
theorem shown_literal_recovers (type : ValueType) (value : Value) : ∃ literal,
    value.toJson.literal? = some literal ∧
    ((∃ found, Test.coerce type literal = .ok found ∧ found.compare? value = some .eq) ↔ type.Recovers value) ∧
    (∀ {ρ : Type} {registry : FieldRegistry ρ} {name : String} {field : Field ρ} {row : ρ},
      registry.resolve name .filterable = .ok field → field.type = type → field.read row = value →
        (registry.answers row (.equality name literal) = true ↔ type.Recovers value)) ∧
    ∀ moment, value = .instant moment → ¬(0 ≤ moment.date.year ∧ moment.date.year ≤ 9999) →
      Test.coerce .instant literal = .error ⟨.valueOf .instant, .literal literal⟩ := by
  obtain ⟨literal, shown, equates⟩ := ValueType.exists_equates_iff type value
  refine ⟨literal, shown, ?_, ?_, ?_⟩
  · simp only [Test.coerce_eq_ok_iff]
    exact equates
  · rintro ρ registry name field row resolved rfl rfl
    rw [answers_equality_iff resolved, equates]
  · rintro moment rfl signed
    obtain rfl : Literal.text moment.text = literal := Option.some.inj shown
    have refused : ValueType.instant.coerce? (.text moment.text) = none := by
      rw [ValueType.coerce?, Instant.ofText?_text, if_neg signed, Option.map_none]
    rw [Test.coerce, refused]

/-- A leap second of the last year of four digits is found again, and the first day after it is refused. -/
theorem shown_literal_recovers_of_leap_second :
    let last : Instant := ⟨⟨9999, 12, 31, by decide⟩, 1439, 60, 500000000, by decide, by decide, by decide⟩
    let after : Instant := .midnight ⟨10000, 1, 1, by decide⟩
    let field : Field Value := .ofName "born" .instant id
    let registry : FieldRegistry Value := .ofList [field]
    registry.resolve "born" .filterable = .ok field ∧
    (∃ literal, (instant last).toJson.literal? = some literal ∧
      registry.answers (instant last) (.equality "born" literal) = true) ∧
    ¬(0 ≤ after.date.year ∧ after.date.year ≤ 9999) ∧
    ∃ literal, (instant after).toJson.literal? = some literal ∧
      Test.coerce .instant literal = .error ⟨.valueOf .instant, .literal literal⟩ := by
  intro last after field registry
  have resolved : registry.resolve "born" .filterable = .ok field :=
    FieldRegistry.resolve_eq_ok_iff.mpr
      ⟨(FieldRegistry.get?_add .empty field "born").trans (if_pos rfl), rfl⟩
  obtain ⟨literal, shown, -, answered, -⟩ := shown_literal_recovers .instant (instant last)
  obtain ⟨other, otherShown, -, -, refused⟩ := shown_literal_recovers .instant (instant after)
  have past : ¬(0 ≤ after.date.year ∧ after.date.year ≤ 9999) := by decide
  exact ⟨resolved, ⟨literal, shown, (answered resolved rfl rfl).mpr ⟨by decide, by decide⟩⟩, past, other, otherShown,
    refused after rfl past⟩

end Value

end RecordQuery
