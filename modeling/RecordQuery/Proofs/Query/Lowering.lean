import RecordQuery.Proofs.Filter.Lowering
import RecordQuery.Proofs.View.History
import RecordQuery.Query.Basic
import RecordQuery.Shell.Session

/-! # Requests with their names in lower case

Fields and views are found by their names in any letter case, and truth values and variants by texts in any
letter case. Lowered filters, sort lists and view names therefore mean the same as the ones that were written, and
errors differ only in the spelling that they repeat. -/

namespace RecordQuery

open Outcome

variable {ρ : Type}

/-- What is told of an error when the spelling is left out: its kind and its place. -/
def QueryError.gist (error : QueryError) : String × Option Nat := (error.kind, error.position?)

/-- The values of the type are named by texts in any letter case. -/
def ValueType.ignoresCase : ValueType → Bool
  | boolean | variants _ => true
  | text | number | instant => false

/-- The name is that of a field whose values are named by texts in any letter case. -/
def FieldRegistry.ignoresCase (registry : FieldRegistry ρ) (name : String) : Bool :=
  (registry.get? name).any (·.type.ignoresCase)

namespace FieldRegistry

variable {registry : FieldRegistry ρ}

theorem get?_lowered (registry : FieldRegistry ρ) (name : String) :
    registry.get? (Text.lowered name) = registry.get? name := by
  rw [get?, Text.fold_lowered, get?]

theorem ignoresCase_lowered (registry : FieldRegistry ρ) (name : String) :
    registry.ignoresCase (Text.lowered name) = registry.ignoresCase name := by
  rw [ignoresCase, get?_lowered, ignoresCase]

/-- A name in lower case has the same field, or it is refused for a reason of the same kind. -/
theorem resolve_lowered (registry : FieldRegistry ρ) (name : String) (required : Capability) :
    Alike QueryError.gist (fun field other => field = other ∧ registry.ignoresCase name = field.type.ignoresCase)
      (registry.resolve name required) (registry.resolve (Text.lowered name) required) := by
  unfold resolve
  rw [get?_lowered]
  cases found : registry.get? name with
  | none => exact .error rfl
  | some field =>
    dsimp only
    split
    · exact .ok ⟨rfl, by rw [ignoresCase, found, Option.any_some]⟩
    · exact .error rfl

end FieldRegistry

/-! ## Conditions -/

theorem Literal.lowered_false (literal : Literal) : literal.lowered false = literal := by
  cases literal <;> rfl

theorem Operand.lowered_false (operand : Operand) : operand.lowered false = operand := by
  cases operand with
  | single literal => exact congrArg Operand.single literal.lowered_false
  | list literals =>
    exact congrArg Operand.list ((List.map_congr_left fun literal _ => literal.lowered_false).trans (List.map_id _))

/-- Texts in lower case stand for the same values of types that ignore case. -/
theorem ValueType.coerce?_lowered (type : ValueType) (literal : Literal) :
    type.coerce? (literal.lowered type.ignoresCase) = type.coerce? literal := by
  cases type with
  | text | number | instant => rw [ignoresCase, Literal.lowered_false]
  | boolean =>
    cases literal with
    | text content => simp only [ignoresCase, Literal.lowered, coerce?, booleanOfText?, Text.equalIgnoringCase_lowered]
    | number | boolean | null => rfl
  | variants names =>
    cases literal with
    | text content => simp only [ignoresCase, Literal.lowered, coerce?, Text.equalIgnoringCase_lowered_right]
    | number | boolean | null => rfl

namespace Test

variable {type : ValueType} {γ : Type}

/-- Mismatches are of one kind. -/
def mismatchGist (_ : Mismatch) : Unit := ()

theorem coerce_lowered (type : ValueType) (literal : Literal) :
    Alike mismatchGist Eq (coerce type literal) (coerce type (literal.lowered type.ignoresCase)) := by
  rw [coerce, coerce, ValueType.coerce?_lowered]
  cases type.coerce? literal with
  | none => exact .error rfl
  | some value => exact .ok rfl

theorem ofRelation_lowered (type : ValueType) (sign : Relation) (operand : Operand) :
    Alike mismatchGist Eq (ofRelation type sign operand)
      (ofRelation type sign (operand.lowered type.ignoresCase)) := by
  cases operand with
  | list literals => exact .refl _
  | single literal => exact (coerce_lowered type literal).bind fun _ _ same => same ▸ .refl _

theorem ofMembership_lowered (type : ValueType) (operand : Operand) :
    Alike mismatchGist Eq (ofMembership type operand) (ofMembership type (operand.lowered type.ignoresCase)) := by
  cases operand with
  | list literals => exact (Alike.mapM literals (coerce_lowered type)).map
  | single literal => exact .error rfl

/-- An operand in lower case makes the same test, if the type ignores case. -/
theorem ofOperator_lowered (type : ValueType) (operator : Operator) (operand : Operand) :
    Alike mismatchGist Eq (ofOperator type operator operand)
      (ofOperator type operator (operand.lowered type.ignoresCase)) := by
  cases operator with
  | relation sign =>
    simp only [ofOperator]
    split
    · exact .error rfl
    · exact ofRelation_lowered type sign operand
  | text word =>
    simp only [ofOperator]
    split
    · rename_i isText
      rw [isText, ValueType.ignoresCase, Operand.lowered_false]
      exact .refl _
    · exact .error rfl
  | membership => exact ofMembership_lowered type operand

end Test

theorem FieldRegistry.condition_lowered (registry : FieldRegistry ρ) (leaf : Comparison) :
    Alike QueryError.gist Eq (registry.condition leaf) (registry.condition (leaf.lowered registry.ignoresCase)) := by
  refine (registry.resolve_lowered leaf.field .filterable).bind fun field _ ⟨same, ignores⟩ => ?_
  subst same
  have tested := Test.ofOperator_lowered field.type leaf.operator leaf.operand
  simp only [Comparison.lowered, ignores]
  generalize Test.ofOperator field.type leaf.operator leaf.operand = test at tested ⊢
  generalize Test.ofOperator field.type leaf.operator (leaf.operand.lowered field.type.ignoresCase) = other at tested ⊢
  cases tested with
  | ok results => exact .ok (congrArg (Condition.test field) results)
  | error => exact .error rfl

/-- A lowered filter has the same condition, or it is refused for a reason of the same kind. -/
theorem Filter.condition_lowered (registry : FieldRegistry ρ) (filter : Filter) :
    Alike QueryError.gist Eq (filter.condition registry) ((filter.lowered registry.ignoresCase).condition registry) := by
  induction filter with
  | comparison leaf => exact registry.condition_lowered leaf
  | conjunction left right first second | disjunction left right first second =>
    refine first.bind fun _ _ same => second.bind fun _ _ sameRight => ?_
    rw [same, sameRight]
    exact .refl _
  | negation inner ih => exact ih.bind fun _ _ same => same ▸ .refl _

/-! ## Sort lists -/

/-- The key with its name in lower case. -/
def SortKey.lowered (key : SortKey) : SortKey := ⟨Text.lowered key.field, key.direction⟩

namespace SortList

theorem items_map_toLower (characters : List Char) :
    items (characters.map Char.toLower) = (items characters).map (List.map Char.toLower) := by
  have comma : ∀ character : Char, character.toLower = ',' ↔ character = ',' :=
    fun _ => Text.toLower_eq_iff (by decide)
  induction characters with
  | nil => rfl
  | cons first rest ih =>
    simp only [List.map_cons, items, comma, ih]
    split
    · rfl
    · cases items rest <;> rfl

theorem splitAtColon_map_toLower (item : List Char) :
    splitAtColon (item.map Char.toLower) =
      ((splitAtColon item).1.map Char.toLower, (splitAtColon item).2.map (List.map Char.toLower)) := by
  have colon : ∀ character : Char, (character.toLower != ':') = (character != ':') := fun character =>
    Text.toLower_congr (· != ':') (by decide) character
  have front : (item.map Char.toLower).takeWhile (· != ':') = (item.takeWhile (· != ':')).map Char.toLower :=
    Text.takeWhile_map_toLower colon item
  have behind : (item.map Char.toLower).dropWhile (· != ':') = (item.dropWhile (· != ':')).map Char.toLower :=
    Text.dropWhile_map_toLower colon item
  rw [splitAtColon, splitAtColon, front, behind]
  cases item.dropWhile (· != ':') <;> rfl

theorem readDirection?_map_toLower (written : Option (List Char)) :
    readDirection? (written.map (List.map Char.toLower)) = readDirection? written := by
  cases written with
  | none => rfl
  | some word =>
    have same : String.ofList (word.map Char.toLower) = Text.lowered (String.ofList word) := by
      rw [Text.lowered, String.toList_ofList]
    simp only [Option.map_some, readDirection?, same, Text.equalIgnoringCase_lowered]

theorem isName_map_toLower (word : List Char) : Name.isName (word.map Char.toLower) = Name.isName word := by
  cases word with
  | nil => rfl
  | cons first rest =>
    simp only [List.map_cons, Name.isName, Name.isStart_toLower, List.all_map, Function.comp_def,
      Name.isPart_toLower]

/-- Problems of an item are told apart by their place only. -/
def problemGist (_ : SyntaxProblem) : Unit := ()

theorem readTrimmed_map_toLower (item : List Char) :
    Alike problemGist (fun key lowered => lowered = key.lowered) (readTrimmed item)
      (readTrimmed (item.map Char.toLower)) := by
  have trimmed : ∀ written : Option (List Char), (written.map (List.map Char.toLower)).map Text.trimBoth =
      (written.map Text.trimBoth).map (List.map Char.toLower) := fun written => by
    simp only [Option.map_map, Function.comp_def, Text.trimBoth_map_toLower]
  simp only [readTrimmed, splitAtColon_map_toLower, Text.trimBoth_map_toLower, isName_map_toLower,
    List.map_eq_nil_iff, trimmed, readDirection?_map_toLower]
  split
  · exact .error rfl
  · split
    · exact .error rfl
    · cases readDirection? _ with
      | none => exact .error rfl
      | some direction =>
        refine .ok ?_
        rw [SortKey.lowered, Text.lowered, String.toList_ofList]

theorem readItem_map_toLower (offset : Nat) (item : List Char) :
    Alike SyntaxError.position (fun key lowered => lowered = key.lowered) (readItem offset item)
      (readItem offset (item.map Char.toLower)) := by
  simp only [readItem, Text.takeWhile_map_toLower Text.isBlank_toLower, Text.byteLength_map_toLower,
    Text.trimBoth_map_toLower]
  exact (readTrimmed_map_toLower _).mapError fun _ _ _ => rfl

theorem readItems_map_toLower (offset : Nat) (items : List (List Char)) :
    Alike SyntaxError.position (fun keys lowered => lowered = keys.map SortKey.lowered) (readItems offset items)
      (readItems offset (items.map (List.map Char.toLower))) := by
  induction items generalizing offset with
  | nil => exact .ok rfl
  | cons item more ih =>
    rw [List.map_cons, readItems, readItems, Text.byteLength_map_toLower]
    refine (readItem_map_toLower offset item).bind fun key _ same => (ih _).bind fun keys _ sameKeys => ?_
    rw [same, sameKeys]
    exact .ok rfl

/-- A sort list in lower case has its names in lower case, or it is refused at the same place. -/
theorem parse_lowered (text : String) :
    Alike SyntaxError.position (fun keys lowered => lowered = keys.map SortKey.lowered) (parse text)
      (parse (Text.lowered text)) := by
  have blank : (text.toList.map Char.toLower).all Text.isBlank = text.toList.all Text.isBlank := by
    simp only [List.all_map, Function.comp_def, Text.isBlank_toLower]
  rw [parse, parse, Text.toList_lowered, blank, items_map_toLower]
  split
  · exact .ok rfl
  · exact readItems_map_toLower 0 _

end SortList

namespace RowOrder

variable {registry : FieldRegistry ρ}

theorem addKey_lowered (registry : FieldRegistry ρ) (keys : List (Field ρ × Direction)) (key : SortKey) :
    Alike QueryError.gist Eq (addKey registry keys key) (addKey registry keys key.lowered) :=
  (registry.resolve_lowered key.field .sortable).bind fun _ _ ⟨same, _⟩ => same ▸ .refl _

/-- Lowered keys give the same order, or they are refused for a reason of the same kind. -/
theorem ofSortKeys_lowered (registry : FieldRegistry ρ) (keys : List SortKey) :
    Alike QueryError.gist Eq (ofSortKeys registry keys) (ofSortKeys registry (keys.map SortKey.lowered)) := by
  refine Alike.map ?_
  generalize [] = added
  induction keys generalizing added with
  | nil => exact .refl _
  | cons key rest ih =>
    rw [List.map_cons, List.foldlM_cons, List.foldlM_cons]
    exact (addKey_lowered registry added key).bind fun _ _ same => same ▸ ih _

end RowOrder

/-! ## Views -/

namespace ViewRegistry

theorem find_lowered (views : ViewRegistry) (name : String) :
    Alike QueryError.gist Eq (views.find name) (views.find (Text.lowered name)) := by
  unfold find find?
  rw [Text.fold_lowered]
  split
  · exact .ok rfl
  · exact .error rfl

/-- A view name in lower case selects the same view, or it is refused for a reason of the same kind. -/
theorem get_lowered (views : ViewRegistry) (name? : Option String) :
    Alike QueryError.gist Eq (views.get name?) (views.get (name?.map Text.lowered)) := by
  cases name? with
  | none => exact .refl _
  | some name =>
    by_cases blank : Text.trim name = ""
    · have lowered : Text.trim (Text.lowered name) = "" := by
        rwa [Text.trim_lowered, Text.lowered_eq_empty_iff]
      rw [get_of_unnamed (by simpa using blank), get_of_unnamed (by simpa using lowered)]
      exact .refl _
    · have named : Text.trim (Text.lowered name) ≠ "" := by
        rwa [Text.trim_lowered, Ne, Text.lowered_eq_empty_iff]
      rw [Option.map_some, get_of_named blank, get_of_named named, Text.trim_lowered]
      exact find_lowered views _

theorem resolve_lowered (views : ViewRegistry) (name? : Option String) (fields : FieldRegistry ρ) :
    Alike QueryError.gist Eq (views.resolve name? fields) (views.resolve (name?.map Text.lowered) fields) :=
  (views.get_lowered name?).bind fun _ _ same => same ▸ .refl _

end ViewRegistry

end RecordQuery
