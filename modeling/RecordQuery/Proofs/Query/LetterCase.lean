import RecordQuery.Proofs.Filter.LetterCase
import RecordQuery.Proofs.Query.Lowering

/-! # Requests in another letter case

Requests may be written in any letter case wherever the language ignores it: in keywords and names, in the
directions of a sort list, and in texts that name truth values or variants. Requests that differ only there have
the same query, or they are refused for reasons of the same kind at the same place.
-/

namespace RecordQuery

open Outcome

variable {ρ : Type} {catalog : Catalog ρ} {ignoresCase : String → Bool}

/-- Two requests differ only in the case of letters, and in their filters only inside of caseless tokens. -/
structure Request.Recased (ignoresCase : String → Bool) (first second : Request) : Prop where
  filter : Option.Rel (Filter.Recased ignoresCase) first.filter? second.filter?
  sort : Option.Rel (fun list other => Text.lowered list = Text.lowered other) first.sort? second.sort?
  view : first.view?.map Text.lowered = second.view?.map Text.lowered

namespace Catalog

theorem gist_unreadable {error other : ReadingError} (same : error.gist = other.gist) :
    (QueryError.unreadable error).gist = (QueryError.unreadable other).gist := by
  obtain ⟨lexical, position⟩ := Prod.mk.inj same
  cases error with
  | lexical fault =>
    cases other with
    | lexical => exact congrArg (Prod.mk _) (congrArg some position)
    | grammatical => cases lexical
  | grammatical fault =>
    cases other with
    | lexical => cases lexical
    | grammatical => exact congrArg (Prod.mk _) (congrArg some position)

/-- Filters in another case have the same condition, or they are refused alike. -/
theorem readCondition_recased {first second : String}
    (recased : Filter.Recased catalog.fields.ignoresCase first second) :
    Alike QueryError.gist Eq (catalog.readCondition first) (catalog.readCondition second) := by
  have parsed := Filter.parse_recased catalog.limits catalog.fields.ignoresCase_lowered recased
  refine (parsed.mapError fun _ _ => gist_unreadable).bind fun filter other same => ?_
  exact .of_same_form (Filter.condition_lowered catalog.fields) same

theorem readOrder_lowered (catalog : Catalog ρ) (text : String) :
    Alike QueryError.gist Eq (catalog.readOrder text) (catalog.readOrder (Text.lowered text)) := by
  refine ((SortList.parse_lowered text).mapError fun _ _ same => ?_).bind fun keys _ same => ?_
  · exact gist_unreadable (congrArg (Prod.mk false) same)
  · rw [same]
    exact RowOrder.ofSortKeys_lowered catalog.fields keys

/-- Sort lists in another case have the same order, or they are refused alike. -/
theorem readOrder_recased {first second : String} (same : Text.lowered first = Text.lowered second) :
    Alike QueryError.gist Eq (catalog.readOrder first) (catalog.readOrder second) :=
  .of_same_form catalog.readOrder_lowered same

/-- View names in another case select the same view, or they are refused alike. -/
theorem resolve_recased {first second : Option String} (same : first.map Text.lowered = second.map Text.lowered) :
    Alike QueryError.gist Eq (catalog.views.resolve first catalog.fields)
      (catalog.views.resolve second catalog.fields) :=
  Alike.of_same_form (catalog.views.resolve_lowered · catalog.fields) same

theorem query_alike {first second : Request}
    (recased : Request.Recased catalog.fields.ignoresCase first second) :
    Alike QueryError.gist Eq (catalog.query first) (catalog.query second) := by
  refine (Alike.optionMapM recased.filter fun _ _ => readCondition_recased).bind fun condition? _ same => ?_
  refine (Alike.optionMapM recased.sort fun _ _ => readOrder_recased).bind fun order? _ sameOrder => ?_
  refine (resolve_recased recased.view).bind fun projection _ sameProjection => ?_
  rw [same, sameOrder, sameProjection]
  exact .refl _

/-- Requests that differ only where the language ignores the case of letters have the same query, and so they
select, order and show the same rows and have the same statements. Otherwise both are refused for reasons of the
same kind, at the same place. -/
theorem query_recased {first second : Request}
    (recased : Request.Recased catalog.fields.ignoresCase first second) :
    (∃ query, catalog.query first = .ok query ∧ catalog.query second = .ok query) ∨
      ∃ error other, catalog.query first = .error error ∧ catalog.query second = .error other ∧
        error.kind = other.kind ∧ error.position? = other.position? := by
  have alike := query_alike recased
  generalize catalog.query first = outcome at alike ⊢
  generalize catalog.query second = otherOutcome at alike ⊢
  cases alike with
  | ok same =>
    subst same
    exact .inl ⟨_, rfl, rfl⟩
  | error same => exact .inr ⟨_, _, rfl, rfl, Prod.mk.inj same⟩

/-- Keywords, names, a view and the texts of a variant and of a truth value are written in another case, while
the text of a text field is kept. -/
theorem query_recased_of_variants :
    let catalog : Catalog (String → Value) :=
      ⟨.ofList [.ofName "state" (.variants ["Open"]) (· "state"), .ofName "done" .boolean (· "done"),
          .ofName "name" .text (· "name")],
        ⟨[View.ofFields "list" ["name"]], some "list"⟩, .standard⟩
    let first : Request :=
      ⟨some "state in ('open') and not done='true' or name='Ab'", some "state:asc,name", some " list"⟩
    let second : Request :=
      ⟨some "STATE In ('oPEN') AND Not Done='TRUE' OR Name='Ab'", some "State:ASC,NAME", some " List"⟩
    Request.Recased catalog.fields.ignoresCase first second ∧
      ∃ query, catalog.query first = .ok query ∧ catalog.query second = .ok query := by
  intro catalog first second
  have recased : Request.Recased catalog.fields.ignoresCase first second :=
    ⟨.some ⟨by decide +kernel, by decide +kernel⟩, .some (by decide +kernel), by decide +kernel⟩
  have accepted : (catalog.query first).isOk = true := by decide +kernel
  rcases query_recased recased with same | ⟨error, -, refused, -⟩
  · exact ⟨recased, same⟩
  · rw [refused] at accepted
    cases accepted

end Catalog

end RecordQuery
