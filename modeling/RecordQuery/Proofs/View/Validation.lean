import RecordQuery.Proofs.Outcome
import RecordQuery.Proofs.View.History
import RecordQuery.Query.Basic

/-! # Validated views never fail a request

Validation binds the views of a registry one after the other. Whatever name a request has for its view, the
view that it selects is one of these. After a successful validation a request whose filter and sort list can be
resolved therefore fails only if it selects no view at all.
-/

namespace RecordQuery

variable {ρ : Type}

namespace ViewRegistry

variable {registry : ViewRegistry} {fields : FieldRegistry ρ} {view : View} {name : String}
  {name? : Option String} {error : QueryError}

/-- A registry is valid exactly if each of its views can be bound. -/
theorem validate_eq_ok_iff : registry.validate fields = .ok () ↔
    ∀ view ∈ registry.views, ∃ projection, view.resolve fields = .ok projection := by
  rw [validate, Outcome.forM_eq_ok_iff]
  simp only [Outcome.bind_eq_ok_iff, Outcome.pure_eq_ok_iff, exists_const, and_true]

/-- Otherwise the first view that cannot be bound gives the error. -/
theorem validate_eq_error_iff : registry.validate fields = .error error ↔
    Outcome.FirstError (·.resolve fields) registry.views error := by
  rw [validate, Outcome.forM_eq_error_iff]
  simp only [Outcome.FirstError, Outcome.bind_eq_ok_iff, Outcome.bind_eq_error_iff, Outcome.pure_eq_ok_iff,
    Outcome.pure_ne_error, exists_const, and_true, and_false, exists_false, or_false]

/-- What a look-up finds is one of the views. -/
theorem mem_views_of_find (found : registry.find name = .ok view) : view ∈ registry.views := by
  unfold find at found
  split at found
  · rename_i same
    cases found
    exact List.mem_of_find?_eq_some same
  · cases found

theorem mem_views_of_defaultView (found : registry.defaultView = .ok view) : view ∈ registry.views := by
  unfold defaultView at found
  split at found
  · rename_i same
    cases found
    obtain ⟨key, -, chosen⟩ := Option.bind_eq_some_iff.mp same
    exact List.mem_of_find?_eq_some chosen
  · cases found

theorem mem_views_of_get (selected : registry.get name? = .ok view) : view ∈ registry.views := by
  unfold get at selected
  split at selected
  · exact mem_views_of_find selected
  · exact mem_views_of_defaultView selected

/-- A look-up fails because the name is unknown, or because no default was chosen. -/
theorem error_of_get (failed : registry.get name? = .error error) :
    (∃ name, error = .unknownView name registry.names) ∨ error = .noDefaultView := by
  unfold get at failed
  split at failed
  · rename_i name _
    unfold find at failed
    split at failed
    · cases failed
    · exact .inl ⟨name, (Except.error.inj failed).symm⟩
  · unfold defaultView at failed
    split at failed
    · cases failed
    · exact .inr (Except.error.inj failed).symm

/-- In a valid registry, every view that can be selected can be bound. -/
theorem resolve_of_validate (valid : registry.validate fields = .ok ()) (name? : Option String) :
    (∃ projection, registry.resolve name? fields = .ok projection) ∨
      (∃ name, registry.resolve name? fields = .error (.unknownView name registry.names)) ∨
      registry.resolve name? fields = .error .noDefaultView := by
  rw [resolve]
  cases selected : registry.get name? with
  | ok view => exact .inl (validate_eq_ok_iff.mp valid view (mem_views_of_get selected))
  | error problem =>
    rcases error_of_get selected with ⟨name, rfl⟩ | rfl
    · exact .inr (.inl ⟨name, rfl⟩)
    · exact .inr (.inr rfl)

end ViewRegistry

namespace Catalog

variable {catalog : Catalog ρ} {request : Request} {condition? : Option (Condition ρ)} {order? : Option (RowOrder ρ)}

/-- When the filter and the sort list have been resolved, the view decides. -/
theorem query_eq_map_resolve (filtered : request.filter?.mapM catalog.readCondition = .ok condition?)
    (sorted : request.sort?.mapM catalog.readOrder = .ok order?) :
    catalog.query request = (catalog.views.resolve request.view? catalog.fields).map fun projection =>
      ⟨condition?, order?.getD .unordered, projection⟩ := by
  rw [query, filtered, sorted]
  change (catalog.views.resolve request.view? catalog.fields >>= _) = _
  cases catalog.views.resolve request.view? catalog.fields <;> rfl

/-- Validation looks at the last view of each folded name, in the order of their first registration, and tells
the first one that cannot be bound. If all of them can be, a request whose filter and sort list can be resolved
has a query, unless its view is unknown or no default was chosen. -/
theorem query_of_validate (calls : List ViewRegistry.Call) (fields : FieldRegistry ρ) (limits : Limits) :
    let views := ViewRegistry.run calls
    let catalog : Catalog ρ := ⟨fields, views, limits⟩
    views.views.map some = (ViewRegistry.keys calls).map (ViewRegistry.latest? calls) ∧
    (views.validate fields = .ok () ↔
      ∀ view ∈ views.views, ∃ projection, view.resolve fields = .ok projection) ∧
    (∀ error, views.validate fields = .error error ↔
      ∃ front view back, views.views = front ++ view :: back ∧
        (∀ earlier ∈ front, ∃ projection, earlier.resolve fields = .ok projection) ∧
          view.resolve fields = .error error) ∧
    (views.validate fields = .ok () → ∀ request condition? order?,
      request.filter?.mapM catalog.readCondition = .ok condition? →
      request.sort?.mapM catalog.readOrder = .ok order? →
        (∃ query, catalog.query request = .ok query) ∨
        (∃ name, catalog.query request = .error (.unknownView name views.names)) ∨
        catalog.query request = .error .noDefaultView) := by
  intro views catalog
  refine ⟨ViewRegistry.map_some_run calls, ViewRegistry.validate_eq_ok_iff,
    fun _ => ViewRegistry.validate_eq_error_iff, ?_⟩
  intro valid request condition? order? filtered sorted
  rw [query_eq_map_resolve filtered sorted]
  rcases ViewRegistry.resolve_of_validate valid request.view? with ⟨projection, bound⟩ | ⟨name, unknown⟩ | undecided
  · exact .inl ⟨_, Outcome.map_eq_ok_iff.mpr ⟨projection, bound, rfl⟩⟩
  · exact .inr (.inl ⟨name, Outcome.map_eq_error_iff.mpr unknown⟩)
  · exact .inr (.inr (Outcome.map_eq_error_iff.mpr undecided))

end Catalog

end RecordQuery
