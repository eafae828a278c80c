import Mathlib.Data.List.Induction
import RecordQuery.Proofs.Firsts
import RecordQuery.Proofs.Text.Folding
import RecordQuery.View.Registry

/-! # The registry of views after a history of calls

A registry is made by calls that register views or choose a default, some of which are refused. What it answers
afterwards is said by the calls alone: which folded names were registered and in which order for the first
time, which view was registered last under each of them, and which name was chosen last as the default.
-/

namespace RecordQuery

/-- The folded name of the view. -/
def View.key (view : View) : String := Text.fold view.name

namespace ViewRegistry

/-- A call that changes a registry. A builder has collected output names, aliases and paths when it is built. -/
inductive Call where
  | register (name : String) (fields : List String)
  | define (view : View)
  | build (name : String) (fields : List String) (aliases : List (String × String)) (includes : List String)
  | setDefault (name : String)

/-- The view that the call registers. -/
def Call.view? : Call → Option View
  | register name fields => some (.ofFields name fields)
  | define view => some view
  | build name fields aliases includes =>
    some (((View.ofFields name fields).withAliases aliases).withIncludes includes)
  | setDefault _ => none

/-- The registry after a call. A default that is refused leaves it as it was. -/
def call (registry : ViewRegistry) : Call → ViewRegistry
  | .register name fields => registry.register (.ofFields name fields)
  | .define view => registry.register view
  | .build name fields aliases includes =>
    registry.register (((View.ofFields name fields).withAliases aliases).withIncludes includes)
  | .setDefault name =>
    match registry.setDefault name with
    | .ok chosen => chosen
    | .error _ => registry

/-- The registry after calls. -/
def run (calls : List Call) : ViewRegistry := calls.foldl call empty

/-- The views that calls register, one after the other. -/
def registered (calls : List Call) : List View := calls.filterMap Call.view?

/-- The folded names that calls register, in the order of their first registration. -/
def keys (calls : List Call) : List String := ((registered calls).map View.key).eraseDups

/-- The view that was registered last under a folded name. -/
def latest? (calls : List Call) (key : String) : Option View :=
  (registered calls).findRev? fun view => view.key == key

/-- After these calls, the name is accepted as the default. -/
def Chooses (calls : List Call) (name : String) : Prop := ∃ chosen, (run calls).setDefault name = .ok chosen

/-- The name is the last one that was accepted as the default. -/
def LastChosen (calls : List Call) (name : String) : Prop :=
  ∃ before after, calls = before ++ .setDefault name :: after ∧ Chooses before name ∧
    ∀ front other back, after = front ++ .setDefault other :: back →
      ¬ Chooses (before ++ .setDefault name :: front) other

variable {registry : ViewRegistry} {view : View} {views : List View} {calls : List Call} {call : Call}
  {key name : String}

theorem run_concat (calls : List Call) (call : Call) : run (calls ++ [call]) = (run calls).call call := by
  rw [run, List.foldl_append, List.foldl_cons, List.foldl_nil, run]

theorem withKey?_eq (registry : ViewRegistry) (key : String) :
    registry.withKey? key = registry.views.find? fun view => view.key == key := rfl

/-! ## Registration -/

theorem call_of_view? (registers : call.view? = some view) : registry.call call = registry.register view := by
  cases call <;> cases registers <;> rfl

theorem exists_setDefault (quiet : call.view? = none) : ∃ name, call = .setDefault name := by
  cases call with
  | setDefault name => exact ⟨name, rfl⟩
  | register | define | build => cases quiet

/-- A name becomes the default if it is registered. -/
theorem call_setDefault (registry : ViewRegistry) (name : String) : registry.call (.setDefault name) =
    if (registry.find? name).isSome = true then { registry with default? := some (Text.fold name) } else registry := by
  simp only [ViewRegistry.call, setDefault, find]
  cases registry.find? name <;> rfl

theorem views_setDefault (name : String) : (registry.call (.setDefault name)).views = registry.views := by
  rw [call_setDefault]
  split <;> rfl

theorem registered_concat (calls : List Call) (call : Call) :
    registered (calls ++ [call]) = registered calls ++ call.view?.toList := by
  rw [registered, List.filterMap_append, registered]
  cases found : call.view? <;> simp [found]

/-- A view takes the place of the one with its folded name. -/
theorem map_key_put (view : View) (views : List View) :
    (put view views).map View.key =
      if view.key ∈ views.map View.key then views.map View.key else views.map View.key ++ [view.key] := by
  induction views with
  | nil => rfl
  | cons other rest ih =>
    by_cases same : other.key = view.key
    · have replaced : put view (other :: rest) = view :: rest := if_pos same
      simp [replaced, same]
    · have kept : put view (other :: rest) = other :: put view rest := if_neg same
      rw [kept, List.map_cons, ih, List.map_cons]
      simp only [List.mem_cons, eq_comm (a := view.key), same, false_or]
      split <;> rfl

/-- A folded name has the view that was put under it last. -/
theorem find?_put (view : View) (views : List View) (key : String) :
    (put view views).find? (fun other => other.key == key) =
      if view.key = key then some view else views.find? fun other => other.key == key := by
  induction views with
  | nil => by_cases own : view.key = key <;> simp [put, own]
  | cons other rest ih =>
    by_cases same : other.key = view.key
    · have replaced : put view (other :: rest) = view :: rest := if_pos same
      by_cases own : view.key = key <;> simp [replaced, own, same]
    · have kept : put view (other :: rest) = other :: put view rest := if_neg same
      rw [kept, List.find?_cons, List.find?_cons, ih]
      by_cases own : view.key = key
      · have passed : (other.key == key) = false := beq_eq_false_iff_ne.mpr (own ▸ same)
        simp [own, passed]
      · simp [own]

theorem eraseDups_concat (names : List String) (name : String) :
    (names ++ [name]).eraseDups = if name ∈ names then names.eraseDups else names.eraseDups ++ [name] := by
  rw [List.eraseDups_append]
  by_cases member : name ∈ names <;> simp [List.removeAll, List.eraseDups_cons, member]

theorem keys_concat_of_view? (registers : call.view? = some view) :
    keys (calls ++ [call]) = if view.key ∈ keys calls then keys calls else keys calls ++ [view.key] := by
  simp only [keys, registered_concat, registers, Option.toList_some, List.map_append, List.map_singleton,
    eraseDups_concat, List.mem_eraseDups]

theorem latest?_concat_of_view? (registers : call.view? = some view) :
    latest? (calls ++ [call]) key = if view.key = key then some view else latest? calls key := by
  simp only [latest?, registered_concat, registers, Option.toList_some, List.findRev?_eq_find?_reverse,
    List.reverse_append, List.reverse_singleton, List.singleton_append, List.find?_cons]
  by_cases own : view.key = key
  · simp [own]
  · rw [beq_eq_false_iff_ne.mpr own, if_neg own]

/-- Choosing a default registers nothing. -/
theorem registered_setDefault (calls : List Call) (name : String) :
    registered (calls ++ [.setDefault name]) = registered calls := by
  rw [registered_concat]
  exact List.append_nil _

theorem keys_setDefault (calls : List Call) (name : String) : keys (calls ++ [.setDefault name]) = keys calls := by
  rw [keys, registered_setDefault, keys]

theorem latest?_setDefault (calls : List Call) (name key : String) :
    latest? (calls ++ [.setDefault name]) key = latest? calls key := by
  rw [latest?, registered_setDefault, latest?]

/-- The views of a registry have the folded names that were registered, in the order of their first
registration. -/
theorem map_key_run (calls : List Call) : (run calls).views.map View.key = keys calls := by
  induction calls using List.reverseRecOn with
  | nil => rfl
  | append_singleton calls call ih =>
    rw [run_concat]
    cases registers : call.view? with
    | some view =>
      rw [call_of_view? registers, keys_concat_of_view? registers, ← ih]
      exact map_key_put view _
    | none =>
      obtain ⟨name, rfl⟩ := exists_setDefault registers
      rw [views_setDefault, ih, keys_setDefault]

/-- A folded name has the view that was registered last under it. -/
theorem withKey?_run (calls : List Call) (key : String) : (run calls).withKey? key = latest? calls key := by
  induction calls using List.reverseRecOn with
  | nil => rfl
  | append_singleton calls call ih =>
    rw [run_concat]
    cases registers : call.view? with
    | some view =>
      rw [call_of_view? registers, latest?_concat_of_view? registers, ← ih]
      exact find?_put view _ key
    | none =>
      obtain ⟨name, rfl⟩ := exists_setDefault registers
      rw [latest?_setDefault, ← ih, withKey?, views_setDefault, withKey?]

theorem nodup_keys (calls : List Call) : (keys calls).Nodup := by
  have distinct : ((firsts id ((registered calls).map View.key)).map id).Nodup := nodup_map_firsts _
  rwa [List.map_id] at distinct

theorem find?_key_of_nodup (distinct : (views.map View.key).Nodup) (member : view ∈ views) :
    views.find? (fun other => other.key == view.key) = some view := by
  induction views with
  | nil => cases member
  | cons first rest ih =>
    rw [List.map_cons, List.nodup_cons] at distinct
    rcases List.mem_cons.mp member with rfl | later
    · simp
    · have passed : first.key ≠ view.key := fun same => distinct.1 (List.mem_map.mpr ⟨view, later, same.symm⟩)
      rw [List.find?_cons, beq_eq_false_iff_ne.mpr passed]
      exact ih distinct.2 later

/-- The views of a registry are the last ones of their folded names. -/
theorem map_some_run (calls : List Call) : (run calls).views.map some = (keys calls).map (latest? calls) := by
  have distinct : ((run calls).views.map View.key).Nodup := by
    rw [map_key_run]
    exact nodup_keys calls
  rw [← map_key_run, List.map_map]
  refine List.map_congr_left fun view member => ?_
  rw [Function.comp_apply, ← withKey?_run, withKey?_eq, find?_key_of_nodup distinct member]

theorem latest?_isSome_iff : (latest? calls key).isSome = true ↔ ∃ view ∈ registered calls, view.key = key := by
  rw [latest?, List.findRev?_eq_find?_reverse, List.find?_isSome]
  simp only [List.mem_reverse, beq_iff_eq]

/-- A registered name is found, in any spelling, as the view that was registered last under it. -/
theorem find_run (calls : List Call) (name : String) :
    (run calls).find name = match latest? calls (Text.fold name) with
      | some view => .ok view
      | none => .error (.unknownView name (run calls).names) := by
  cases last : latest? calls (Text.fold name) <;> simp only [find, find?, withKey?_run, last]

theorem contains_run_iff : (run calls).contains name = true ↔ ∃ view ∈ registered calls, view.key = Text.fold name := by
  rw [contains, find?, withKey?_run, latest?_isSome_iff]

/-! ## The default -/

/-- A name is accepted as the default if it is registered. -/
theorem chooses_iff : Chooses calls name ↔ ((run calls).find? name).isSome = true := by
  rw [Chooses, setDefault, find]
  cases (run calls).find? name <;> simp [Except.map]

theorem call_setDefault_of_chooses (chooses : Chooses calls name) :
    (run calls).call (.setDefault name) = { run calls with default? := some (Text.fold name) } := by
  rw [call_setDefault, if_pos (chooses_iff.mp chooses)]

/-- A default that is refused changes nothing. -/
theorem call_setDefault_of_not_chooses (refused : ¬ Chooses calls name) :
    (run calls).call (.setDefault name) = run calls := by
  rw [call_setDefault, if_neg (mt chooses_iff.mpr refused)]

/-- The last accepted name is that of the last call, if this is accepted, and otherwise that of the calls in
front of it. -/
theorem lastChosen_concat_iff : LastChosen (calls ++ [call]) name ↔
    call = .setDefault name ∧ Chooses calls name ∨
      LastChosen calls name ∧ ∀ other, call = .setDefault other → ¬ Chooses calls other := by
  constructor
  · rintro ⟨before, after, split, chooses, last⟩
    rcases List.eq_nil_or_concat after with rfl | ⟨between, final, rfl⟩
    · obtain ⟨rfl, same⟩ := List.append_inj' split rfl
      exact .inl ⟨List.singleton_inj.mp same, chooses⟩
    · rw [List.concat_eq_append, ← List.cons_append, ← List.append_assoc] at split
      obtain ⟨rfl, same⟩ := List.append_inj' split rfl
      obtain rfl := List.singleton_inj.mp same
      rw [List.concat_eq_append] at last
      refine .inr ⟨⟨before, between, rfl, chooses, ?_⟩, ?_⟩
      · rintro front other back rfl
        exact last front other (back ++ [call]) (by simp)
      · rintro other rfl
        exact last between other [] rfl
  · rintro (⟨rfl, chooses⟩ | ⟨⟨before, after, rfl, chooses, last⟩, quiet⟩)
    · exact ⟨calls, [], rfl, chooses, by simp⟩
    · refine ⟨before, after ++ [call], by simp, chooses, ?_⟩
      intro front other back split
      rcases List.eq_nil_or_concat back with rfl | ⟨between, final, rfl⟩
      · obtain ⟨rfl, same⟩ := List.append_inj' split rfl
        exact quiet other (List.singleton_inj.mp same)
      · rw [List.concat_eq_append, ← List.cons_append, ← List.append_assoc] at split
        obtain ⟨rfl, -⟩ := List.append_inj' split rfl
        exact last front other between rfl

/-- The default of a registry is the name that was accepted last. -/
theorem default?_run_eq_some_iff :
    (run calls).default? = some key ↔ ∃ name, LastChosen calls name ∧ Text.fold name = key := by
  induction calls using List.reverseRecOn generalizing key with
  | nil => simp [run, empty, LastChosen]
  | append_singleton calls call ih =>
    rw [run_concat]
    simp only [lastChosen_concat_iff]
    cases registers : call.view? with
    | some view =>
      have other (name : String) : call ≠ .setDefault name := by
        rintro rfl
        cases registers
      rw [call_of_view? registers, register]
      simpa [other] using ih
    | none =>
      obtain ⟨name, rfl⟩ := exists_setDefault registers
      by_cases chooses : Chooses calls name
      · rw [call_setDefault_of_chooses chooses]
        simp [chooses]
      · have other (same : String) : ¬ (name = same ∧ Chooses calls same) := fun ⟨own, accepted⟩ =>
          chooses (own ▸ accepted)
        rw [call_setDefault_of_not_chooses chooses]
        simpa [chooses, other] using ih

/-- Some name was accepted last exactly if one was accepted at all. -/
theorem exists_lastChosen_iff : (∃ name, LastChosen calls name) ↔
    ∃ before name after, calls = before ++ .setDefault name :: after ∧ Chooses before name := by
  constructor
  · rintro ⟨name, before, after, split, chooses, -⟩
    exact ⟨before, name, after, split, chooses⟩
  · rintro ⟨before, name, after, rfl, chooses⟩
    induction after using List.reverseRecOn with
    | nil => exact ⟨name, lastChosen_concat_iff.mpr (.inl ⟨rfl, chooses⟩)⟩
    | append_singleton after call ih =>
      rw [← List.cons_append, ← List.append_assoc]
      by_cases accepted : ∃ other, call = .setDefault other ∧ Chooses (before ++ .setDefault name :: after) other
      · obtain ⟨other, last⟩ := accepted
        exact ⟨other, lastChosen_concat_iff.mpr (.inl last)⟩
      · obtain ⟨earlier, last⟩ := ih
        refine ⟨earlier, lastChosen_concat_iff.mpr (.inr ⟨last, fun other same chooses => ?_⟩)⟩
        exact accepted ⟨other, same, chooses⟩

/-- The default is the name of a view. -/
def HasDefault (registry : ViewRegistry) : Prop :=
  ∀ key, registry.default? = some key → key ∈ registry.views.map View.key

theorem HasDefault.after (chosen : registry.HasDefault) (call : Call) : (registry.call call).HasDefault := by
  intro key same
  cases registers : call.view? with
  | some view =>
    rw [call_of_view? registers] at same ⊢
    change key ∈ (put view registry.views).map View.key
    rw [map_key_put]
    split
    · exact chosen key same
    · exact List.mem_append_left _ (chosen key same)
  | none =>
    obtain ⟨name, rfl⟩ := exists_setDefault registers
    rw [views_setDefault]
    rw [call_setDefault] at same
    split at same
    · rename_i found
      obtain ⟨view, among, own⟩ := List.find?_isSome.mp found
      rw [← Option.some.inj same]
      exact List.mem_map.mpr ⟨view, among, beq_iff_eq.mp own⟩
    · exact chosen key same

theorem hasDefault_run (calls : List Call) : (run calls).HasDefault := by
  induction calls using List.reverseRecOn with
  | nil => exact nofun
  | append_singleton calls call ih =>
    rw [run_concat]
    exact ih.after call

/-- The default view is the one that was registered last under the name that was accepted last, also if it was
registered after that. -/
theorem defaultView_run_eq_ok_iff : (run calls).defaultView = .ok view ↔
    ∃ name, LastChosen calls name ∧ latest? calls (Text.fold name) = some view := by
  have chosen : (run calls).defaultView? = some view ↔
      ∃ name, LastChosen calls name ∧ latest? calls (Text.fold name) = some view := by
    simp only [defaultView?, Option.bind_eq_some_iff, default?_run_eq_some_iff, withKey?_run]
    constructor
    · rintro ⟨key, ⟨name, last, rfl⟩, found⟩
      exact ⟨name, last, found⟩
    · rintro ⟨name, last, found⟩
      exact ⟨_, ⟨name, last, rfl⟩, found⟩
  rw [← chosen, defaultView]
  cases (run calls).defaultView? <;> simp

theorem defaultView_run_eq_error_iff {error : QueryError} : (run calls).defaultView = .error error ↔
    error = .noDefaultView ∧
      ∀ before name after, calls = before ++ .setDefault name :: after → ¬ Chooses before name := by
  have none_iff : (run calls).defaultView? = none ↔ ¬ ∃ name, LastChosen calls name := by
    rw [defaultView?]
    cases default : (run calls).default? with
    | none =>
      refine iff_of_true rfl ?_
      rintro ⟨name, last⟩
      rw [default?_run_eq_some_iff.mpr ⟨name, last, rfl⟩] at default
      cases default
    | some key =>
      obtain ⟨name, last, -⟩ := default?_run_eq_some_iff.mp default
      obtain ⟨view, among, own⟩ := List.mem_map.mp (hasDefault_run calls key default)
      have present : ((run calls).withKey? key).isSome = true :=
        List.find?_isSome.mpr ⟨view, among, beq_iff_eq.mpr own⟩
      rw [Option.bind_some]
      exact iff_of_false (Option.isSome_iff_ne_none.mp present) (not_not_intro ⟨name, last⟩)
  rw [exists_lastChosen_iff] at none_iff
  simp only [not_exists, not_and] at none_iff
  rw [← none_iff, defaultView]
  cases (run calls).defaultView? <;> simp [eq_comm]

/-! ## Answers -/

theorem get_of_named (named : Text.trim name ≠ "") : registry.get (some name) = registry.find (Text.trim name) := by
  rw [get, Option.map_some, Option.filter_some, if_pos (decide_eq_true named)]

theorem get_of_unnamed {name? : Option String} (unnamed : ∀ name ∈ name?, Text.trim name = "") :
    registry.get name? = registry.defaultView := by
  have none : (name?.map Text.trim).filter (· ≠ "") = none := by
    rw [Option.filter_eq_none_iff]
    rintro trimmed found
    obtain ⟨name, given, rfl⟩ := Option.map_eq_some_iff.mp found
    simp [unnamed name given]
  rw [get, none]

/-- What a registry answers after these calls. Its views are the last ones of their folded names, which stand
in the order of their first registration. -/
structure Answers (calls : List Call) (registry : ViewRegistry) : Prop where
  views : registry.views.map some = (keys calls).map (latest? calls)
  names : registry.names.map some = (keys calls).map fun key => (latest? calls key).map View.name
  contains : ∀ name, registry.contains name = true ↔ ∃ view ∈ registered calls, view.key = Text.fold name
  named : ∀ name, Text.trim name ≠ "" → registry.get (some name) =
    match latest? calls (Text.fold name) with
    | some view => .ok view
    | none => .error (.unknownView (Text.trim name) registry.names)
  unnamed : ∀ name?, (∀ name ∈ name?, Text.trim name = "") → ∀ view, registry.get name? = .ok view ↔
    ∃ name, LastChosen calls name ∧ latest? calls (Text.fold name) = some view
  undecided : ∀ name?, (∀ name ∈ name?, Text.trim name = "") → ∀ error, registry.get name? = .error error ↔
    error = .noDefaultView ∧
      ∀ before name after, calls = before ++ .setDefault name :: after → ¬ Chooses before name
  chooses : ∀ name, Chooses calls name ↔ ∃ view ∈ registered calls, view.key = Text.fold name
  refused : ∀ name, ¬ Chooses calls name →
    registry.setDefault name = .error (.unknownView name registry.names) ∧
      ∀ after, run (calls ++ .setDefault name :: after) = run (calls ++ after)

theorem answers_run (calls : List Call) : Answers calls (run calls) where
  views := map_some_run calls
  names := by
    have same := congrArg (List.map (Option.map View.name)) (map_some_run calls)
    rw [List.map_map, List.map_map] at same
    rw [ViewRegistry.names, List.map_map]
    exact same
  contains := fun _ => contains_run_iff
  named := fun name named => by rw [get_of_named named, find_run, Text.fold_trim]
  unnamed := fun name? unnamed view => by rw [get_of_unnamed unnamed, defaultView_run_eq_ok_iff]
  undecided := fun name? unnamed error => by rw [get_of_unnamed unnamed, defaultView_run_eq_error_iff]
  chooses := fun name => chooses_iff.trans contains_run_iff
  refused := fun name refused => by
    constructor
    · rw [chooses_iff, Option.not_isSome_iff_eq_none] at refused
      rw [setDefault, find, refused]
      rfl
    · intro after
      rw [run, run, List.foldl_append, List.foldl_append, List.foldl_cons]
      exact congrArg (after.foldl ViewRegistry.call) (call_setDefault_of_not_chooses refused)

end ViewRegistry

end RecordQuery
