import Mathlib.Data.List.Forall2

/-! # Results that were not refused

A composed computation has a result exactly if its steps have one. Two computations of which each step is
alike are alike: both have results, or both are refused for reasons of the same gist. -/

namespace RecordQuery.Outcome

variable {ε δ α β : Type}

@[simp]
theorem bind_eq_ok_iff {outcome : Except ε α} {next : α → Except ε β} {result : β} :
    (outcome >>= next) = .ok result ↔ ∃ value, outcome = .ok value ∧ next value = .ok result := by
  cases outcome <;> simp [bind, Except.bind]

@[simp]
theorem map_eq_ok_iff {outcome : Except ε α} {change : α → β} {result : β} :
    outcome.map change = .ok result ↔ ∃ value, outcome = .ok value ∧ change value = result := by
  cases outcome <;> simp [Except.map]

@[simp]
theorem mapError_eq_ok_iff {outcome : Except ε α} {change : ε → δ} {result : α} :
    outcome.mapError change = .ok result ↔ outcome = .ok result := by
  cases outcome with
  | error problem => exact ⟨nofun, nofun⟩
  | ok value =>
    change (.ok value : Except δ α) = .ok result ↔ _
    rw [Except.ok.injEq, Except.ok.injEq]

@[simp]
theorem pure_eq_ok_iff {value result : α} : (pure value : Except ε α) = .ok result ↔ value = result :=
  Except.ok.injEq value result ▸ Iff.rfl

@[simp]
theorem bind_eq_error_iff {outcome : Except ε α} {next : α → Except ε β} {problem : ε} :
    (outcome >>= next) = .error problem ↔
      outcome = .error problem ∨ ∃ value, outcome = .ok value ∧ next value = .error problem := by
  cases outcome <;> simp [bind, Except.bind]

@[simp]
theorem map_eq_error_iff {outcome : Except ε α} {change : α → β} {problem : ε} :
    outcome.map change = .error problem ↔ outcome = .error problem := by
  cases outcome <;> simp [Except.map]

@[simp]
theorem pure_ne_error {value : α} {problem : ε} : (pure value : Except ε α) ≠ .error problem := nofun

/-- A list is gone through when every item has a result. -/
theorem mapM_eq_ok_iff {step : α → Except ε β} {items : List α} {results : List β} :
    items.mapM step = .ok results ↔
      List.Forall₂ (fun item result => step item = .ok result) items results := by
  induction items generalizing results with
  | nil => rw [List.mapM_nil, pure_eq_ok_iff, List.forall₂_nil_left_iff, eq_comm]
  | cons item rest ih =>
    rw [List.mapM_cons, bind_eq_ok_iff]
    constructor
    · rintro ⟨first, stepped, remaining⟩
      obtain ⟨others, gone, same⟩ := bind_eq_ok_iff.mp remaining
      rw [← pure_eq_ok_iff.mp same]
      exact .cons stepped (ih.mp gone)
    · rintro ⟨⟩
      rename_i first others stepped gone
      exact ⟨first, stepped, bind_eq_ok_iff.mpr ⟨others, ih.mpr gone, rfl⟩⟩

/-- A list has a result when every item has one. -/
theorem exists_mapM_iff {step : α → Except ε β} {items : List α} :
    (∃ results, items.mapM step = .ok results) ↔ ∀ item ∈ items, ∃ result, step item = .ok result := by
  simp only [mapM_eq_ok_iff]
  induction items with
  | nil => exact iff_of_true ⟨[], .nil⟩ nofun
  | cons item rest ih =>
    simp only [List.forall_mem_cons, ← ih, List.forall₂_cons_left_iff]
    constructor
    · rintro ⟨_, first, others, stepped, gone, -⟩
      exact ⟨⟨first, stepped⟩, others, gone⟩
    · rintro ⟨⟨first, stepped⟩, others, gone⟩
      exact ⟨first :: others, first, others, stepped, gone, rfl⟩

/-- The first item without a result gives the error. -/
def FirstError (step : α → Except ε β) (items : List α) (problem : ε) : Prop :=
  ∃ front item back, items = front ++ item :: back ∧
    (∀ earlier ∈ front, ∃ result, step earlier = .ok result) ∧ step item = .error problem

section FirstError

variable {step : α → Except ε β} {items others : List α} {problem : ε}

theorem not_firstError_nil : ¬ FirstError step [] problem := by
  rintro ⟨front, item, back, split, -⟩
  simp at split

theorem firstError_cons {item : α} : FirstError step (item :: items) problem ↔
    step item = .error problem ∨ (∃ result, step item = .ok result) ∧ FirstError step items problem := by
  constructor
  · rintro ⟨front, culprit, back, split, passed, failed⟩
    cases front with
    | nil =>
      obtain ⟨rfl, -⟩ := List.cons.inj split
      exact .inl failed
    | cons first front =>
      obtain ⟨rfl, same⟩ := List.cons.inj split
      rw [List.forall_mem_cons] at passed
      exact .inr ⟨passed.1, front, culprit, back, same, passed.2, failed⟩
  · rintro (failed | ⟨stepped, front, culprit, back, rfl, passed, failed⟩)
    · exact ⟨[], item, items, rfl, by simp, failed⟩
    · exact ⟨item :: front, culprit, back, rfl, List.forall_mem_cons.mpr ⟨stepped, passed⟩, failed⟩

/-- Of two lists, the second one decides where every item of the first has a result. -/
theorem firstError_append : FirstError step (items ++ others) problem ↔
    FirstError step items problem ∨
      (∀ item ∈ items, ∃ result, step item = .ok result) ∧ FirstError step others problem := by
  induction items with
  | nil => simp [not_firstError_nil]
  | cons item rest ih =>
    rw [List.cons_append, firstError_cons, ih, firstError_cons, List.forall_mem_cons]
    tauto

/-- Steps with the same successes and the same errors have the same first error. -/
theorem firstError_congr {σ : Type} {other : α → Except ε σ}
    (succeeds : ∀ item, (∃ result, step item = .ok result) ↔ ∃ result, other item = .ok result)
    (fails : ∀ item, step item = .error problem ↔ other item = .error problem) :
    FirstError step items problem ↔ FirstError other items problem := by
  simp only [FirstError, succeeds, fails]

/-- The first error stays the first one where every item is done otherwise with the same success. -/
theorem FirstError.map {σ τ : Type} {other : σ → Except δ τ} {change : α → σ} {report : ε → δ}
    (first : FirstError step items problem)
    (succeeds : ∀ item result, step item = .ok result → ∃ reached, other (change item) = .ok reached)
    (fails : ∀ item found, step item = .error found → other (change item) = .error (report found)) :
    FirstError other (items.map change) (report problem) := by
  obtain ⟨front, item, back, rfl, passed, failed⟩ := first
  refine ⟨front.map change, change item, back.map change, by rw [List.map_append, List.map_cons], ?_,
    fails item problem failed⟩
  rintro _ earlier
  obtain ⟨before, among, rfl⟩ := List.mem_map.mp earlier
  obtain ⟨result, stepped⟩ := passed before among
  exact succeeds before result stepped

/-- Going through a list ends at the first item without a result. -/
theorem mapM_eq_error_iff : items.mapM step = .error problem ↔ FirstError step items problem := by
  induction items with
  | nil => simp [not_firstError_nil]
  | cons item rest ih =>
    rw [List.mapM_cons, bind_eq_error_iff, firstError_cons, ← ih]
    simp only [bind_eq_error_iff, pure_ne_error, and_false, exists_false, or_false, exists_and_right]

/-- Steps are all taken when each of them can be. -/
theorem forM_eq_ok_iff {step : α → Except ε Unit} :
    items.forM step = .ok () ↔ ∀ item ∈ items, ∃ result, step item = .ok result := by
  induction items with
  | nil => exact iff_of_true rfl nofun
  | cons item rest ih =>
    change (step item >>= fun _ => rest.forM step) = _ ↔ _
    rw [bind_eq_ok_iff, List.forall_mem_cons, ← ih, exists_and_right]

/-- Steps end at the first one that cannot be taken. -/
theorem forM_eq_error_iff {step : α → Except ε Unit} :
    items.forM step = .error problem ↔ FirstError step items problem := by
  induction items with
  | nil => exact iff_of_false nofun not_firstError_nil
  | cons item rest ih =>
    change (step item >>= fun _ => rest.forM step) = _ ↔ _
    rw [bind_eq_error_iff, firstError_cons, ← ih, exists_and_right]

end FirstError

/-- What stands on one side of related lists is related to something on the other side. -/
theorem exists_left_of_mem {relation : α → β → Prop} {items : List α} {results : List β}
    (related : List.Forall₂ relation items results) {result : β} (member : result ∈ results) :
    ∃ item ∈ items, relation item result := by
  induction related with
  | nil => cases member
  | @cons item _ _ _ pair _ ih =>
    rcases List.mem_cons.mp member with rfl | later
    · exact ⟨item, List.mem_cons_self, pair⟩
    · obtain ⟨other, among, found⟩ := ih later
      exact ⟨other, List.mem_cons_of_mem _ among, found⟩

/-- Related lists agree in what agrees for each two that are related. -/
theorem exists_mem_iff {relation : α → β → Prop} {left : α → Prop} {right : β → Prop} {items : List α}
    {results : List β} (related : List.Forall₂ relation items results)
    (same : ∀ item result, relation item result → (right result ↔ left item)) :
    (∃ result ∈ results, right result) ↔ ∃ item ∈ items, left item := by
  induction related with
  | nil => simp
  | cons pair _ ih => simp only [List.exists_mem_cons_iff, same _ _ pair, ih]

/-- An item that is there has a result. -/
theorem exists_result_of_optionMapM {step : α → Except ε β} {item : α} {result? : Option β}
    (accepted : (some item).mapM step = .ok result?) :
    ∃ result, result? = some result ∧ step item = .ok result := by
  change step item >>= (fun value => pure (some value)) = _ at accepted
  obtain ⟨result, stepped, same⟩ := bind_eq_ok_iff.mp accepted
  exact ⟨result, (pure_eq_ok_iff.mp same).symm, stepped⟩

/-- A result comes from an item that is there. -/
theorem exists_of_optionMapM {step : α → Except ε β} {item? : Option α} {result : β}
    (accepted : item?.mapM step = .ok (some result)) :
    ∃ item, item? = some item ∧ step item = .ok result := by
  cases item? with
  | none => cases accepted
  | some item =>
    obtain ⟨found, same, stepped⟩ := exists_result_of_optionMapM accepted
    obtain rfl := Option.some.inj same
    exact ⟨item, rfl, stepped⟩

section Alike

/-- Two outcomes are related results, or errors of the same gist. -/
inductive Alike {γ : Type} (gist : ε → γ) (related : α → β → Prop) : Except ε α → Except ε β → Prop where
  | ok {value : α} {other : β} (results : related value other) : Alike gist related (.ok value) (.ok other)
  | error {problem other : ε} (same : gist problem = gist other) :
    Alike gist related (.error problem) (.error other)

variable {γ σ τ : Type} {gist : ε → γ} {related : α → β → Prop} {first : Except ε α} {second : Except ε β}

theorem Alike.refl (outcome : Except ε α) : Alike gist Eq outcome outcome := by
  cases outcome with
  | ok value => exact .ok rfl
  | error problem => exact .error rfl

/-- Outcomes that are alike go on alike when their results do. -/
theorem Alike.bind {after : σ → τ → Prop} {next : α → Except ε σ} {otherNext : β → Except ε τ}
    (alike : Alike gist related first second)
    (goesOn : ∀ value other, related value other → Alike gist after (next value) (otherNext other)) :
    Alike gist after (first >>= next) (second >>= otherNext) := by
  cases alike with
  | ok results => exact goesOn _ _ results
  | error same => exact .error same

theorem Alike.mapError {coarse : δ → τ} {change : ε → δ} (alike : Alike gist related first second)
    (kept : ∀ problem other, gist problem = gist other → coarse (change problem) = coarse (change other)) :
    Alike coarse related (first.mapError change) (second.mapError change) := by
  cases alike with
  | ok results => exact .ok results
  | error same => exact .error (kept _ _ same)

theorem Alike.map {change : α → β} {other : Except ε α} (alike : Alike gist Eq first other) :
    Alike gist Eq (first.map change) (other.map change) := by
  cases alike with
  | ok results => exact .ok (congrArg change results)
  | error same => exact .error same

/-- Two lists are gone through alike when each two of their items are. -/
theorem Alike.mapM {step : α → Except ε β} {otherStep : σ → Except ε β} {change : α → σ} (items : List α)
    (alike : ∀ item, Alike gist Eq (step item) (otherStep (change item))) :
    Alike gist Eq (items.mapM step) ((items.map change).mapM otherStep) := by
  induction items with
  | nil => exact .ok rfl
  | cons item rest ih =>
    rw [List.map_cons, List.mapM_cons, List.mapM_cons]
    refine (alike item).bind fun value _ same => ih.bind fun values _ sameValues => ?_
    rw [same, sameValues]
    exact .refl _

/-- Items that may be there are gone through alike when they are related. -/
theorem Alike.optionMapM {step : α → Except ε β} {otherStep : σ → Except ε β} {item? : Option α}
    {other? : Option σ} {items : α → σ → Prop} (same : Option.Rel items item? other?)
    (alike : ∀ item other, items item other → Alike gist Eq (step item) (otherStep other)) :
    Alike gist Eq (item?.mapM step) (other?.mapM otherStep) := by
  cases same with
  | none => exact .ok rfl
  | some same => exact (alike _ _ same).bind fun _ _ results => .ok (congrArg some results)

/-- Two outcomes are alike if both are like a third one. -/
theorem Alike.meet {other : Except ε σ} {otherRelated : σ → β → Prop} {results : α → σ → Prop}
    (left : Alike gist related first second) (right : Alike gist otherRelated other second)
    (joins : ∀ value other reached, related value reached → otherRelated other reached → results value other) :
    Alike gist results first other := by
  cases left with
  | ok reached =>
    cases right with
    | ok otherReached => exact .ok (joins _ _ _ reached otherReached)
  | error same =>
    cases right with
    | error otherSame => exact .error (same.trans otherSame.symm)

/-- What has one form has alike outcomes, if each outcome is like that of the form. -/
theorem Alike.of_same_form {run : α → Except ε β} {form : α → α} {item other : α}
    (alike : ∀ item, Alike gist Eq (run item) (run (form item))) (same : form item = form other) :
    Alike gist Eq (run item) (run other) := by
  have reached := alike item
  rw [same] at reached
  exact reached.meet (alike other) fun _ _ _ first second => first.trans second.symm

end Alike

end RecordQuery.Outcome
