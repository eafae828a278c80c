/-! # Dictionaries

A dictionary holds one value for each of its keys, in ascending order of the keys, so that two
dictionaries with the same contents are equal.
-/

namespace RecordQuery

/-- Values under distinct keys in ascending order. -/
structure Dictionary (α : Type) where
  entries : List (String × α)
deriving DecidableEq, Repr

namespace Dictionary

variable {α : Type}

/-- No entries. -/
def empty : Dictionary α := ⟨[]⟩

/-- Puts a value at the place of its key and in the place of an earlier value of that key. -/
def insertEntry (key : String) (value : α) : List (String × α) → List (String × α)
  | [] => [(key, value)]
  | (other, kept) :: rest =>
    match compare key other with
    | .lt => (key, value) :: (other, kept) :: rest
    | .eq => (key, value) :: rest
    | .gt => (other, kept) :: insertEntry key value rest

/-- The dictionary in which the key has this value. -/
def insert (dictionary : Dictionary α) (key : String) (value : α) : Dictionary α :=
  ⟨insertEntry key value dictionary.entries⟩

/-- The value of a key. -/
def get? (dictionary : Dictionary α) (key : String) : Option α := dictionary.entries.lookup key

/-- All keys in ascending order. -/
def keys (dictionary : Dictionary α) : List String := dictionary.entries.map Prod.fst

/-- The dictionary of a list of entries, in which the last value of a key counts. -/
def ofList (entries : List (String × α)) : Dictionary α :=
  entries.foldl (fun dictionary (key, value) => dictionary.insert key value) empty

private theorem lookup_cons_if (sought key : String) (value : α) (rest : List (String × α)) :
    List.lookup sought ((key, value) :: rest) =
      if sought = key then some value else rest.lookup sought := by
  by_cases same : sought = key
  · simp [same]
  · rw [List.lookup_cons, beq_eq_false_iff_ne.mpr same, if_neg same]

private theorem lookup_insertEntry (key sought : String) (value : α) (entries : List (String × α)) :
    (insertEntry key value entries).lookup sought =
      if sought = key then some value else entries.lookup sought := by
  induction entries with
  | nil => exact lookup_cons_if sought key value []
  | cons entry rest ih =>
    obtain ⟨other, kept⟩ := entry
    unfold insertEntry
    split
    · exact lookup_cons_if sought key value _
    · rename_i equal
      obtain rfl := Std.compare_eq_iff_eq.mp equal
      simp only [lookup_cons_if]
      split <;> rfl
    · rename_i greater
      have different : key ≠ other := fun same => by
        rw [Std.compare_eq_iff_eq.mpr same] at greater
        cases greater
      simp only [lookup_cons_if, ih]
      grind

/-- A key has the value that was put under it last. -/
theorem get?_insert (dictionary : Dictionary α) (key sought : String) (value : α) :
    (dictionary.insert key value).get? sought =
      if sought = key then some value else dictionary.get? sought :=
  lookup_insertEntry key sought value dictionary.entries

end Dictionary

end RecordQuery
