import RecordQuery.View.Basic

/-! # The registry of views

Views keep the order in which their names were first registered; a later view of the same folded name
takes the place of the earlier one. One registered name may be the default, and stays it when its view is
replaced.
-/

namespace RecordQuery

/-- Views in the order of their names' first registration, and the folded name of the default. -/
structure ViewRegistry where
  views : List View
  default? : Option String

namespace ViewRegistry

variable {ρ : Type}

/-- A registry without views. -/
def empty : ViewRegistry := ⟨[], none⟩

/-- Puts a view in the place of the one with the same name, or at the end. -/
def put (view : View) : List View → List View
  | [] => [view]
  | other :: rest =>
    if Text.fold other.name = Text.fold view.name then view :: rest else other :: put view rest

/-- Registers a view. -/
def register (registry : ViewRegistry) (view : View) : ViewRegistry :=
  { registry with views := put view registry.views }

/-- The names of the views as they were registered last. -/
def names (registry : ViewRegistry) : List String := registry.views.map View.name

/-- The view with a folded name. -/
def withKey? (registry : ViewRegistry) (key : String) : Option View :=
  registry.views.find? fun view => Text.fold view.name == key

/-- The view of a name. -/
def find? (registry : ViewRegistry) (name : String) : Option View :=
  registry.withKey? (Text.fold name)

/-- The name is registered. -/
def contains (registry : ViewRegistry) (name : String) : Bool := (registry.find? name).isSome

/-- The view of a name, or the names to choose from. -/
def find (registry : ViewRegistry) (name : String) : Except QueryError View :=
  match registry.find? name with
  | some view => .ok view
  | none => .error (.unknownView name registry.names)

/-- Makes a registered name the default. -/
def setDefault (registry : ViewRegistry) (name : String) : Except QueryError ViewRegistry :=
  (registry.find name).map fun _ => { registry with default? := some (Text.fold name) }

/-- The view of the default name. -/
def defaultView? (registry : ViewRegistry) : Option View :=
  registry.default?.bind registry.withKey?

/-- The view of the default name, which has to be chosen first. -/
def defaultView (registry : ViewRegistry) : Except QueryError View :=
  match registry.defaultView? with
  | some view => .ok view
  | none => .error .noDefaultView

/-- The view of a name; without a name, or with a blank one, the default. -/
def get (registry : ViewRegistry) (name? : Option String) : Except QueryError View :=
  match (name?.map Text.trim).filter (· ≠ "") with
  | some name => registry.find name
  | none => registry.defaultView

/-- Selects a view and binds it to fields. -/
def resolve (registry : ViewRegistry) (name? : Option String) (fields : FieldRegistry ρ) :
    Except QueryError (Projection ρ) := do
  (← registry.get name?).resolve fields

/-- Binds every view, so that a view that cannot be bound is found before it is asked for. -/
def validate (registry : ViewRegistry) (fields : FieldRegistry ρ) : Except QueryError Unit :=
  registry.views.forM fun view => do
    let _ ← view.resolve fields

/-- The registry for display. -/
def display (registry : ViewRegistry) : String :=
  let default := match registry.defaultView? with
    | some view => s!"Some({Text.quoted view.name})"
    | none => "None"
  Text.displayedRecord "ViewRegistry"
    [("views", Text.quotedList registry.names), ("default", default)] false

end ViewRegistry

end RecordQuery
