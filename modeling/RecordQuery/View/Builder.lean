import RecordQuery.View.Registry

/-! # Building views

A builder collects output names, aliases and paths from one call after the other. What it has collected is
made a view and registered at the end.
-/

namespace RecordQuery

/-- What was collected for a view, in the order of the calls. -/
structure ViewBuilder where
  name : String
  outputs : List String
  aliases : List (String × String)
  includes : List String

namespace ViewBuilder

/-- A builder before any call. -/
def ofName (name : String) : ViewBuilder := ⟨name, [], [], []⟩

/-- Adds output names that show the fields of their own names. -/
def select (builder : ViewBuilder) (outputs : List String) : ViewBuilder :=
  { builder with outputs := builder.outputs ++ outputs }

/-- Adds an output name that shows the field of another name. -/
def selectAs (builder : ViewBuilder) (output field : String) : ViewBuilder :=
  { builder with outputs := builder.outputs ++ [output], aliases := builder.aliases ++ [(output, field)] }

/-- Adds a path to load. -/
def load (builder : ViewBuilder) (path : String) : ViewBuilder :=
  { builder with includes := builder.includes ++ [path] }

/-- The view of what was collected. -/
def view (builder : ViewBuilder) : View :=
  ((View.ofFields builder.name builder.outputs).withAliases builder.aliases).withIncludes builder.includes

/-- A call to a builder. -/
inductive Call where
  | select (outputs : List String)
  | selectAs (output field : String)
  | load (path : String)

/-- The builder after a call. -/
def call (builder : ViewBuilder) : Call → ViewBuilder
  | .select outputs => builder.select outputs
  | .selectAs output field => builder.selectAs output field
  | .load path => builder.load path

/-- The builder of a name after calls. -/
def run (name : String) (calls : List Call) : ViewBuilder := calls.foldl call (ofName name)

end ViewBuilder

/-- Registers the view of a builder. -/
def ViewRegistry.build (registry : ViewRegistry) (builder : ViewBuilder) : ViewRegistry :=
  registry.register builder.view

end RecordQuery
