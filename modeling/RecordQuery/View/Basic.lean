import RecordQuery.Field.Registry

/-! # Views

A view lists the output names that a client may see. An output name shows the registered field of its
alias, or the field of its own name. Names are compared in their folded forms; the first spelling of a
repeated output name stays, and the last alias of a name counts.
-/

namespace RecordQuery

/-- An allow-list of output names; `includes` are paths that the storage should load with the rows. -/
structure View where
  name : String
  fields : List String
  aliases : Dictionary String
  includes : List String
deriving DecidableEq

namespace View

/-- Adds an output name, unless it is there in another spelling. -/
def addField (fields : List String) (field : String) : List String :=
  if fields.any fun other => Text.fold other == Text.fold field then fields else fields ++ [field]

/-- A view of output names without aliases. -/
def ofFields (name : String) (fields : List String) : View :=
  ⟨name, fields.foldl addField [], .empty, []⟩

/-- Binds output names to fields. -/
def withAliases (view : View) (aliases : List (String × String)) : View :=
  let bound := aliases.foldl
    (fun aliases (output, field) => aliases.insert (Text.fold output) field) view.aliases
  { view with aliases := bound }

/-- Adds paths to load. -/
def withIncludes (view : View) (paths : List String) : View :=
  { view with includes := view.includes ++ paths }

/-- The view has this output name. -/
def hasField (view : View) (output : String) : Bool :=
  view.fields.any fun other => Text.fold other == Text.fold output

/-- The name of the field that an output name shows. -/
def fieldName (view : View) (output : String) : String :=
  (view.aliases.get? (Text.fold output)).getD output

end View

/-- An output name and the field that it shows. -/
structure Column (ρ : Type) where
  output : String
  field : Field ρ

/-- A view whose output names have been bound to fields. -/
structure Projection (ρ : Type) where
  view : View
  columns : List (Column ρ)

namespace View

variable {ρ : Type}

/-- Binds every output name to a field that may be shown. -/
def resolve (view : View) (registry : FieldRegistry ρ) : Except QueryError (Projection ρ) := do
  let columns ← view.fields.mapM fun output => do
    let field ← registry.resolve (view.fieldName output) .projectable
    return { output, field : Column ρ }
  return ⟨view, columns⟩

end View

namespace Projection

variable {ρ : Type}

/-- The object that shows a row, with its output names in the order of the view. -/
def shape (projection : Projection ρ) (row : ρ) : Json :=
  .object (projection.columns.map fun column => (column.output, (column.field.read row).toJson))

/-- The projection for display. -/
def display (projection : Projection ρ) : String :=
  Text.quotedMap (projection.columns.map fun column => (column.output, column.field.key))

end Projection

end RecordQuery
