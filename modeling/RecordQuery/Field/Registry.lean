import RecordQuery.Dictionary
import RecordQuery.QueryError
import RecordQuery.Text.Folding

/-! # Fields and their registry

A field has a declared type, capabilities, a storage column and a way to read it from a row. The registry
finds fields by their names without regard to case; a later field under the same folded name replaces an
earlier one, and nothing else of the order of registration can be seen.
-/

namespace RecordQuery

/-- A field of rows of type `ρ`. -/
structure Field (ρ : Type) where
  name : String
  type : ValueType
  capabilities : Capabilities
  column : String
  read : ρ → Value

namespace Field

variable {ρ σ : Type}

/-- A field with every capability, stored in a column of its own name. -/
def ofName (name : String) (type : ValueType) (read : ρ → Value) : Field ρ :=
  ⟨name, type, .all, name, read⟩

/-- The name under which the field is found. -/
def key (field : Field ρ) : String := Text.fold field.name

/-- The field of rows that hold rows. -/
def comap (inner : σ → ρ) (field : Field ρ) : Field σ := { field with read := field.read ∘ inner }

/-- The type for display. -/
def displayType : ValueType → String
  | .text => "String"
  | .number => "Number"
  | .boolean => "Bool"
  | .instant => "Date"
  | .variants names => s!"Enum({Text.quotedList names})"

/-- The field for display. -/
def display (field : Field ρ) : String :=
  Text.displayedRecord "FieldDescriptor"
    [("key", Text.quoted field.key), ("value_type", displayType field.type),
      ("capabilities", field.capabilities.display), ("column", Text.quoted field.column)] true

end Field

/-- The fields of rows of type `ρ` under their folded names. -/
structure FieldRegistry (ρ : Type) where
  fields : Dictionary (Field ρ)

namespace FieldRegistry

variable {ρ σ : Type}

/-- A registry without fields. -/
def empty : FieldRegistry ρ := ⟨.empty⟩

/-- Registers a field in the place of an earlier one of the same name. -/
def add (registry : FieldRegistry ρ) (field : Field ρ) : FieldRegistry ρ :=
  ⟨registry.fields.insert field.key field⟩

/-- Registers fields one after the other. -/
def ofList (fields : List (Field ρ)) : FieldRegistry ρ := fields.foldl add empty

/-- The field of a name. -/
def get? (registry : FieldRegistry ρ) (name : String) : Option (Field ρ) :=
  registry.fields.get? (Text.fold name)

/-- The name is registered. -/
def contains (registry : FieldRegistry ρ) (name : String) : Bool := (registry.get? name).isSome

/-- The folded names in ascending order. -/
def keys (registry : FieldRegistry ρ) : List String := registry.fields.keys

/-- The number of fields. -/
def size (registry : FieldRegistry ρ) : Nat := registry.fields.entries.length

/-- The field of a name, provided that it has a capability. -/
def resolve (registry : FieldRegistry ρ) (name : String) (required : Capability) :
    Except QueryError (Field ρ) :=
  match registry.get? name with
  | none => .error (.unknownField name registry.keys)
  | some field =>
    if field.capabilities.contains required then .ok field
    else .error (.missingCapability name required)

/-- The registry for rows that hold rows. -/
def comap (inner : σ → ρ) (registry : FieldRegistry ρ) : FieldRegistry σ :=
  ⟨⟨registry.fields.entries.map fun (key, field) => (key, field.comap inner)⟩⟩

/-- The registry for display. -/
def display (registry : FieldRegistry ρ) : String :=
  Text.displayedRecord "FieldRegistry" [("keys", Text.quotedList registry.keys)] false

/-- A name finds the field that was registered last under its folded form. -/
theorem get?_add (registry : FieldRegistry ρ) (field : Field ρ) (name : String) :
    (registry.add field).get? name =
      if Text.fold name = field.key then some field else registry.get? name :=
  registry.fields.get?_insert field.key (Text.fold name) field

end FieldRegistry

end RecordQuery
