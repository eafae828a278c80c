import RecordQuery.Field.Capability
import RecordQuery.Filter.SyntaxError
import RecordQuery.Value.Kind

/-! # Why a request is refused

Every error describes the request: a text that cannot be read, a field or a view that is not registered, a
use that a field does not allow, or an operand that does not suit its field.
-/

namespace RecordQuery

/-- What a comparison asks for. -/
inductive Demand where
  | valueOf (type : ValueType)
  | textField (textMatch : TextMatch)
  | orderedField (relation : Relation)
  | list
deriving DecidableEq

/-- The demand in words. -/
def Demand.description : Demand → String
  | valueOf type => type.description
  | textField textMatch => s!"string field for '{textMatch.symbol}'"
  | orderedField relation => s!"string, number or date field for '{relation.symbol}'"
  | list => "list"

/-- What a comparison has instead. -/
inductive Finding where
  | literal (literal : Literal)
  | list
  | fieldOf (type : ValueType)
deriving DecidableEq

/-- The finding in words. -/
def Finding.description : Finding → String
  | literal found => found.description
  | list => "list"
  | fieldOf type => s!"{type.name} field"

/-- A demand that is not met. -/
structure Mismatch where
  demand : Demand
  finding : Finding
deriving DecidableEq

/-- The reason for which a request is refused. -/
inductive QueryError where
  | unreadable (error : ReadingError)
  | unknownField (field : String) (available : List String)
  | missingCapability (field : String) (required : Capability)
  | mismatch (field : String) (mismatch : Mismatch)
  | unknownView (name : String) (available : List String)
  | noDefaultView
deriving DecidableEq

/-- The reason in words. -/
def QueryError.message : QueryError → String
  | unreadable error => error.message
  | unknownField field available =>
    s!"unknown field '{field}' (available: " ++ ", ".intercalate available ++ ")"
  | missingCapability field required => s!"field '{field}' is not {required.name}"
  | mismatch field found =>
    s!"type mismatch on field '{field}': expected {found.demand.description}, got " ++
      found.finding.description
  | unknownView name available =>
    s!"view '{name}' not found (available: " ++ ", ".intercalate available ++ ")"
  | noDefaultView => "no default view set"

end RecordQuery
