import RecordQuery.Text.Quoted

/-! # Capabilities of fields -/

namespace RecordQuery

/-- What a client may do with a field. -/
inductive Capability where
  | filterable
  | sortable
  | projectable
deriving DecidableEq, Repr

namespace Capability

/-- The capability in words. -/
def name : Capability → String
  | filterable => "filterable"
  | sortable => "sortable"
  | projectable => "projectable"

/-- Every capability. -/
def all : List Capability := [filterable, sortable, projectable]

end Capability

/-- A set of capabilities. -/
structure Capabilities where
  filterable : Bool
  sortable : Bool
  projectable : Bool
deriving DecidableEq, Repr

namespace Capabilities

/-- The set without members. -/
def none : Capabilities := ⟨false, false, false⟩

/-- The set of every capability. -/
def all : Capabilities := ⟨true, true, true⟩

/-- The capability is a member. -/
def contains (capabilities : Capabilities) : Capability → Bool
  | .filterable => capabilities.filterable
  | .sortable => capabilities.sortable
  | .projectable => capabilities.projectable

/-- The set in which the membership of one capability is decided. -/
def set (capabilities : Capabilities) (member : Bool) : Capability → Capabilities
  | .filterable => { capabilities with filterable := member }
  | .sortable => { capabilities with sortable := member }
  | .projectable => { capabilities with projectable := member }

/-- The set with one capability more. -/
def insert (capabilities : Capabilities) (capability : Capability) : Capabilities :=
  capabilities.set true capability

/-- The set without a capability. -/
def erase (capabilities : Capabilities) (capability : Capability) : Capabilities :=
  capabilities.set false capability

/-- The set of the listed capabilities. -/
def ofList (members : List Capability) : Capabilities := members.foldl insert none

/-- The members for display. -/
def display (capabilities : Capabilities) : String :=
  Text.quotedSet ((Capability.all.filter capabilities.contains).map Capability.name)

/-- Deciding the membership of one capability leaves the others as they are. -/
theorem contains_set (capabilities : Capabilities) (member : Bool) (changed asked : Capability) :
    (capabilities.set member changed).contains asked =
      if asked = changed then member else capabilities.contains asked := by
  cases changed <;> cases asked <;> rfl

end Capabilities

end RecordQuery
