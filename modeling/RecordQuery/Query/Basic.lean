import RecordQuery.Filter.Parser
import RecordQuery.Filter.SortList
import RecordQuery.Query.Condition
import RecordQuery.Query.RowOrder
import RecordQuery.View.Registry

/-! # Requests and queries

A request names a filter, a sort list and a view as texts. A catalog of fields and views turns it into a
query, or refuses it for the first reason found in the filter, then in the sort list, then in the view.
The query selects rows, sorts them and shapes them through its view.
-/

namespace RecordQuery

/-- What a client asks for; an absent filter selects every row, but a blank one is refused. -/
structure Request where
  filter? : Option String
  sort? : Option String
  view? : Option String
deriving DecidableEq, Repr

/-- The request that asks for nothing in particular. -/
def Request.empty : Request := ⟨none, none, none⟩

/-- A condition, an order and a projection for rows. -/
structure Query (ρ : Type) where
  condition? : Option (Condition ρ)
  order : RowOrder ρ
  projection : Projection ρ

namespace Query

variable {ρ : Type}

/-- The row is selected. -/
def selects (query : Query ρ) (row : ρ) : Bool := query.condition?.all (·.holds row)

/-- The selected rows in order. -/
def apply (query : Query ρ) (rows : List ρ) : List ρ := query.order.sort (rows.filter query.selects)

/-- The objects that show the selected rows in order. -/
def shapeAll (query : Query ρ) (rows : List ρ) : List Json :=
  (query.apply rows).map query.projection.shape

/-- The query for display. -/
def display (query : Query ρ) : String :=
  let condition := Text.displayedRecord "CompiledPredicate"
    [("match_all", toString query.condition?.isNone)] true
  Text.displayedRecord "QueryIntent"
    [("predicate", condition), ("comparator", query.order.display),
      ("view", Text.quoted query.projection.view.name), ("projection", query.projection.display)] false

end Query

/-- The fields and views of one kind of rows, and the limits of their filters. -/
structure Catalog (ρ : Type) where
  fields : FieldRegistry ρ
  views : ViewRegistry
  limits : Limits

namespace Catalog

variable {ρ : Type}

/-- The condition of a filter text. -/
def readCondition (catalog : Catalog ρ) (text : String) : Except QueryError (Condition ρ) := do
  let filter ← (Filter.parse catalog.limits text).mapError .unreadable
  filter.condition catalog.fields

/-- The order of a sort text. -/
def readOrder (catalog : Catalog ρ) (text : String) : Except QueryError (RowOrder ρ) := do
  let keys ← (SortList.parse text).mapError fun error => .unreadable (.grammatical error)
  RowOrder.ofSortKeys catalog.fields keys

/-- The query of a request. -/
def query (catalog : Catalog ρ) (request : Request) : Except QueryError (Query ρ) := do
  let condition? ← request.filter?.mapM catalog.readCondition
  let order? ← request.sort?.mapM catalog.readOrder
  let projection ← catalog.views.resolve request.view? catalog.fields
  return ⟨condition?, order?.getD .unordered, projection⟩

end Catalog

end RecordQuery
