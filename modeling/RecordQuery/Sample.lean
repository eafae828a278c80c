import RecordQuery.Query.Basic

/-! # Sample people

A small set of people with their fields and views, on which queries can be tried.
-/

namespace RecordQuery.Sample

/-- A person who may use some service. -/
structure Person where
  id : Nat
  name : String
  email? : Option String
  age : Nat
  status : String
  createdAt? : Option Instant
  permissions : List String

/-- Nine o'clock on a day, if there is that day. -/
def morning? (year : Int) (month day : Nat) : Option Instant := do
  let date ← Instant.dateOf? year month day
  Instant.timeOf? date 9 0 0 0

/-- The people. -/
def people : List Person :=
  [{ id := 1, name := "Alice Martin", email? := some "alice@example.com", age := 34, status := "active",
     createdAt? := morning? 2023 2 14, permissions := ["users.read", "users.write"] },
   { id := 2, name := "Bob Stone", email? := some "bob@example.org", age := 17, status := "pending",
     createdAt? := morning? 2024 6 1, permissions := [] },
   { id := 3, name := "Carol Diaz", email? := none, age := 45, status := "suspended",
     createdAt? := morning? 2022 11 30, permissions := ["users.read"] },
   { id := 4, name := "Dan O'Neil", email? := some "dan@example.com", age := 29, status := "active",
     createdAt? := morning? 2024 1 9, permissions := ["reports.read"] },
   { id := 5, name := "Erin_Wu", email? := some "erin@example.net", age := 52, status := "active",
     createdAt? := morning? 2021 7 22, permissions := ["users.read", "users.write", "admin"] }]

/-- A natural number as the value of a field. -/
def natural (value : Nat) : Value := .number (.ofInt value)

/-- The fields of a person. -/
def fields : FieldRegistry Person := .ofList
  [.ofName "id" .number fun person => natural person.id,
   .ofName "name" .text fun person => .text person.name,
   { Field.ofName "email" .text fun person => (person.email?.map .text).getD .null with
     capabilities := Capabilities.all.erase .sortable },
   .ofName "age" .number fun person => natural person.age,
   .ofName "status" (.variants ["active", "pending", "suspended"]) fun person => .variant person.status,
   { Field.ofName "createdAt" .instant fun person => (person.createdAt?.map .instant).getD .null with
     column := "created_at" },
   { Field.ofName "permissionCount" .number fun person => natural person.permissions.length with
     column := "permission_count" },
   { Field.ofName "permissions" .text fun person => .text (", ".intercalate person.permissions) with
     capabilities := Capabilities.none.insert .projectable }]

/-- The view of a list of people, which is the default. -/
def listView : View := .ofFields "list" ["id", "name", "status"]

/-- The view of one person. -/
def detailView : View := .ofFields "detail" ["id", "name", "email", "age", "status", "createdAt"]

/-- The view of a person's permissions. -/
def adminView : View :=
  ((View.ofFields "admin" ["id", "name", "permissionCount", "permissionsSummary"]).withAliases
    [("permissionsSummary", "permissions")]).withIncludes ["roles.permissions"]

/-- The views of people. -/
def views : ViewRegistry := ⟨[listView, detailView, adminView], some (Text.fold listView.name)⟩

end RecordQuery.Sample
