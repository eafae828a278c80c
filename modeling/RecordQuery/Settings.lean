import RecordQuery.Json.Reader
import RecordQuery.Query.Basic

/-! # Settings and requests from JSON

Settings name the tables of entities and limit the filters. They and requests are read from an object, in
which absent members keep their standard values, unknown ones are left out and known ones may stand once;
or from an array of the members' values in their order, of which the last ones may be absent.
-/

namespace RecordQuery

/-- Tables of entities, and limits of filters. -/
structure Settings where
  tables : Dictionary String
  limits : Limits
deriving DecidableEq

namespace Settings

/-- The settings that hold when none are given. -/
def standard : Settings := ⟨.empty, .standard⟩

/-- The table of an entity, which is its name in lower case unless another one is set. -/
def tableName (settings : Settings) (entity : String) : String :=
  (settings.tables.get? entity).getD (Text.lowercase entity)

/-- What has been read of settings. -/
structure Draft where
  tables? : Option (Dictionary String)
  maxLength? : Option Nat
  maxDepth? : Option Nat

/-- Nothing has been read. -/
def Draft.empty : Draft := ⟨none, none, none⟩

/-- The settings of what has been read. -/
def Draft.settings (draft : Draft) : Settings where
  tables := draft.tables?.getD standard.tables
  limits.maxLength := draft.maxLength?.getD standard.limits.maxLength
  limits.maxDepth := draft.maxDepth?.getD standard.limits.maxDepth

/-- Reads one entry of the tables; the last table of an entity counts. -/
def readTable (tables : Dictionary String) (entity : String) (characters : List Char) :
    Except Json.Problem (Dictionary String × List Char) := do
  let (table, rest) ← Json.readMember Json.readTextValue characters
  return (tables.insert entity table, rest)

/-- Reads an object of tables. -/
def readTables (characters : List Char) : Except Json.Problem (Dictionary String × List Char) :=
  match Json.skipBlanks characters with
  | '\x7b' :: rest => Json.readObject readTable .empty rest
  | other => Json.refuse other

/-- Reads a member of the settings. -/
def readMember (draft : Draft) (key : String) (characters : List Char) :
    Except Json.Problem (Draft × List Char) :=
  match key with
  | "tables" =>
    if draft.tables?.isSome then .error .unsuitable
    else (Json.readMember readTables characters).map fun (tables, rest) =>
      ({ draft with tables? := some tables }, rest)
  | "max_filter_length" =>
    if draft.maxLength?.isSome then .error .unsuitable
    else (Json.readMember Json.readNatural characters).map fun (length, rest) =>
      ({ draft with maxLength? := some length }, rest)
  | "max_depth" =>
    if draft.maxDepth?.isSome then .error .unsuitable
    else (Json.readMember Json.readNatural characters).map fun (depth, rest) =>
      ({ draft with maxDepth? := some depth }, rest)
  | _ => do
    let rest ← Json.expectColon characters >>= Json.skipValue
    return (draft, rest)

/-- Reads settings from the values of an array behind its bracket. -/
def readElements (characters : List Char) : Except Json.Problem (Draft × List Char) := do
  let (tables?, rest) ← Json.readElement? true readTables characters
  let (maxLength?, rest) ← Json.readElement? false Json.readNatural rest
  let (maxDepth?, rest) ← Json.readElement? false Json.readNatural rest
  return (⟨tables?, maxLength?, maxDepth?⟩, ← Json.endArray rest)

/-- Reads settings from a JSON text. -/
def ofText (text : String) : Except Json.Problem Settings :=
  let draft := match Json.skipBlanks text.toList with
    | '\x7b' :: rest => Json.readObject readMember .empty rest
    | '[' :: rest => readElements rest
    | other => Json.refuse other
  (Json.complete draft).map Draft.settings

/-- What a path leads to. -/
inductive Source where
  | missing
  | unreadable
  | text (content : String)
deriving DecidableEq, Repr

/-- Why settings cannot be loaded from a path. -/
inductive LoadError where
  | missing (path : String)
  | unreadable (path : String)
  | invalid (path : String) (problem : Json.Problem)
deriving DecidableEq, Repr

/-- The error in words. -/
def LoadError.message : LoadError → String
  | missing path => s!"配置文件不存在: {path}"
  | unreadable path => s!"无法读取配置文件 {path}"
  | invalid path _ => s!"无法解析JSON配置文件 {path}"

/-- Loads settings from a path. -/
def load (path : String) : Source → Except LoadError Settings
  | .missing => .error (.missing path)
  | .unreadable => .error (.unreadable path)
  | .text content => (ofText content).mapError (.invalid path)

end Settings

namespace Request

/-- What has been read of a request; an outer `none` means that a member has not been met. -/
structure Draft where
  filter? : Option (Option String)
  sort? : Option (Option String)
  view? : Option (Option String)

/-- Nothing has been read. -/
def Draft.empty : Draft := ⟨none, none, none⟩

/-- The request of what has been read. -/
def Draft.request (draft : Draft) : Request := ⟨draft.filter?.join, draft.sort?.join, draft.view?.join⟩

/-- Reads a member of a request. -/
def readMember (draft : Draft) (key : String) (characters : List Char) :
    Except Json.Problem (Draft × List Char) :=
  match key with
  | "filter" =>
    if draft.filter?.isSome then .error .unsuitable
    else (Json.readMember Json.readOptionalText characters).map fun (filter?, rest) =>
      ({ draft with filter? := some filter? }, rest)
  | "sort" =>
    if draft.sort?.isSome then .error .unsuitable
    else (Json.readMember Json.readOptionalText characters).map fun (sort?, rest) =>
      ({ draft with sort? := some sort? }, rest)
  | "view" =>
    if draft.view?.isSome then .error .unsuitable
    else (Json.readMember Json.readOptionalText characters).map fun (view?, rest) =>
      ({ draft with view? := some view? }, rest)
  | _ => do
    let rest ← Json.expectColon characters >>= Json.skipValue
    return (draft, rest)

/-- Reads a request from the values of an array behind its bracket. -/
def readElements (characters : List Char) : Except Json.Problem (Draft × List Char) := do
  let (filter?, rest) ← Json.readElement? true Json.readOptionalText characters
  let (sort?, rest) ← Json.readElement? false Json.readOptionalText rest
  let (view?, rest) ← Json.readElement? false Json.readOptionalText rest
  return (⟨filter?, sort?, view?⟩, ← Json.endArray rest)

/-- Reads a request from a JSON text. -/
def ofText (text : String) : Except Json.Problem Request :=
  let draft := match Json.skipBlanks text.toList with
    | '\x7b' :: rest => Json.readObject readMember .empty rest
    | '[' :: rest => readElements rest
    | other => Json.refuse other
  (Json.complete draft).map Draft.request

end Request

end RecordQuery
