import RecordQuery.Sample
import RecordQuery.Shell.Arguments
import RecordQuery.Shell.Session
import RecordQuery.Shell.Typing

/-! # The program over sample people

With a part of a query among its arguments the program answers once; otherwise it holds a session over the
lines of its input. Settings that cannot be loaded are replaced by the standard ones.
-/

namespace RecordQuery.Shell

/-- How a run ends: its exit code and its lines for output and errors. -/
structure Outcome where
  code : Nat
  output : List String
  errors : List String
deriving DecidableEq, Repr

/-- What the program does once its arguments have been read. -/
inductive Plan where
  | finish (outcome : Outcome)
  | converse (desk : Desk Sample.Person) (session : Session)

/-- The desk for sample people under settings. -/
def sampleDesk (settings : Settings) : Desk Sample.Person where
  catalog := ⟨Sample.fields, Sample.views, settings.limits⟩
  table := settings.tableName "User"
  rows := Sample.people

/-- The settings of a path, or the standard ones. -/
def loadSettings (path : String) (source : Settings.Source) : Settings :=
  match Settings.load path source with
  | .ok settings => settings
  | .error _ => .standard

/-- Answers a single request. A fault is marked in the filter only if no sort list could be at fault. -/
def answerOnce (desk : Desk Sample.Person) (request : Request) (showsSql : Bool) : Outcome :=
  match desk.answer request showsSql with
  | .ok lines => ⟨0, lines, []⟩
  | .error error =>
    let text? := if request.sort?.isNone then request.filter? else none
    ⟨1, errorReport text? error, [s!"Error: {error.message}"]⟩

/-- What an invocation leads to. -/
def planInvocation (invocation : Invocation) (source : Settings.Source) : Plan :=
  let desk := sampleDesk (loadSettings invocation.configPath source)
  if invocation.asksQuery then .finish (answerOnce desk invocation.request invocation.showsSql)
  else .converse desk ⟨none, none, invocation.showsSql⟩

/-- What arguments lead to, where `source` tells what stands under a path. -/
def plan (arguments : List String) (source : String → Settings.Source) : Plan :=
  match Arguments.read arguments with
  | .invalid => .finish ⟨2, [], []⟩
  | .information => .finish ⟨0, [], []⟩
  | .run invocation => planInvocation invocation (source invocation.configPath)

/-- A whole run over the lines of an input as they are typed. -/
def run (arguments : List String) (source : String → Settings.Source) (input : List String) : Outcome :=
  match plan arguments source with
  | .finish outcome => outcome
  | .converse desk session => ⟨0, desk.help ++ session.transcript desk (input.map typed), []⟩

end RecordQuery.Shell
