import RecordQuery.Query.Basic

/-! # Arguments of the command line

Options with a value are `--config`, `--filter`, `--sort` and `--view`, or their first letters behind one
dash; the value follows as the next argument or is attached. The flag `--sql` has none. Nothing may be
given twice, and an argument with a dash is never taken for a value.
-/

namespace RecordQuery.Shell

/-- Options that have a value. -/
inductive ValueOption where
  | config
  | filter
  | sort
  | view
deriving DecidableEq, Repr

namespace ValueOption

/-- The option of a long name. -/
def ofName? : String → Option ValueOption
  | "config" => some config
  | "filter" => some filter
  | "sort" => some sort
  | "view" => some view
  | _ => none

/-- The option of a letter. -/
def ofLetter? : Char → Option ValueOption
  | 'c' => some config
  | 'f' => some filter
  | 's' => some sort
  | 'v' => some view
  | _ => none

end ValueOption

/-- What the arguments ask for. -/
structure Invocation where
  config? : Option String
  request : Request
  showsSql : Bool
deriving DecidableEq, Repr

namespace Invocation

/-- Nothing has been asked for. -/
def empty : Invocation := ⟨none, .empty, false⟩

/-- The path of the settings. -/
def configPath (invocation : Invocation) : String := invocation.config?.getD "query_config.json"

/-- A part of a query has been asked for. -/
def asksQuery (invocation : Invocation) : Bool :=
  invocation.request.filter?.isSome || invocation.request.sort?.isSome ||
    invocation.request.view?.isSome

/-- Gives an option its value, unless it has one. A path needs a character. -/
def set? (invocation : Invocation) (option : ValueOption) (value : String) : Option Invocation :=
  let request := invocation.request
  match option with
  | .config =>
    if invocation.config?.isSome ∨ value = "" then none
    else some { invocation with config? := some value }
  | .filter =>
    if request.filter?.isSome then none
    else some { invocation with request := { request with filter? := some value } }
  | .sort =>
    if request.sort?.isSome then none
    else some { invocation with request := { request with sort? := some value } }
  | .view =>
    if request.view?.isSome then none
    else some { invocation with request := { request with view? := some value } }

/-- Sets the flag, unless it is set. -/
def setSql? (invocation : Invocation) : Option Invocation :=
  if invocation.showsSql then none else some { invocation with showsSql := true }

end Invocation

/-- What an argument is by its form. -/
inductive Argument where
  | long (name : String) (attached? : Option String)
  | short (letter : Char) (attached? : Option String)
  | separator
  | plain (text : String)
deriving DecidableEq, Repr

/-- Cuts characters at the first equals sign. -/
def cutAtEquals (characters : List Char) : String × Option String :=
  let name := String.ofList (characters.takeWhile (· != '='))
  match characters.dropWhile (· != '=') with
  | [] => (name, none)
  | _ :: value => (name, some (String.ofList value))

/-- The value that is attached to a letter, with or without an equals sign. -/
def attachedValue? : List Char → Option String
  | [] => none
  | '=' :: value => some (String.ofList value)
  | value => some (String.ofList value)

/-- The form of an argument. -/
def Argument.ofText (text : String) : Argument :=
  match text.toList with
  | ['-', '-'] => .separator
  | '-' :: '-' :: rest =>
    let (name, attached?) := cutAtEquals rest
    .long name attached?
  | '-' :: letter :: rest => .short letter (attachedValue? rest)
  | _ => .plain text

/-- What the arguments come to. -/
inductive Arguments where
  | run (invocation : Invocation)
  | information
  | invalid
deriving DecidableEq, Repr

namespace Arguments

/-- Reads arguments behind those that have been read. `pending?` is an option that waits for its value. -/
def readFrom (invocation : Invocation) (pending? : Option ValueOption) : List String → Arguments
  | [] => if pending?.isSome then invalid else run invocation
  | argument :: rest =>
    match pending?, Argument.ofText argument with
    | some option, .plain value => continueWith (invocation.set? option value) rest
    | some _, _ => invalid
    | none, .separator => if rest = [] then run invocation else invalid
    | none, .long "sql" none => continueWith invocation.setSql? rest
    | none, .long "help" none => information
    | none, .long "version" none => information
    | none, .long name attached? => value (ValueOption.ofName? name) attached? rest
    | none, .short 'h' _ => information
    | none, .short 'V' _ => information
    | none, .short letter attached? => value (ValueOption.ofLetter? letter) attached? rest
    | none, .plain _ => invalid
where
  /-- Goes on with the rest, unless the last argument was refused. -/
  continueWith (next? : Option Invocation) (rest : List String) : Arguments :=
    match next? with
    | some next => readFrom next none rest
    | none => invalid
  /-- Gives an option its attached value, or waits for the next argument. -/
  value (option? : Option ValueOption) (attached? : Option String) (rest : List String) : Arguments :=
    match option?, attached? with
    | some option, some attached => continueWith (invocation.set? option attached) rest
    | some option, none => readFrom invocation (some option) rest
    | none, _ => invalid

/-- Reads all arguments. -/
def read (arguments : List String) : Arguments := readFrom .empty none arguments

end Arguments

end RecordQuery.Shell
