import RecordQuery.Shell.Program

/-! # The command line -/

namespace RecordQuery

/-- What stands under a path. -/
def readSource (path : String) : IO Settings.Source := do
  try
    let bytes ← IO.FS.readBinFile path
    match String.fromUTF8? bytes with
    | some content => return .text content
    | none => return .unreadable
  catch _ => return .missing

/-- Writes lines. -/
def writeLines (stream : IO.FS.Stream) (lines : List String) : IO Unit := do
  for line in lines do
    stream.putStrLn line
  stream.flush

/-- Answers the lines of the input one after the other. -/
partial def converse (input output : IO.FS.Stream) (desk : Shell.Desk Sample.Person)
    (session : Shell.Session) : IO Unit := do
  let line ← input.getLine
  if line.isEmpty then return
  match Shell.Command.ofLine (Shell.typed line) with
  | .quit => return
  | command =>
    let (next, answer) := session.step desk command
    writeLines output answer
    converse input output desk next

end RecordQuery

open RecordQuery in
/-- Runs the program. -/
def main (arguments : List String) : IO UInt32 := do
  let output ← IO.getStdout
  let source ← match Shell.Arguments.read arguments with
    | .run invocation => readSource invocation.configPath
    | _ => pure .missing
  match Shell.plan arguments fun _ => source with
  | .finish outcome =>
    writeLines output outcome.output
    writeLines (← IO.getStderr) outcome.errors
    return outcome.code.toUInt32
  | .converse desk session =>
    writeLines output desk.help
    converse (← IO.getStdin) output desk session
    return 0
