import RecordQuery.Settings
import RecordQuery.Sql.Text

/-! # Answering queries line by line

A desk answers requests about its rows with lines of text. A session remembers a sort list and a view for
the filters that follow, and whether statements are shown; each line is a command or a filter, and its
answer depends on the session and on the line alone.
-/

namespace RecordQuery

/-- The short name of the kind of an error. -/
def QueryError.kind : QueryError → String
  | unreadable (.lexical _) => "lex_error"
  | unreadable (.grammatical _) => "parse_error"
  | unknownField _ _ => "unknown_field"
  | missingCapability _ _ => "capability"
  | mismatch _ _ => "type_mismatch"
  | unknownView _ _ => "unknown_view"
  | noDefaultView => "no_default_view"

/-- The byte of its text at which an error stands. -/
def QueryError.position? : QueryError → Option Nat
  | unreadable error => some error.position
  | _ => none

namespace Shell

variable {ρ : Type}

/-- Rows that can be asked for, and the table that stores them. -/
structure Desk (ρ : Type) where
  catalog : Catalog ρ
  table : String
  rows : List ρ

/-- The number of characters in front of a byte, if a character starts or the text ends there. -/
def column? (position : Nat) : List Char → Option Nat
  | [] => if position = 0 then some 0 else none
  | character :: rest =>
    if position = 0 then some 0
    else if character.utf8Size ≤ position then
      (column? (position - character.utf8Size) rest).map (· + 1)
    else none

/-- The text with a mark below the place of an error. -/
def markedText (text : String) (position : Nat) : List String :=
  let column := (column? position text.toList).getD position
  ["  " ++ text, "  " ++ String.ofList (List.replicate column ' ') ++ "^"]

/-- The lines that report an error, with the text that was at fault if it is known. -/
def errorReport (text? : Option String) (error : QueryError) : List String :=
  let mark := match text?, error.position? with
    | some text, some position => markedText text position
    | _, _ => []
  s!"✗ {error.message} ({error.kind})" :: mark

namespace Desk

/-- The lines that show what a query selects. -/
def resultLines (desk : Desk ρ) (query : Query ρ) (showsSql : Bool) : List String :=
  let view := query.projection.view
  let shown := query.shapeAll desk.rows
  let heading := s!"[视图 {view.name}] 匹配 {shown.length} / {desk.rows.length} 条记录"
  let includes :=
    if view.includes = [] then [] else ["  预加载: " ++ ", ".intercalate view.includes]
  let statement :=
    if showsSql then ["[SQL]: " ++ (Sql.Statement.ofQuery desk.table query).text] else []
  heading :: shown.map ("  " ++ ·.render) ++ includes ++ statement

/-- The lines that answer a request. -/
def answer (desk : Desk ρ) (request : Request) (showsSql : Bool) : Except QueryError (List String) :=
  (desk.catalog.query request).map (desk.resultLines · showsSql)

/-- The lines that explain a session. -/
def help (desk : Desk ρ) : List String :=
  ["输入过滤表达式执行查询，或使用以下命令:",
   "  :all             不带过滤条件查询",
   "  :sort <排序>     设置排序，留空清除",
   "  :view <视图>     设置视图，留空使用默认视图",
   "  :sql             切换 SQL 输出",
   "  :reset           清除排序和视图",
   "  :help            显示帮助",
   "  :quit            退出",
   "可用字段: " ++ ", ".intercalate desk.catalog.fields.keys,
   "可用视图: " ++ ", ".intercalate desk.catalog.views.names]

end Desk

/-- What a session remembers. -/
structure Session where
  sort? : Option String
  view? : Option String
  showsSql : Bool
deriving DecidableEq, Repr

/-- What a line asks for. -/
inductive Command where
  | nothing
  | quit
  | help
  | all
  | sort (argument? : Option String)
  | view (argument? : Option String)
  | toggleSql
  | reset
  | unknown (name : String)
  | filter (text : String)
deriving DecidableEq, Repr

namespace Command

/-- The command of a name with its argument, of which a blank one counts as none. -/
def ofName (name argument : String) : Command :=
  let argument? := if argument = "" then none else some argument
  match name with
  | "q" | "quit" | "exit" => quit
  | "help" => help
  | "all" => all
  | "sort" => sort argument?
  | "view" => view argument?
  | "sql" => toggleSql
  | "reset" => reset
  | other => unknown other

/-- The command of a line; names of commands follow a colon and end at the first space. -/
def ofLine (line : String) : Command :=
  match Text.trimBoth line.toList with
  | [] => nothing
  | ':' :: rest =>
    ofName (String.ofList (rest.takeWhile (· != ' ')))
      (String.ofList (Text.trimBoth ((rest.dropWhile (· != ' ')).drop 1)))
  | trimmed => filter (String.ofList trimmed)

end Command

namespace Session

/-- The request for a filter under what the session remembers. -/
def request (session : Session) (filter? : Option String) : Request :=
  ⟨filter?, session.sort?, session.view?⟩

/-- The lines that answer a filter. A fault is marked in it only if no sort list could be at fault. -/
def answer (session : Session) (desk : Desk ρ) (filter? : Option String) : List String :=
  match desk.answer (session.request filter?) session.showsSql with
  | .ok lines => lines
  | .error error => errorReport (if session.sort?.isNone then filter? else none) error

/-- The session after a command, and the lines that answer it. -/
def step (session : Session) (desk : Desk ρ) : Command → Session × List String
  | .nothing | .quit => (session, [])
  | .help => (session, desk.help)
  | .all => (session, session.answer desk none)
  | .sort argument? => ({ session with sort? := argument? }, ["排序: " ++ argument?.getD "(无)"])
  | .view argument? => ({ session with view? := argument? }, ["视图: " ++ argument?.getD "(默认)"])
  | .toggleSql =>
    ({ session with showsSql := !session.showsSql },
      ["SQL 输出: " ++ if session.showsSql then "关" else "开"])
  | .reset => ({ session with sort? := none, view? := none }, ["已清除排序和视图"])
  | .unknown name => (session, [s!"未知命令 :{name}，输入 :help 查看帮助"])
  | .filter text => (session, session.answer desk (some text))

/-- The lines that answer a whole input, of which nothing counts behind the command to quit. -/
def transcript (session : Session) (desk : Desk ρ) : List String → List String
  | [] => []
  | line :: rest =>
    match Command.ofLine line with
    | .quit => []
    | command =>
      let (next, answer) := session.step desk command
      answer ++ next.transcript desk rest

end Session

end Shell

end RecordQuery
