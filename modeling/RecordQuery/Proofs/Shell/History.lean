import Mathlib.Logic.Function.Iterate
import RecordQuery.Proofs.Text.Digits
import RecordQuery.Shell.Session

/-! # What a session keeps of its lines

What a line is answered with depends on the lines in front of it only by the last sort list and the last view that
they set and by how often they turned statements on or off. A session that takes its lines one after the other
therefore answers like one that reads the lines in front of each line anew. Queries, whether they are answered or
refused, and lines that ask for nothing leave no trace.
-/

namespace RecordQuery.Shell

variable {ρ : Type}

/-- The argument in a line of the command of a name: nothing, or what a space separates from the name. -/
def argument? (name line : String) : Option String :=
  let trimmed := Text.trimBoth line.toList
  let call := ':' :: name.toList
  if trimmed = call then some ""
  else if call ++ [' '] <+: trimmed then
    some (String.ofList (Text.trimBoth (trimmed.drop (call.length + 1))))
  else none

/-- The line is one of the command of a name. -/
def Calls (name line : String) : Prop := (argument? name line).isSome

instance (name line : String) : Decidable (Calls name line) := inferInstanceAs (Decidable (_ = true))

/-- The line asks to quit. -/
def Quits (line : String) : Prop := Calls "q" line ∨ Calls "quit" line ∨ Calls "exit" line

instance (line : String) : Decidable (Quits line) := inferInstanceAs (Decidable (_ ∨ _))

/-- The lines in front of the first that asks to quit. -/
def heard (lines : List String) : List String := lines.takeWhile fun line => !decide (Quits line)

/-- What an argument sets; a blank one sets nothing. -/
def setting (argument : String) : Option String := if argument = "" then none else some argument

/-- What the last line of a command set, if there is such a line and no reset came later. -/
def latest? (name : String) (before : List String) : Option String :=
  let unreset := before.reverse.takeWhile fun line => !decide (Calls "reset" line)
  (unreset.findSome? (argument? name)).bind setting

/-- Statements are shown if they were at first, turned as often as the lines ask for it. -/
def statementsShown (showsSql : Bool) (before : List String) : Bool :=
  Bool.not^[before.countP fun line => decide (Calls "sql" line)] showsSql

/-- The filter that a line asks for, if it asks for one. -/
def filter? (line : String) : Option String :=
  let trimmed := Text.trimBoth line.toList
  if trimmed = [] ∨ trimmed.head? = some ':' then none else some (String.ofList trimmed)

/-- The names of the commands that set, turn or reset something, or that quit. -/
def effectiveNames : List String := ["sort", "view", "sql", "reset", "q", "quit", "exit"]

/-- The line is blank or a filter, or it calls a command without an effect, which may be an unknown one. -/
def Idle (line : String) : Prop :=
  (Text.trimBoth line.toList).head? ≠ some ':' ∨
    ∃ name, ' ' ∉ name.toList ∧ Calls name line ∧ name ∉ effectiveNames

/-- The lines that answer a request, or report why it is refused. -/
def Desk.reply (desk : Desk ρ) (request : Request) (showsSql : Bool) : List String :=
  match desk.answer request showsSql with
  | .ok lines => lines
  | .error error => errorReport (if request.sort?.isNone then request.filter? else none) error

/-- The lines that answer a line behind others. One that asks for no query is answered as by a session that
remembers nothing. -/
def Desk.replyTo (desk : Desk ρ) (showsSql : Bool) (before : List String) (line : String) : List String :=
  let request filter? : Request := ⟨filter?, latest? "sort" before, latest? "view" before⟩
  let shown := statementsShown showsSql before
  if Calls "all" line then desk.reply (request none) shown
  else match filter? line with
    | some text => desk.reply (request (some text)) shown
    | none => (Session.step ⟨none, none, shown⟩ desk (.ofLine line)).2

variable {name line : String} {rest : List Char}

/-! ## Lines -/

/-- A line without a colon is one of no command. -/
theorem argument?_of_head? (plain : (Text.trimBoth line.toList).head? ≠ some ':') (name : String) :
    argument? name line = none := by
  unfold argument?
  generalize Text.trimBoth line.toList = trimmed at plain
  cases trimmed with
  | nil => rfl
  | cons first rest =>
    have other : first ≠ ':' := fun same => plain (congrArg some same)
    simp [other, Ne.symm other]

/-- What stands in front of the first space is the name of the command, and what stands behind it the argument. -/
theorem argument?_of_colon (trimmed : Text.trimBoth line.toList = ':' :: rest) (noSpace : ' ' ∉ name.toList) :
    argument? name line = if String.ofList (rest.takeWhile (· != ' ')) = name then
      some (String.ofList (Text.trimBoth ((rest.dropWhile (· != ' ')).drop 1))) else none := by
  have solid : ∀ character ∈ name.toList, (character != ' ') = true := by
    intro character member
    exact bne_iff_ne.mpr fun same => noSpace (same ▸ member)
  obtain ⟨front, back, rfl, inside, outside⟩ := Text.exists_run (· != ' ') rest
  rw [argument?, trimmed, Text.takeWhile_run inside outside, Text.dropWhile_run inside outside]
  by_cases same : front = name.toList
  · subst same
    rw [if_pos String.ofList_toList]
    cases back with
    | nil =>
      rw [List.append_nil, if_pos rfl]
      rfl
    | cons space behind =>
      obtain rfl : space = ' ' := by simpa using outside
      simp
  · -- two texts that are the same have the same run in front
    have other (behind : List Char) (ends : behind.head?.any (· != ' ') = false) :
        front ++ back ≠ name.toList ++ behind := by
      intro whole
      have runs := congrArg (List.takeWhile (· != ' ')) whole
      rw [Text.takeWhile_run inside outside, Text.takeWhile_run solid ends] at runs
      exact same runs
    have longer : ':' :: (front ++ back) ≠ ':' :: name.toList := by
      simpa using other [] rfl
    have unbegun : ¬ ':' :: name.toList ++ [' '] <+: ':' :: (front ++ back) := by
      rintro ⟨behind, whole⟩
      exact other (' ' :: behind) rfl (by simpa using whole.symm)
    have unnamed : String.ofList front ≠ name := by
      rintro rfl
      exact same String.toList_ofList.symm
    rw [if_neg longer, if_neg unbegun, if_neg unnamed]

/-- A line with a colon calls one command, with one argument. -/
theorem exists_called (colon : (Text.trimBoth line.toList).head? = some ':') :
    ∃ called argument, Command.ofLine line = .ofName called argument ∧
      ∀ name, ' ' ∉ name.toList → argument? name line = if called = name then some argument else none := by
  obtain ⟨rest, trimmed⟩ := List.head?_eq_some_iff.mp colon
  refine ⟨_, _, ?_, fun name noSpace => argument?_of_colon trimmed noSpace⟩
  simp only [Command.ofLine, trimmed]

theorem ofLine_of_head? (plain : (Text.trimBoth line.toList).head? ≠ some ':') :
    Command.ofLine line = (filter? line).elim .nothing .filter := by
  unfold Command.ofLine filter?
  generalize Text.trimBoth line.toList = trimmed at plain
  split
  · rfl
  · exact absurd rfl plain
  · rename_i nonempty _
    rw [if_neg (not_or.mpr ⟨nonempty, plain⟩), Option.elim_some]

/-- A session ends at a line that asks to quit. -/
theorem ofLine_eq_quit_iff : Command.ofLine line = .quit ↔ Quits line := by
  by_cases colon : (Text.trimBoth line.toList).head? = some ':'
  · obtain ⟨called, argument, read, given⟩ := exists_called colon
    simp only [Quits, Calls, given "q" (by decide), given "quit" (by decide), given "exit" (by decide), read,
      Command.ofName, ← setting.eq_def]
    split <;> simp_all
  · rw [ofLine_of_head? colon]
    simp only [Quits, Calls, argument?_of_head? colon]
    cases filter? line <;> simp

/-! ## What is remembered -/

/-- The session behind lines. -/
def remembered (showsSql : Bool) (before : List String) : Session :=
  ⟨latest? "sort" before, latest? "view" before, statementsShown showsSql before⟩

theorem latest?_concat (name : String) (before : List String) (line : String) :
    latest? name (before ++ [line]) = if Calls "reset" line then none else
      (argument? name line).elim (latest? name before) setting := by
  simp only [latest?, List.reverse_append, List.reverse_singleton, List.singleton_append]
  by_cases resets : Calls "reset" line
  · simp [resets]
  · rw [List.takeWhile_cons_of_pos (by simpa using resets), List.findSome?_cons, if_neg resets]
    cases argument? name line <;> rfl

example : latest? "sort" [":sort id", " :sort  age:desc ", ":view full", ":other"] = some "age:desc" := by
  decide +kernel

theorem statementsShown_concat (showsSql : Bool) (before : List String) (line : String) :
    statementsShown showsSql (before ++ [line]) =
      if Calls "sql" line then !statementsShown showsSql before else statementsShown showsSql before := by
  simp only [statementsShown, List.countP_append, List.countP_singleton]
  by_cases turns : Calls "sql" line
  · simp [turns, Function.iterate_succ_apply']
  · simp [turns]

theorem not_calls_of_idle (idle : Idle line) (effective : name ∈ effectiveNames) : ¬ Calls name line := by
  by_cases colon : (Text.trimBoth line.toList).head? = some ':'
  · obtain ⟨called, argument, -, given⟩ := exists_called colon
    obtain ⟨other, noSpace, calls, ineffective⟩ := idle.resolve_left (not_not.mpr colon)
    have solid : ∀ known ∈ effectiveNames, ' ' ∉ known.toList := by decide
    have same : called = other := by simpa [Calls, given other noSpace] using calls
    have distinct : called ≠ name := fun equal => ineffective (same ▸ equal ▸ effective)
    simp [Calls, given name (solid name effective), distinct]
  · simp [Calls, argument?_of_head? colon]

theorem not_quits_of_idle (idle : Idle line) : ¬ Quits line := by
  rintro (calls | calls | calls) <;> exact not_calls_of_idle idle (by decide) calls

/-- An idle line is not remembered. -/
theorem remembered_concat_of_idle (idle : Idle line) (showsSql : Bool) (before : List String) :
    remembered showsSql (before ++ [line]) = remembered showsSql before := by
  have silent : ∀ name ∈ effectiveNames, argument? name line = none := fun name effective => by
    simpa [Calls] using not_calls_of_idle idle effective
  simp [remembered, latest?_concat, statementsShown_concat, Calls, silent "sort" (by decide),
    silent "view" (by decide), silent "sql" (by decide), silent "reset" (by decide)]

/-- One line takes a session that remembers the lines in front of it to one that remembers this line too. -/
theorem step_remembered (desk : Desk ρ) (showsSql : Bool) (before : List String) (line : String) :
    ((remembered showsSql before).step desk (.ofLine line)).1 = remembered showsSql (before ++ [line]) := by
  simp only [remembered, latest?_concat, statementsShown_concat]
  by_cases colon : (Text.trimBoth line.toList).head? = some ':'
  · obtain ⟨called, argument, read, given⟩ := exists_called colon
    simp only [Calls, given "sort" (by decide), given "view" (by decide), given "sql" (by decide),
      given "reset" (by decide), read, Command.ofName, ← setting.eq_def]
    -- one case for each name of a command, and one for all others
    split <;> simp_all [Session.step]
  · rw [ofLine_of_head? colon]
    simp only [Calls, argument?_of_head? colon]
    cases filter? line <;> rfl

/-- One line is answered from the lines in front of it. -/
theorem step_replyTo (desk : Desk ρ) (showsSql : Bool) (before : List String) (line : String) :
    ((remembered showsSql before).step desk (.ofLine line)).2 = desk.replyTo showsSql before line := by
  by_cases colon : (Text.trimBoth line.toList).head? = some ':'
  · obtain ⟨called, argument, read, given⟩ := exists_called colon
    have unfiltered : filter? line = none := if_pos (.inr colon)
    simp only [Desk.replyTo, unfiltered, Calls, given "all" (by decide), read, Command.ofName, ← setting.eq_def]
    split <;> simp_all [Session.step] <;> rfl
  · simp only [Desk.replyTo, ofLine_of_head? colon, Calls, argument?_of_head? colon]
    cases filter? line <;> rfl

/-! ## Runs -/

theorem transcript_cons (desk : Desk ρ) (showsSql : Bool) (before : List String) (line : String)
    (rest : List String) : (remembered showsSql before).transcript desk (line :: rest) =
      if Quits line then [] else
        desk.replyTo showsSql before line ++ (remembered showsSql (before ++ [line])).transcript desk rest := by
  rw [Session.transcript]
  split
  · rename_i quits
    rw [if_pos (ofLine_eq_quit_iff.mp quits)]
  · rename_i goesOn
    rw [if_neg fun quits => goesOn (ofLine_eq_quit_iff.mpr quits), ← step_remembered desk, ← step_replyTo]

/-- Behind lines, every line that is heard is answered from all those in front of it. -/
theorem transcript_remembered (desk : Desk ρ) (showsSql : Bool) (before lines : List String) :
    (remembered showsSql before).transcript desk lines = ((heard lines).mapIdx fun index line =>
      desk.replyTo showsSql (before ++ (heard lines).take index) line).flatten := by
  induction lines generalizing before with
  | nil => rfl
  | cons line rest ih =>
    rw [transcript_cons]
    by_cases quits : Quits line
    · simp [heard, quits]
    · have goesOn : heard (line :: rest) = line :: heard rest := List.takeWhile_cons_of_pos (by simpa using quits)
      simp [goesOn, quits, ih]

theorem transcript_append (desk : Desk ρ) (showsSql : Bool) (front before after : List String)
    (goesOn : ∀ line ∈ before, ¬ Quits line) :
    (remembered showsSql front).transcript desk (before ++ after) =
      (remembered showsSql front).transcript desk before ++
        (remembered showsSql (front ++ before)).transcript desk after := by
  induction before generalizing front with
  | nil => simp [Session.transcript]
  | cons line rest ih =>
    have more := ih (front ++ [line]) fun later member => goesOn later (List.mem_cons_of_mem _ member)
    have stays : ¬ Quits line := goesOn line List.mem_cons_self
    rw [List.cons_append, transcript_cons, transcript_cons, if_neg stays, if_neg stays, more]
    simp

theorem heard_of_quits (quits : Quits line) (before after : List String) :
    heard (before ++ line :: after) = heard before := by
  induction before with
  | nil => exact List.takeWhile_cons_of_neg (by simpa using quits)
  | cons first rest ih =>
    by_cases early : Quits first
    · simp [heard, early]
    · simpa [heard, early] using ih

/-- A session answers each line until one asks to quit, and answers it from the lines in front of it. An idle line
only adds its own answer, and what stands behind a line that asks to quit adds nothing. -/
theorem transcript_eq_replies (desk : Desk ρ) (showsSql : Bool) :
    let answers := Session.transcript ⟨none, none, showsSql⟩ desk
    (∀ lines, answers lines = ((heard lines).mapIdx fun index line =>
      desk.replyTo showsSql ((heard lines).take index) line).flatten) ∧
    (∀ before line after, (∀ earlier ∈ before, ¬ Quits earlier) → Idle line →
      ∃ later, answers (before ++ after) = answers before ++ later ∧
        answers (before ++ line :: after) = answers before ++ desk.replyTo showsSql before line ++ later) ∧
    ∀ before line after, Quits line → answers (before ++ line :: after) = answers before := by
  have start : (⟨none, none, showsSql⟩ : Session) = remembered showsSql [] := rfl
  intro answers
  simp only [answers, start]
  refine ⟨fun lines => ?_, fun before line after goesOn idle => ?_, fun before line after quits => ?_⟩
  · exact transcript_remembered desk showsSql [] lines
  · refine ⟨(remembered showsSql before).transcript desk after, ?_, ?_⟩
    · exact transcript_append desk showsSql [] before after goesOn
    · rw [transcript_append desk showsSql [] before _ goesOn, List.nil_append, transcript_cons,
        if_neg (not_quits_of_idle idle), remembered_concat_of_idle idle, List.append_assoc]
  · rw [transcript_remembered, transcript_remembered, heard_of_quits quits]

end RecordQuery.Shell
