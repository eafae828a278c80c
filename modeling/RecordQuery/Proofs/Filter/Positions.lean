import RecordQuery.Proofs.Filter.Refusal
import RecordQuery.Proofs.Filter.SortLanguage

/-! # Where errors are reported

Errors are reported at bytes of the text: at the start of a token or of characters that are no token, where a
group or a list was opened, at the end of the text, or where an item of a sort list begins to be visible. All of
these stand between characters. The length limit alone is reported as it is, also where it lies inside a
character.
-/

namespace RecordQuery

/-- The byte stands between characters: a character begins there, or the text ends. -/
def Text.IsBoundary (characters : List Char) (position : Nat) : Prop :=
  ∃ before behind, characters = before ++ behind ∧ byteLength before = position

namespace Text

variable {characters : List Char} {position : Nat}

theorem isBoundary_zero (characters : List Char) : IsBoundary characters 0 := ⟨[], characters, rfl, rfl⟩

theorem isBoundary_byteLength (characters : List Char) : IsBoundary characters (byteLength characters) :=
  ⟨characters, [], (List.append_nil _).symm, rfl⟩

theorem IsBoundary.le (boundary : IsBoundary characters position) : position ≤ byteLength characters := by
  obtain ⟨before, behind, rfl, rfl⟩ := boundary
  rw [byteLength_append]
  exact Nat.le_add_right _ _

end Text

namespace Lexer

variable {text : String} {token : Token} {fault : LexicalError}

theorem isBoundary_of_mem (member : token ∈ (tokens text).tokens) : Text.IsBoundary text.toList token.start := by
  obtain ⟨before, first, rest, _, same, start, -⟩ := scanned_of_mem member
  exact ⟨before, first :: rest, same, by rw [start, Nat.zero_add]⟩

theorem exists_before_of_error? {offset : Nat} {characters : List Char}
    (faulty : (tokensFrom offset characters).error? = some fault) :
    ∃ before behind, characters = before ++ behind ∧ fault.position = offset + Text.byteLength before := by
  fun_induction tokensFrom offset characters with
  | case1 => cases faulty
  | case2 offset first rest blank ih =>
    obtain ⟨before, behind, same, position⟩ := ih faulty
    refine ⟨first :: before, behind, by rw [same, List.cons_append], ?_⟩
    rw [position, Text.byteLength, Nat.add_assoc]
  | case3 offset first rest solid problem failed =>
    cases faulty
    exact ⟨[], first :: rest, rfl, rfl⟩
  | case4 offset first rest solid kind count scanned stop ih =>
    obtain ⟨before, behind, same, position⟩ := ih faulty
    refine ⟨first :: rest.take count ++ before, behind, ?_, ?_⟩
    · rw [List.append_assoc, ← same, List.cons_append, List.take_append_drop]
    · rw [position, Text.byteLength_append, Text.byteLength, ← Nat.add_assoc, ← Nat.add_assoc]

theorem isBoundary_of_error? (faulty : (tokens text).error? = some fault) :
    Text.IsBoundary text.toList fault.position := by
  obtain ⟨before, behind, same, position⟩ := exists_before_of_error? faulty
  exact ⟨before, behind, same, by rw [position, Nat.zero_add]⟩

end Lexer

namespace Parser

/-- Where the list began that the parser is in. -/
def Mode.start? : Mode → Option Nat
  | list _ start | item _ start _ | separator _ start _ => some start
  | operand | operator _ | value _ _ | complete _ => none

/-- The bytes that a state can still report: those of the list and of the groups that are open. -/
def State.places (state : State) : List Nat := state.mode.start?.toList ++ state.frames.filterMap Frame.opening?

variable {limits : Limits} {length : Nat} {state next final : State} {token : Token} {tokens : List Token}
  {frames outer : List Frame} {filter joined : Filter}

theorem places_complete (filter : Filter) (frames : List Frame) :
    (complete filter frames).places = frames.filterMap Frame.opening? := by
  induction frames generalizing filter with
  | nil => rfl
  | cons frame outer ih =>
    cases frame with
    | negation => exact ih _
    | conjunction left => exact ih _
    | disjunction | group => rfl

theorem opening?_joinDisjunction (join : joinDisjunction filter frames = (joined, outer)) :
    frames.filterMap Frame.opening? = outer.filterMap Frame.opening? := by
  unfold joinDisjunction at join
  split at join <;> cases join <;> rfl

/-- A token opens at most a list or a group of its own. -/
theorem places_of_step (stepped : state.step limits token = .ok next) :
    ∀ place ∈ next.places, place = token.start ∨ place ∈ state.places := by
  obtain ⟨mode, frames⟩ := state
  intro place member
  cases mode with
  | operand =>
    simp only [State.step] at stepped
    split at stepped
    · obtain ⟨-, rfl⟩ := (nest_eq_ok_iff rfl).mp stepped
      exact .inr member
    · obtain ⟨-, rfl⟩ := (nest_eq_ok_iff rfl).mp stepped
      exact List.mem_cons.mp member
    · cases stepped
      exact .inr member
    · cases stepped
  | operator field =>
    simp only [State.step] at stepped
    split at stepped <;> cases stepped
    · exact .inr member
    · exact .inr member
    · exact List.mem_cons.mp member
  | list field start =>
    simp only [State.step] at stepped
    split at stepped <;> cases stepped
    exact .inr member
  | value field operator =>
    simp only [State.step] at stepped
    split at stepped <;> cases stepped
    rw [completeComparison, places_complete] at member
    exact .inr member
  | item field start items =>
    simp only [State.step] at stepped
    split at stepped <;> cases stepped
    exact .inr member
  | separator field start items =>
    simp only [State.step] at stepped
    split at stepped <;> cases stepped
    · exact .inr member
    · rw [completeComparison, places_complete] at member
      exact .inr (List.mem_cons_of_mem _ member)
  | complete filter =>
    simp only [State.step, stepComplete] at stepped
    split at stepped
    · cases stepped
      exact .inr member
    · cases stepped
      cases join : joinDisjunction filter frames with
      | mk joined outer =>
        rw [join] at member
        change place ∈ outer.filterMap Frame.opening? at member
        rw [← opening?_joinDisjunction join] at member
        exact .inr member
    · split at stepped
      · rename_i joined start outer join
        cases stepped
        rw [places_complete] at member
        have kept : place ∈ frames.filterMap Frame.opening? :=
          opening?_joinDisjunction join ▸ List.mem_cons_of_mem start member
        exact .inr kept
      · cases stepped
    · split at stepped <;> cases stepped

/-- Whatever a run can still report was so from the beginning, or is the start of a token. -/
theorem places_of_foldlM (taken : tokens.foldlM (State.step limits) state = .ok final) :
    ∀ place ∈ final.places, place ∈ state.places ∨ ∃ token ∈ tokens, token.start = place := by
  induction tokens generalizing state with
  | nil =>
    cases taken
    exact fun place => .inl
  | cons token rest ih =>
    rw [List.foldlM_cons] at taken
    obtain ⟨next, stepped, remaining⟩ := Outcome.bind_eq_ok_iff.mp taken
    intro place member
    rcases ih remaining place member with before | ⟨later, among, starts⟩
    · rcases places_of_step stepped place before with own | earlier
      · exact .inr ⟨token, List.mem_cons_self, own.symm⟩
      · exact .inl earlier
    · exact .inr ⟨later, List.mem_cons_of_mem _ among, starts⟩

/-- At the end of a text this end or what is still open is reported. -/
theorem position_of_finish {error : SyntaxError} (unfinished : final.finish length = .error error) :
    error.position = length ∨ error.position ∈ final.places := by
  obtain ⟨mode, frames⟩ := final
  cases mode with
  | complete filter =>
    simp only [State.finish] at unfinished
    split at unfinished <;> cases unfinished
    rename_i opening found
    obtain ⟨frame, among, opens⟩ := List.exists_of_findSome?_eq_some found
    exact .inr (List.mem_filterMap.mpr ⟨frame, among, opens⟩)
  | separator field start items =>
    cases unfinished
    exact .inr List.mem_cons_self
  | operand | operator | list | value | item =>
    cases unfinished
    exact .inl rfl

/-- A run over the tokens of a text fails at the end of the text, at the start of a token or at the first
characters that are no token. -/
theorem position_of_fails {text : String} {error : ReadingError}
    (fails : Fails limits length .initial (Lexer.tokens text) error) :
    error.position = length ∨ Text.IsBoundary text.toList error.position := by
  cases fails with
  | @atEnd final error clean taken unfinished =>
    rcases position_of_finish unfinished with ended | opened
    · exact .inl ended
    · rcases places_of_foldlM taken _ opened with before | ⟨token, among, starts⟩
      · cases before
      · have boundary := Lexer.isBoundary_of_mem among
        rw [starts] at boundary
        exact .inr boundary
  | atFault faulty taken | hidden _ faulty => exact .inr (Lexer.isBoundary_of_error? faulty)
  | @atToken before after token middle error split taken refused judged =>
    have among : token ∈ (Lexer.tokens text).tokens := by simp [split]
    have position : error.position = token.start := by
      rcases refuses_of_step (reads_foldlM (.operand .nil) taken) refused with ⟨-, rfl, -⟩ | refuses
      · rfl
      · exact refuses.position
    have boundary := Lexer.isBoundary_of_mem among
    rw [← position] at boundary
    exact .inr boundary

end Parser

/-- A text that is too long is refused at the limit. -/
theorem Filter.parse_of_long {limits : Limits} {text : String} (long : limits.maxLength < Text.byteLength text.toList) :
    parse limits text = .error (.grammatical ⟨limits.maxLength, .tooLong limits.maxLength⟩) :=
  if_pos long

/-- An error of a filter is reported between characters, except that the length limit may lie inside one. -/
theorem Filter.isBoundary_of_parse {limits : Limits} {text : String} {error : ReadingError}
    (refused : parse limits text = .error error) :
    Text.IsBoundary text.toList error.position ∨ limits.maxLength < Text.byteLength text.toList ∧
      error = .grammatical ⟨limits.maxLength, .tooLong limits.maxLength⟩ := by
  unfold parse at refused
  dsimp only at refused
  split at refused
  · rename_i long
    exact .inr ⟨long, (Except.error.inj refused).symm⟩
  · left
    split at refused
    · cases refused
      exact Text.isBoundary_zero _
    · rcases Parser.position_of_fails (Parser.fails_of_run refused) with ended | boundary
      · rw [ended]
        exact Text.isBoundary_byteLength _
      · exact boundary

/-- An error of a sort list is reported between characters. -/
theorem SortList.isBoundary_of_parse {text : String} {error : SyntaxError} (refused : parse text = .error error) :
    Text.IsBoundary text.toList error.position := by
  obtain ⟨-, front, item, ⟨back, whole, -⟩, -, -, position⟩ := parse_eq_error_iff.mp refused
  refine ⟨_, item.dropWhile Text.isBlank ++ back, ?_, position.symm⟩
  rw [whole, List.append_assoc, List.append_assoc, ← List.append_assoc (item.takeWhile _),
    List.takeWhile_append_dropWhile]

end RecordQuery
