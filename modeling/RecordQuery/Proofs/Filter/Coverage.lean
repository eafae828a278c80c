import RecordQuery.Proofs.Filter.Partition
import RecordQuery.Proofs.Filter.Positions
import RecordQuery.Proofs.Filter.Stepping

/-! # What tokens cover

Tokens stand one behind the other between characters of their text, and nothing but blanks stands between them.
Behind the last one the text ends, or an error stands at the first character that is no blank: a quoted text that is
not closed, a bang without its equals sign, or a character that begins no token. A number is never the error, since
its characters are always a numeral.
-/

namespace RecordQuery

/-- The byte up to which the stream of so many bytes was read: that of its error, or the end. -/
def TokenStream.reach (stream : TokenStream) (length : Nat) : Nat :=
  (stream.error?.map LexicalError.position).getD length

namespace Lexer

variable {first quote character : Char} {rest characters before : List Char} {problem : LexicalProblem}
  {fault : LexicalError} {stream : TokenStream} {token : Token} {text : String} {offset : Nat}

/-! ## Errors -/

/-- Characters that do not close a quoted text: a quote stands among them only behind a backslash. -/
inductive Open (quote : Char) : List Char → Prop where
  | nil : Open quote []
  | plain {character : Char} {rest : List Char} (noQuote : character ≠ quote) (noBackslash : character ≠ '\\')
      (more : Open quote rest) : Open quote (character :: rest)
  | guarded (character : Char) {rest : List Char} (more : Open quote rest) :
      Open quote ('\\' :: character :: rest)

/-- A quoted text is closed by its first quote without a backslash. -/
def Closes (quote : Char) (rest : List Char) : Prop :=
  ∃ content behind, rest = content ++ quote :: behind ∧ Open quote content

/-- Why no token begins with a character. -/
inductive Stuck (first : Char) (rest : List Char) : LexicalProblem → Prop where
  | unterminated (quoted : first = '\x22' ∨ first = '\x27') (unclosed : ¬ Closes first rest) :
      Stuck first rest .unterminatedText
  | loneBang (bang : first = '!') (alone : rest.head? ≠ some '=') : Stuck first rest .loneBang
  | unrecognized (noSign : first ∉ ['=', '(', ')', ',', '<', '>', '!', '\x22', '\x27'])
      (noDigit : first.isDigit = false) (noNumber : first = '-' → startsWithDigit rest = false)
      (noWord : Name.isStart first = false) : Stuck first rest (.unrecognized first)

/-- A text that has a closing quote is read. -/
theorem closes_of_textContent? (unread : textContent? quote rest = none) (noBackslash : quote ≠ '\\') :
    ¬ Closes quote rest := by
  rintro ⟨content, behind, rfl, opened⟩
  induction opened with
  | nil =>
    rw [List.nil_append, textContent?.eq_def] at unread
    dsimp only at unread
    rw [if_pos rfl] at unread
    cases unread
  | plain noQuote plain more ih =>
    rw [List.cons_append, textContent?.eq_def] at unread
    dsimp only at unread
    rw [if_neg noQuote, if_neg plain, Option.map_eq_none_iff] at unread
    exact ih unread
  | guarded character more ih =>
    rw [List.cons_append, List.cons_append, textContent?.eq_def] at unread
    dsimp only at unread
    rw [if_neg (Ne.symm noBackslash), if_pos rfl, Option.map_eq_none_iff] at unread
    exact ih unread

theorem stuck_text (quoted : quote = '\x22' ∨ quote = '\x27') (failed : scanText quote rest = .error problem) :
    Stuck quote rest problem := by
  have noBackslash : quote ≠ '\\' := by
    rcases quoted with rfl | rfl <;> decide
  unfold scanText at failed
  split at failed <;> cases failed
  rename_i unread
  exact .unterminated quoted (closes_of_textContent? unread noBackslash)

/-- Where no token begins, one of three things is wrong. -/
theorem stuck_of_scan (failed : scan first rest = .error problem) : Stuck first rest problem := by
  unfold scan at failed
  split at failed
  case h_7 =>
    split at failed <;> cases failed
    rename_i alone
    exact .loneBang rfl alone
  case h_8 => exact stuck_text (.inl rfl) failed
  case h_9 => exact stuck_text (.inr rfl) failed
  case h_10 =>
    split at failed
    · cases failed
    · rename_i noNumber
      split at failed <;> cases failed
      rename_i noWord
      have noSign : first ∉ ['=', '(', ')', ',', '<', '>', '!', '\x22', '\x27'] := by
        simp only [List.mem_cons, List.not_mem_nil, or_false, not_or]
        refine ⟨?_, ?_, ?_, ?_, ?_, ?_, ?_, ?_, ?_⟩ <;> assumption
      obtain ⟨noDigit, noMinus⟩ := Bool.or_eq_false_iff.mp (Bool.eq_false_iff.mpr noNumber)
      refine .unrecognized noSign noDigit (fun minus => ?_) (Bool.eq_false_iff.mpr noWord)
      rwa [beq_iff_eq.mpr minus, Bool.true_and] at noMinus
  all_goals cases failed

/-- An error stands at a character that is no blank and begins no token. -/
theorem Divides.exists_stuck (divides : Divides offset characters stream) (faulty : stream.error? = some fault) :
    ∃ before first behind, characters = before ++ first :: behind ∧
      offset + Text.byteLength before = fault.position ∧ Text.isBlank first = false ∧
      Stuck first behind fault.problem := by
  induction divides with
  | done => cases faulty
  | @failed offset blanks rest first problem blank solid failed =>
    cases faulty
    exact ⟨blanks, first, rest, rfl, rfl, solid, stuck_of_scan failed⟩
  | @token offset start stop blanks others rest first kind stream blank solid scanned starts stops remaining ih =>
    obtain ⟨before, next, behind, rfl, position, visible, stuck⟩ := ih faulty
    refine ⟨blanks ++ first :: others ++ before, next, behind, ?_, ?_, visible, stuck⟩
    · simp only [List.append_assoc]
    · rw [← position, stops, starts, Text.byteLength_append, Text.byteLength_append]
      omega

/-! ## Spans -/

/-- Tokens do not overlap. -/
theorem pairwise_stop (offset : Nat) (characters : List Char) :
    (tokensFrom offset characters).tokens.Pairwise fun earlier later => earlier.stop ≤ later.start := by
  fun_induction tokensFrom offset characters with
  | case1 | case3 => exact .nil
  | case2 offset first rest blank ih => exact ih
  | case4 offset first rest solid kind count scanned stop ih =>
    refine List.pairwise_cons.mpr ⟨fun later member => ?_, ih⟩
    obtain ⟨before, _, _, _, _, start, -⟩ := scanned_of_mem member
    exact start ▸ Nat.le_add_right _ _

/-- Every item takes a byte at least. -/
theorem Divides.length_items_le (divides : Divides offset characters stream) :
    stream.items.length ≤ Text.byteLength characters := by
  induction divides with
  | done => exact Nat.zero_le _
  | @failed offset blanks rest first problem blank solid failed =>
    have wide := Char.utf8Size_pos first
    change 1 ≤ _
    rw [Text.byteLength_append, Text.byteLength]
    omega
  | @token offset start stop blanks others rest first kind stream blank solid scanned starts stops remaining ih =>
    have wide := Char.utf8Size_pos first
    change stream.items.length + 1 ≤ _
    rw [Text.byteLength_append, Text.byteLength_append, Text.byteLength]
    omega

/-- Nothing stands behind the end of a stream, nor behind its error. -/
theorem getElem?_items_eq_none {count later : Nat} (behind : count < later)
    (ended : stream.items[count]? = none ∨ ∃ fault, stream.items[count]? = some (.error fault)) :
    stream.items[later]? = none := by
  have length : stream.items.length ≤ stream.tokens.length + 1 := by
    rw [TokenStream.items, List.length_append, List.length_map, List.length_map, Option.length_toList]
    split <;> omega
  rw [List.getElem?_eq_none_iff]
  rcases ended with ended | ⟨fault, ended⟩
  · exact (List.getElem?_eq_none_iff.mp ended).trans behind.le
  · -- a place among the tokens would hold a token
    have past : stream.tokens.length ≤ count := by
      by_contra! among
      rw [TokenStream.items, List.getElem?_append_left (by simpa using among), List.getElem?_map,
        List.getElem?_eq_getElem among] at ended
      cases ended
    omega

/-- From one token to the next there are only blanks. -/
theorem Divides.blank_between (divides : Divides offset characters stream)
    (starts : Text.byteLength before = offset) : List.Forall₂
      (fun stop start => stop ≤ start ∧ (Text.slice stop start (before ++ characters)).all Text.isBlank)
      (offset :: stream.tokens.map Token.stop)
      (stream.tokens.map Token.start ++ [stream.reach (Text.byteLength (before ++ characters))]) := by
  have blanks_between (front blanks behind : List Char) (blank : blanks.all Text.isBlank) :
      Text.byteLength front ≤ Text.byteLength front + Text.byteLength blanks ∧
        (Text.slice (Text.byteLength front) (Text.byteLength front + Text.byteLength blanks)
          (front ++ blanks ++ behind)).all Text.isBlank := by
    rw [Text.slice_byteLength]
    exact ⟨Nat.le_add_right _ _, blank⟩
  induction divides generalizing before with
  | @done offset blanks blank =>
    subst starts
    have gap := blanks_between before blanks [] blank
    rw [List.append_nil] at gap
    rw [TokenStream.reach, Text.byteLength_append]
    exact .cons gap .nil
  | @failed offset blanks rest first problem blank solid stuck =>
    subst starts
    have gap := blanks_between before blanks (first :: rest) blank
    rw [List.append_assoc] at gap
    exact .cons gap .nil
  | @token offset start stop blanks others rest first kind stream blank solid scanned start_eq stop_eq remaining ih =>
    subst starts start_eq stop_eq
    have gap := blanks_between before blanks (first :: others ++ rest) blank
    rw [List.append_assoc] at gap
    have reached : Text.byteLength (before ++ blanks ++ first :: others) =
        Text.byteLength before + Text.byteLength blanks + Text.byteLength (first :: others) := by
      rw [Text.byteLength_append, Text.byteLength_append]
    have later := ih reached
    have whole : before ++ blanks ++ first :: others ++ rest = before ++ (blanks ++ (first :: others ++ rest)) := by
      simp only [List.append_assoc]
    rw [whole] at later
    exact .cons gap later

/-- The tokens of a text, and the blanks between them, are all of it up to its end or to its error. -/
structure Covers (characters : List Char) (stream : TokenStream) : Prop where
  spans : ∀ token ∈ stream.tokens, token.start < token.stop ∧ token.stop ≤ Text.byteLength characters ∧
    Text.IsBoundary characters token.start ∧ Text.IsBoundary characters token.stop
  ascending : stream.tokens.Pairwise fun earlier later => earlier.stop ≤ later.start
  blank : List.Forall₂ (fun stop start => stop ≤ start ∧ (Text.slice stop start characters).all Text.isBlank)
    (0 :: stream.tokens.map Token.stop)
    (stream.tokens.map Token.start ++ [stream.reach (Text.byteLength characters)])
  stuck : ∀ fault, stream.error? = some fault → ∃ before first behind, characters = before ++ first :: behind ∧
    Text.byteLength before = fault.position ∧ Text.isBlank first = false ∧ Stuck first behind fault.problem
  numerals : ∀ token ∈ stream.tokens, ∀ value, token.kind = .number value → ∃ negative whole fraction,
    Text.slice token.start token.stop characters = Number.numeral negative whole fraction ∧ whole ≠ [] ∧
      (∀ digit ∈ whole ++ fraction, digit.isDigit) ∧
      Number.ofText? (String.ofList (Text.slice token.start token.stop characters)) = some value
  few : stream.items.length ≤ Text.byteLength characters

theorem spans_of_mem (member : token ∈ (tokens text).tokens) :
    token.start < token.stop ∧ token.stop ≤ Text.byteLength text.toList ∧
      Text.IsBoundary text.toList token.start ∧ Text.IsBoundary text.toList token.stop := by
  obtain ⟨before, first, others, behind, whole, start, stop, -⟩ := exists_part member
  have wide := Char.utf8Size_pos first
  have ends : Text.IsBoundary text.toList token.stop :=
    ⟨before ++ first :: others, behind, whole, by rw [Text.byteLength_append, stop, start]⟩
  refine ⟨?_, ends.le, ⟨before, first :: others ++ behind, ?_, start.symm⟩, ends⟩
  · rw [stop, Text.byteLength]
    omega
  · rw [whole, List.append_assoc]

/-- The characters of a number are a numeral, and read as the number. -/
theorem numeral_of_mem {value : Number} (member : token ∈ (tokens text).tokens)
    (number : token.kind = .number value) : ∃ negative whole fraction,
      Text.slice token.start token.stop text.toList = Number.numeral negative whole fraction ∧ whole ≠ [] ∧
        (∀ digit ∈ whole ++ fraction, digit.isDigit) ∧
        Number.ofText? (String.ofList (Text.slice token.start token.stop text.toList)) = some value := by
  obtain ⟨_, first, others, behind, _, _, _, part, _, scanned⟩ := exists_part member
  rw [number] at scanned
  obtain ⟨negative, whole, fraction, nonempty, digits, rfl, taken⟩ := number_of_scan scanned
  rw [List.take_left] at taken
  rw [part, taken]
  exact ⟨negative, whole, fraction, rfl, nonempty, digits, Number.ofText?_numeral negative nonempty digits⟩

/-- The tokens of a text cover it. A cursor that is moved through the text yields them one by one, then the error if
there is one, after at most as many steps as the text has bytes, and then nothing for ever. -/
theorem tokens_cover (text : String) :
    Covers text.toList (tokens text) ∧
    (∀ count, ((Cursor.start text).after count).next.1 = (tokens text).items[count]?) ∧
    ∀ count later, count < later →
      (((Cursor.start text).after count).next.1 = none ∨
        ∃ fault, ((Cursor.start text).after count).next.1 = some (.error fault)) →
      ((Cursor.start text).after later).next.1 = none := by
  have divides := divides_tokensFrom 0 text.toList
  have blank := divides.blank_between (rfl : Text.byteLength [] = 0)
  refine ⟨?_, next_after_start text, ?_⟩
  · exact {
      spans := fun token => spans_of_mem
      ascending := pairwise_stop 0 text.toList
      blank := blank
      stuck := fun fault faulty => by simpa only [Nat.zero_add] using divides.exists_stuck faulty
      numerals := fun token member value => numeral_of_mem member
      few := divides.length_items_le }
  · intro count later behind ended
    rw [next_after_start] at ended ⊢
    exact getElem?_items_eq_none behind ended

end Lexer

end RecordQuery
