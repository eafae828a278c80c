import RecordQuery.Proofs.Filter.LetterCase
import RecordQuery.Proofs.Filter.SortItem
import RecordQuery.Proofs.Text.Slices

/-! # A text in parts

The tokens of a text divide it: blanks, the characters of a token, blanks, and so on up to the end or to characters
that are no token. A token is scanned from its own characters and at most one more, which makes no difference when it
is a blank or when there is none.
-/

namespace RecordQuery.Lexer

/-- The text ends, or a blank comes next. -/
def Apart (rest : List Char) : Prop := rest.head?.all Text.isBlank

variable {first : Char} {rest behind others characters : List Char} {kind : TokenKind} {count offset : Nat}

theorem Apart.detached (apart : Apart behind) : Detached behind := by
  cases behind with
  | nil => rfl
  | cons character more =>
    refine Bool.eq_false_iff.mpr fun part => ?_
    exact absurd apart (Bool.eq_false_iff.mp (Name.isBlank_of_isPart part))

theorem Apart.head?_ne (apart : Apart behind) : behind.head? ≠ some '=' := by
  intro equals
  rw [Apart, equals] at apart
  exact absurd apart (by decide)

theorem apart_append {blanks : List Char} (blank : blanks.all Text.isBlank) (apart : blanks = [] → Apart rest) :
    Apart (blanks ++ rest) := by
  cases blanks with
  | nil => exact apart rfl
  | cons character more => exact (Bool.and_eq_true_iff.mp (List.all_cons.symm.trans blank)).1

/-! ## One token -/

/-- The token has all the characters that it takes, and these make it in front of whatever is apart. -/
structure Settled (first : Char) (rest : List Char) (kind : TokenKind) (count : Nat) : Prop where
  within : count ≤ rest.length
  again : ∀ behind, Apart behind → scan first (rest.take count ++ behind) = .ok (kind, count)

theorem settled_alone (scanned : ∀ behind, Apart behind → scan first behind = .ok (kind, 0)) :
    Settled first rest kind 0 where
  within := Nat.zero_le _
  again := scanned

/-- No token begins with a blank. -/
theorem solid_of_scan (scanned : scan first rest = .ok (kind, count)) : Text.isBlank first = false := by
  unfold scan at scanned
  split at scanned
  case h_10 =>
    split at scanned
    · rename_i starts
      rcases Bool.or_eq_true_iff.mp starts with digit | minus
      · exact Text.isBlank_of_isDigit digit
      · rw [beq_iff_eq.mp (Bool.and_eq_true_iff.mp minus).1]
        decide
    · split at scanned
      · rename_i start
        exact Name.isBlank_of_isPart (Name.isPart_of_isStart start)
      · cases scanned
  all_goals decide

/-- A sign that needs the equals sign behind it. -/
theorem settled_withEquals (equals : rest.head? = some '=')
    (scanned : ∀ more, scan first ('=' :: more) = .ok (kind, 1)) : Settled first rest kind 1 := by
  obtain ⟨more, rfl⟩ : ∃ more, rest = '=' :: more := by
    cases rest with
    | nil => cases equals
    | cons character more => exact ⟨more, congrArg (· :: more) (Option.some.inj equals)⟩
  exact ⟨Nat.succ_le_succ (Nat.zero_le _), fun behind _ => scanned behind⟩

theorem settled_relation {alone withEquals : Relation}
    (chosen : ∀ rest, scan first rest = .ok (scanRelation alone withEquals rest))
    (scanned : scanRelation alone withEquals rest = (kind, count)) : Settled first rest kind count := by
  unfold scanRelation at scanned
  split at scanned <;> cases scanned
  · rename_i equals
    exact settled_withEquals equals fun more => chosen _
  · refine settled_alone fun behind apart => ?_
    rw [chosen, scanRelation, if_neg apart.head?_ne]

theorem length_textContent? {quote : Char} {content : List Char}
    (taken : textContent? quote rest = some (content, count)) : count ≤ rest.length := by
  fun_induction textContent? quote rest generalizing content count with
  | case1 | case3 => cases taken
  | case2 rest =>
    cases taken
    exact Nat.succ_le_succ (Nat.zero_le _)
  | case4 guarded rest noQuote ih =>
    obtain ⟨⟨inner, more⟩, within, same⟩ := Option.map_eq_some_iff.mp taken
    cases same
    exact Nat.add_le_add_right (ih within) 2
  | case5 first rest noQuote noBackslash ih =>
    obtain ⟨⟨inner, more⟩, within, same⟩ := Option.map_eq_some_iff.mp taken
    cases same
    exact Nat.succ_le_succ (ih within)

theorem settled_text {quote : Char} (chosen : ∀ rest, scan quote rest = scanText quote rest)
    (scanned : scanText quote rest = .ok (kind, count)) : Settled quote rest kind count := by
  unfold scanText at scanned
  split at scanned <;> cases scanned
  rename_i taken
  refine ⟨length_textContent? taken, fun behind _ => ?_⟩
  rw [chosen, scanText, textContent?_take_append taken]

theorem settled_number (starts : first.isDigit || first == '-' && startsWithDigit rest) :
    Settled first rest (scanNumber first rest).1 (scanNumber first rest).2 := by
  obtain ⟨negative, whole, fraction, nonempty, digits, value, taken⟩ := exists_numeral_of_scanNumber starts
  have within := length_scanNumber_le first rest
  refine ⟨within, fun behind apart => ?_⟩
  have scanned := (scan_numeral nonempty digits taken apart.detached).2
  rwa [← value, List.length_take_of_le within] at scanned

theorem settled_word (start : Name.isStart first) :
    Settled first rest (wordKind (first :: rest.takeWhile Name.isPart)) (rest.takeWhile Name.isPart).length := by
  have own : rest.take (rest.takeWhile Name.isPart).length = rest.takeWhile Name.isPart :=
    (List.prefix_iff_eq_take.mp (List.takeWhile_prefix _)).symm
  refine ⟨(List.takeWhile_prefix _).length_le, fun behind apart => ?_⟩
  rw [own]
  exact (scan_word (isName_cons_takeWhile start rest) apart.detached).2

/-- Every token is settled. -/
theorem settled_of_scan (scanned : scan first rest = .ok (kind, count)) : Settled first rest kind count := by
  unfold scan at scanned
  split at scanned
  · cases scanned
    exact settled_alone fun _ _ => rfl
  · cases scanned
    exact settled_alone fun _ _ => rfl
  · cases scanned
    exact settled_alone fun _ _ => rfl
  · cases scanned
    exact settled_alone fun _ _ => rfl
  · exact settled_relation (fun _ => rfl) (Except.ok.inj scanned)
  · exact settled_relation (fun _ => rfl) (Except.ok.inj scanned)
  · split at scanned <;> cases scanned
    rename_i equals
    exact settled_withEquals equals fun _ => rfl
  · exact settled_text (fun _ => rfl) scanned
  · exact settled_text (fun _ => rfl) scanned
  · split at scanned
    · rename_i starts
      cases scanned
      exact settled_number starts
    · split at scanned <;> cases scanned
      rename_i start
      exact settled_word start

/-- A token stands for its part of the text. -/
theorem exists_part {text : String} {token : Token} (member : token ∈ (tokens text).tokens) :
    ∃ before first others behind, text.toList = before ++ first :: others ++ behind ∧
      token.start = Text.byteLength before ∧ token.stop = token.start + Text.byteLength (first :: others) ∧
      Text.slice token.start token.stop text.toList = first :: others ∧ Text.isBlank first = false ∧
      scan first (others ++ behind) = .ok (token.kind, others.length) := by
  obtain ⟨before, first, rest, count, whole, start, stop, scanned⟩ := scanned_of_mem member
  have settled := settled_of_scan scanned
  have split : text.toList = before ++ first :: rest.take count ++ rest.drop count := by
    rw [List.append_assoc, List.cons_append, List.take_append_drop, whole]
  rw [Nat.zero_add] at start
  refine ⟨before, first, rest.take count, rest.drop count, split, start, stop, ?_, solid_of_scan scanned, ?_⟩
  · rw [stop, start, split, Text.slice_byteLength]
  · rw [List.take_append_drop, scanned, List.length_take_of_le settled.within]

/-! ## All tokens -/

/-- The stream divides the characters from a byte on. -/
inductive Divides : Nat → List Char → TokenStream → Prop where
  | done {offset : Nat} {blanks : List Char} (blank : blanks.all Text.isBlank) : Divides offset blanks .done
  | failed {offset : Nat} {blanks rest : List Char} {first : Char} {problem : LexicalProblem}
      (blank : blanks.all Text.isBlank) (solid : Text.isBlank first = false)
      (stuck : scan first rest = .error problem) :
      Divides offset (blanks ++ first :: rest) (.failed ⟨offset + Text.byteLength blanks, problem⟩)
  | token {offset start stop : Nat} {blanks others rest : List Char} {first : Char} {kind : TokenKind}
      {stream : TokenStream} (blank : blanks.all Text.isBlank) (solid : Text.isBlank first = false)
      (scanned : scan first (others ++ rest) = .ok (kind, others.length))
      (starts : start = offset + Text.byteLength blanks) (stops : stop = start + Text.byteLength (first :: others))
      (remaining : Divides stop rest stream) :
      Divides offset (blanks ++ (first :: others ++ rest)) (.token ⟨kind, start, stop⟩ stream)

theorem Divides.blank_cons {stream : TokenStream} (blank : Text.isBlank first)
    (divides : Divides (offset + first.utf8Size) rest stream) : Divides offset (first :: rest) stream := by
  have extended {blanks : List Char} (all : blanks.all Text.isBlank) : (first :: blanks).all Text.isBlank := by
    rw [List.all_cons, blank, all]
    rfl
  cases divides with
  | done all => exact .done (extended all)
  | @failed _ blanks rest _ _ all solid stuck =>
    have failed : Divides offset (first :: blanks ++ _ :: rest) _ := .failed (extended all) solid stuck
    rwa [Text.byteLength, ← Nat.add_assoc] at failed
  | token all solid scanned starts stops remaining =>
    rw [Nat.add_assoc] at starts
    exact .token (extended all) solid scanned starts stops remaining

/-- The tokens of a text divide it. -/
theorem divides_tokensFrom (offset : Nat) (characters : List Char) :
    Divides offset characters (tokensFrom offset characters) := by
  fun_induction tokensFrom offset characters with
  | case1 => exact .done rfl
  | case2 offset first rest blank ih => exact ih.blank_cons blank
  | case3 offset first rest solid problem stuck =>
    have divides : Divides offset ([] ++ first :: rest) _ := .failed rfl (Bool.eq_false_iff.mpr solid) stuck
    exact divides
  | case4 offset first rest solid kind count scanned stop ih =>
    have own := List.length_take_of_le (settled_of_scan scanned).within
    have again : scan first (rest.take count ++ rest.drop count) = .ok (kind, (rest.take count).length) := by
      rw [List.take_append_drop, own, scanned]
    have divides : Divides offset ([] ++ (first :: rest.take count ++ rest.drop count)) _ :=
      .token rfl (Bool.eq_false_iff.mpr solid) again rfl (Nat.add_assoc _ _ _) ih
    rwa [List.nil_append, List.cons_append, List.take_append_drop] at divides

end RecordQuery.Lexer
