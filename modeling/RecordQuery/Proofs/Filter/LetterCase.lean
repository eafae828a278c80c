import RecordQuery.Proofs.Filter.Lexing
import RecordQuery.Proofs.Filter.Lowering
import RecordQuery.Proofs.Filter.Scanning

/-! # Filters in another letter case

Keywords and names may be written in any letter case, and so may texts that are compared with a field that
ignores their case. Two filters that differ only in the case of such letters have tokens at the same places, and
the same tokens in lower case. They are therefore read as the same lowered filter or refused at the same place.
-/

namespace RecordQuery

/-- The letters of the token may be written in either case, if those of texts may be. -/
def TokenKind.isCaseless (ignores : Bool) : TokenKind → Bool
  | conjunction | disjunction | negation | membership | textMatch _ | boolean _ | null | name _ => true
  | text _ => ignores
  | relation _ | number _ | opening | closing | comma => false

namespace Lexer

/-- The tokens whose letters may be written in either case. A text is compared with the field whose name is the
last one in front of it. -/
def caseless (ignoresCase : String → Bool) : Bool → List Token → List Token
  | _, [] => []
  | ignores, token :: rest =>
    let others := caseless ignoresCase (token.kind.ignoresBehind ignoresCase ignores) rest
    if token.kind.isCaseless ignores then token :: others else others

/-- Where two texts differ, the byte belongs to one of the tokens. -/
def DifferInside (tokens : List Token) (offset : Nat) (first second : List Char) : Prop :=
  ∀ index < first.length, first[index]? ≠ second[index]? →
    ∃ token ∈ tokens, token.start ≤ offset + Text.byteLength (first.take index) ∧
      offset + Text.byteLength (first.take index) < token.stop

instance (tokens : List Token) (offset : Nat) (first second : List Char) :
    Decidable (DifferInside tokens offset first second) :=
  inferInstanceAs (Decidable (∀ index < first.length, first[index]? ≠ second[index]? →
    ∃ token ∈ tokens, token.start ≤ offset + Text.byteLength (first.take index) ∧
      offset + Text.byteLength (first.take index) < token.stop))

variable {ignoresCase : String → Bool} {ignores : Bool} {token : Token} {tokens : List Token} {offset : Nat}
  {front behind otherFront otherBehind rest : List Char} {character quote : Char}

/-! ## Scanning in lower case -/

theorem isDigit_toLower (character : Char) : character.toLower.isDigit = character.isDigit :=
  Text.toLower_congr Char.isDigit (by decide) character

theorem toLower_of_isDigit (digit : character.isDigit) : character.toLower = character := by
  rcases Text.toLower_eq_self_or character with same | capital
  · exact same
  · have letters : Text.capitals.all fun capital => !capital.isDigit := by decide
    have letter := List.all_eq_true.mp letters character capital
    rw [digit] at letter
    cases letter

/-- Digits have no case. -/
theorem map_toLower_takeWhile_isDigit (characters : List Char) :
    (characters.takeWhile Char.isDigit).map Char.toLower = characters.takeWhile Char.isDigit :=
  (List.map_congr_left fun _ member => toLower_of_isDigit (List.mem_takeWhile_imp member)).trans (List.map_id _)

theorem head?_map_toLower_eq_some_iff {mark : Char} (uncased : Text.isUncased mark) (characters : List Char) :
    (characters.map Char.toLower).head? = some mark ↔ characters.head? = some mark := by
  cases characters with
  | nil => rfl
  | cons first rest =>
    rw [List.map_cons, List.head?_cons, List.head?_cons, Option.some_inj, Option.some_inj,
      Text.toLower_eq_iff uncased]

/-- A word in lower case is the same keyword, or the name in lower case. -/
theorem wordKind_map_toLower (word : List Char) :
    wordKind (word.map Char.toLower) = (wordKind word).lowered true := by
  unfold wordKind
  rw [Text.map_toLower_map_toLower]
  cases found : keywords.lookup (String.ofList (word.map Char.toLower)) with
  | none => rw [Option.getD_none, Option.getD_none, TokenKind.lowered, Text.lowered, String.toList_ofList]
  | some kind =>
    have fixed : ∀ entry ∈ keywords, entry.2 = entry.2.lowered true := by decide
    exact fixed _ (mem_keywords_of_lookup found)

theorem scanWord_map_toLower (first : Char) (rest : List Char) :
    scanWord first.toLower (rest.map Char.toLower) =
      ((scanWord first rest).1.lowered true, (scanWord first rest).2) := by
  simp only [scanWord, Text.takeWhile_map_toLower Name.isPart_toLower, ← List.map_cons, wordKind_map_toLower,
    List.length_map]

theorem fractionDigits_map_toLower (characters : List Char) :
    fractionDigits (characters.map Char.toLower) = fractionDigits characters := by
  cases characters with
  | nil => rfl
  | cons first rest =>
    have point : first.toLower = '.' ↔ first = '.' := Text.toLower_eq_iff (by decide)
    by_cases same : first = '.'
    · subst same
      change (rest.map Char.toLower).takeWhile Char.isDigit = rest.takeWhile Char.isDigit
      rw [Text.takeWhile_map_toLower isDigit_toLower, map_toLower_takeWhile_isDigit]
    · rw [List.map_cons, fractionDigits, fractionDigits]
      · rintro _ ⟨⟩
        exact same rfl
      · rintro _ lowered
        exact same (point.mp (List.cons.inj lowered).1)

theorem scanNumber_map_toLower (first : Char) (rest : List Char) :
    scanNumber first (rest.map Char.toLower) = scanNumber first rest := by
  simp only [scanNumber, Text.takeWhile_map_toLower isDigit_toLower, map_toLower_takeWhile_isDigit,
    Text.dropWhile_map_toLower isDigit_toLower, fractionDigits_map_toLower]

theorem textContent?_map_toLower (uncased : Text.isUncased quote) (characters : List Char) :
    textContent? quote (characters.map Char.toLower) =
      (textContent? quote characters).map fun (content, count) => (content.map Char.toLower, count) := by
  have backslash : ∀ character : Char, character.toLower = '\\' ↔ character = '\\' :=
    fun _ => Text.toLower_eq_iff (by decide)
  fun_induction textContent? quote characters with
  | case1 => rfl
  | case2 rest =>
    have closes : quote.toLower = quote := (Text.toLower_eq_iff uncased).mpr rfl
    rw [List.map_cons, closes, textContent?.eq_def]
    exact if_pos rfl
  | case3 noQuote =>
    rw [List.map_cons, textContent?.eq_def]
    exact (if_neg noQuote).trans (if_pos rfl)
  | case4 guarded rest noQuote ih =>
    rw [List.map_cons, textContent?.eq_def]
    refine ((if_neg noQuote).trans (if_pos rfl)).trans ?_
    simp only [List.map_cons, ih, Option.map_map, Text.toLower_eq_iff uncased, backslash]
    congr 1
    funext ⟨content, count⟩
    simp only [Function.comp_apply, apply_ite (List.map Char.toLower), List.map_cons]
    rfl
  | case5 first rest noQuote noBackslash ih =>
    rw [List.map_cons, textContent?.eq_def]
    dsimp only
    rw [if_neg (mt (Text.toLower_eq_iff uncased).mp noQuote), if_neg (mt (backslash first).mp noBackslash), ih,
      Option.map_map, Option.map_map]
    rfl

theorem scanText_map_toLower (uncased : Text.isUncased quote) (rest : List Char) :
    scanText quote (rest.map Char.toLower) =
      (scanText quote rest).map fun (kind, count) => (kind.lowered true, count) := by
  simp only [scanText, textContent?_map_toLower uncased]
  cases textContent? quote rest with
  | none => rfl
  | some taken => simp [Except.map, TokenKind.lowered, Text.lowered]

theorem scanRelation_map_toLower (alone withEquals : Relation) (rest : List Char) :
    scanRelation alone withEquals (rest.map Char.toLower) =
      ((scanRelation alone withEquals rest).1.lowered true, (scanRelation alone withEquals rest).2) := by
  simp only [scanRelation, head?_map_toLower_eq_some_iff (by decide : Text.isUncased '=')]
  split <;> rfl

theorem startsWithDigit_map_toLower (rest : List Char) :
    startsWithDigit (rest.map Char.toLower) = startsWithDigit rest := by
  cases rest with
  | nil => rfl
  | cons first more => exact isDigit_toLower first

/-- From characters in lower case the token in lower case is scanned, with the same length. -/
theorem scan_map_toLower (first : Char) (rest : List Char) :
    scan first.toLower (rest.map Char.toLower) =
      (scan first rest).map fun (kind, count) => (kind.lowered true, count) := by
  rcases Text.toLower_eq_self_or first with same | capital
  · rw [same]
    unfold scan
    split
    · rfl
    · rfl
    · rfl
    · rfl
    · exact congrArg Except.ok (scanRelation_map_toLower .less .lessOrEqual rest)
    · exact congrArg Except.ok (scanRelation_map_toLower .greater .greaterOrEqual rest)
    · simp only [head?_map_toLower_eq_some_iff (by decide : Text.isUncased '=')]
      split <;> rfl
    · exact scanText_map_toLower (by decide) rest
    · exact scanText_map_toLower (by decide) rest
    · rw [startsWithDigit_map_toLower, scanNumber_map_toLower]
      split
      · rfl
      · split
        · have word := scanWord_map_toLower first rest
          rw [same] at word
          exact congrArg Except.ok word
        · rfl
  · have letters : Text.capitals.all Name.isStart := by decide
    have start : Name.isStart first := List.all_eq_true.mp letters first capital
    rw [scan_of_isStart start, scan_of_isStart ((Name.isStart_toLower first).trans start), scanWord_map_toLower]
    rfl

/-! ## Where texts differ -/

/-- Only the characters of a text decide about its content. -/
theorem textContent?_take_append {content : List Char} {count : Nat}
    (taken : textContent? quote rest = some (content, count)) (behind : List Char) :
    textContent? quote (rest.take count ++ behind) = some (content, count) := by
  fun_induction textContent? quote rest generalizing content count with
  | case1 => cases taken
  | case2 rest =>
    cases taken
    rw [textContent?.eq_def]
    exact if_pos rfl
  | case3 => cases taken
  | case4 guarded rest noQuote ih =>
    obtain ⟨⟨inner, more⟩, within, same⟩ := Option.map_eq_some_iff.mp taken
    cases same
    rw [List.take_succ_cons, List.take_succ_cons, List.cons_append, List.cons_append, textContent?.eq_def]
    refine ((if_neg noQuote).trans (if_pos rfl)).trans ?_
    dsimp only
    rw [ih within, Option.map_some]
  | case5 first rest noQuote noBackslash ih =>
    obtain ⟨⟨inner, more⟩, within, same⟩ := Option.map_eq_some_iff.mp taken
    cases same
    rw [List.take_succ_cons, List.cons_append, textContent?.eq_def]
    dsimp only
    rw [if_neg noQuote, if_neg noBackslash, ih within, Option.map_some]

/-- A text is scanned from the characters up to its closing quote alone. -/
theorem scan_text_take_append {first : Char} {content : String} {count : Nat}
    (scanned : scan first rest = .ok (.text content, count)) (behind : List Char) :
    scan first (rest.take count ++ behind) = .ok (.text content, count) := by
  generalize same : TokenKind.text content = kind at scanned ⊢
  cases scans_of_scan scanned with
  | text quoted taken =>
    rcases quoted with rfl | rfl <;> simp only [scan, scanText, textContent?_take_append taken behind]
  | word => exact absurd same.symm (wordKind_ne (by simp) (by simp [keywords]) _)
  | relation | opening | closing | comma | number => cases same

/-- Fewer characters have fewer bytes. -/
theorem byteLength_take_lt {characters : List Char} {index : Nat} (within : index < characters.length) :
    Text.byteLength (characters.take index) < Text.byteLength characters := by
  have wide := Char.utf8Size_pos characters[index]
  calc Text.byteLength (characters.take index)
      < Text.byteLength (characters.take index) + Text.byteLength (characters.drop index) := by
        rw [List.drop_eq_getElem_cons within, Text.byteLength]
        omega
    _ = Text.byteLength characters := by rw [← Text.byteLength_append, List.take_append_drop]

/-- Texts that differ only behind their fronts have the same fronts. -/
theorem DifferInside.front_eq (differ : DifferInside tokens offset (front ++ behind) (otherFront ++ otherBehind))
    (length : front.length = otherFront.length)
    (starts : ∀ token ∈ tokens, offset + Text.byteLength front ≤ token.start) : front = otherFront := by
  refine List.ext_getElem? fun index => ?_
  by_cases within : index < front.length
  · by_contra different
    obtain ⟨token, member, start, -⟩ := differ index (by rw [List.length_append]; omega) (by
      rwa [List.getElem?_append_left within, List.getElem?_append_left (by omega)])
    have first := starts token member
    have shorter := byteLength_take_lt within
    rw [List.take_append_of_le_length within.le] at start
    omega
  · rw [List.getElem?_eq_none (by omega), List.getElem?_eq_none (by omega)]

theorem DifferInside.eq_of_no_token {first second : List Char} (differ : DifferInside [] offset first second)
    (length : first.length = second.length) : first = second := by
  rw [← List.append_nil first, ← List.append_nil second] at differ
  exact differ.front_eq length (List.forall_mem_nil _)

/-- Behind their fronts, too, two texts differ only inside of tokens. -/
theorem DifferInside.drop (front otherFront : List Char)
    (differ : DifferInside tokens offset (front ++ behind) (otherFront ++ otherBehind))
    (length : front.length = otherFront.length) :
    DifferInside tokens (offset + Text.byteLength front) behind otherBehind := by
  intro index within different
  obtain ⟨token, member, start, stop⟩ := differ (front.length + index)
    (by rw [List.length_append]; omega)
    (by rwa [List.getElem?_append_right (by omega), List.getElem?_append_right (by omega), length,
      Nat.add_sub_cancel_left])
  rw [List.take_length_add_append, Text.byteLength_append, ← Nat.add_assoc] at start stop
  exact ⟨token, member, start, stop⟩

/-- A token in front of two texts has no part in their differences. -/
theorem DifferInside.of_caseless_cons {first second : List Char}
    (differ : DifferInside (caseless ignoresCase ignores (token :: tokens)) offset first second)
    (stops : token.stop ≤ offset) :
    DifferInside (caseless ignoresCase (token.kind.ignoresBehind ignoresCase ignores) tokens) offset first second := by
  intro index within different
  obtain ⟨other, member, start, stop⟩ := differ index within different
  simp only [caseless] at member
  split at member
  · rcases List.mem_cons.mp member with rfl | later
    · omega
    · exact ⟨other, later, start, stop⟩
  · exact ⟨other, member, start, stop⟩

theorem mem_of_mem_caseless (member : token ∈ caseless ignoresCase ignores tokens) : token ∈ tokens := by
  induction tokens generalizing ignores with
  | nil => cases member
  | cons first rest ih =>
    simp only [caseless] at member
    split at member
    · rcases List.mem_cons.mp member with rfl | later
      · exact List.mem_cons_self
      · exact List.mem_cons_of_mem _ (ih later)
    · exact List.mem_cons_of_mem _ (ih member)

theorem le_start_of_mem_caseless {characters : List Char}
    (member : token ∈ caseless ignoresCase ignores (tokensFrom offset characters).tokens) : offset ≤ token.start := by
  obtain ⟨before, -, -, -, -, start, -⟩ := scanned_of_mem (mem_of_mem_caseless member)
  omega

/-- Characters in another case begin a token of the same length, which is the same in lower case. -/
theorem exists_scan_of_letters {first other : Char} {more : List Char} {kind : TokenKind} {count : Nat}
    (scanned : scan first rest = .ok (kind, count)) (lower : other.toLower = first.toLower)
    (letters : more.map Char.toLower = rest.map Char.toLower) :
    ∃ otherKind, scan other more = .ok (otherKind, count) ∧ otherKind.lowered true = kind.lowered true := by
  have low := scan_map_toLower other more
  rw [lower, letters, scan_map_toLower, scanned] at low
  obtain ⟨⟨otherKind, otherCount⟩, otherScanned, same⟩ := Outcome.map_eq_ok_iff.mp low.symm
  obtain ⟨sameKind, sameCount⟩ := Prod.mk.inj same
  exact ⟨otherKind, sameCount ▸ otherScanned, sameKind⟩

theorem ignoresBehind_eq_of_lowered {kind otherKind : TokenKind}
    (stable : ∀ word, ignoresCase (Text.lowered word) = ignoresCase word)
    (same : otherKind.lowered true = kind.lowered true) (ignores : Bool) :
    otherKind.ignoresBehind ignoresCase ignores = kind.ignoresBehind ignoresCase ignores := by
  have lowered : ∀ kind : TokenKind,
      (kind.lowered true).ignoresBehind ignoresCase ignores = kind.ignoresBehind ignoresCase ignores := by
    intro kind
    cases kind with
    | name word => exact stable word
    | _ => rfl
  rw [← lowered, same, lowered]

/-- Tokens that are the same in lower case are so, too, where the case of texts counts, if texts are the same. -/
theorem lowered_eq_of_lowered {kind otherKind : TokenKind} (same : otherKind.lowered true = kind.lowered true)
    (texts : ∀ content, kind = .text content → ignores = false → otherKind = kind) :
    otherKind.lowered ignores = kind.lowered ignores := by
  cases ignores with
  | true => exact same
  | false =>
    cases kind with
    | text content => rw [texts content rfl rfl]
    | _ => cases otherKind <;> first | exact same | cases same

/-- From the same characters the same text is scanned. -/
theorem eq_text_of_front {first other : Char} {more : List Char} {content : String} {kind : TokenKind} {count : Nat}
    (scanned : scan first rest = .ok (.text content, count)) (otherScanned : scan other more = .ok (kind, count))
    (same : first :: rest.take count = other :: more.take count) : kind = .text content := by
  obtain ⟨rfl, taken⟩ := List.cons.inj same
  have again := scan_text_take_append scanned (more.drop count)
  rw [taken, List.take_append_drop, otherScanned] at again
  exact (Prod.mk.inj (Except.ok.inj again)).1

/-- Texts that differ only in the case of letters in caseless tokens have the same tokens in lower case. -/
theorem tokensFrom_lowered {first second : List Char}
    (stable : ∀ word, ignoresCase (Text.lowered word) = ignoresCase word)
    (letters : second.map Char.toLower = first.map Char.toLower)
    (differ : DifferInside (caseless ignoresCase ignores (tokensFrom offset first).tokens) offset first second) :
    (tokensFrom offset second).lowered ignoresCase ignores =
      (tokensFrom offset first).lowered ignoresCase ignores := by
  have lengths := congrArg List.length letters
  rw [List.length_map, List.length_map] at lengths
  fun_induction tokensFrom offset first generalizing second ignores with
  | case1 => rw [List.map_eq_nil_iff.mp letters, tokensFrom]
  | case2 offset character rest blank ih =>
    obtain ⟨other, more, rfl, lower, behind⟩ := List.map_eq_cons_iff.mp letters
    have sameSize : other.utf8Size = character.utf8Size := by
      rw [← Text.utf8Size_toLower, lower, Text.utf8Size_toLower]
    have otherBlank : Text.isBlank other := by rwa [← Text.isBlank_toLower, lower, Text.isBlank_toLower]
    rw [tokensFrom, if_pos otherBlank, sameSize]
    exact ih behind (DifferInside.drop [character] [other] differ rfl) (Nat.succ.inj lengths)
  | case3 offset character rest solid problem failed =>
    have same : character :: rest = second := DifferInside.eq_of_no_token differ lengths.symm
    rw [← same, tokensFrom, if_neg solid, failed]
  | case4 offset character rest solid kind count scanned stop =>
    rename_i ih
    obtain ⟨other, more, rfl, lower, behind⟩ := List.map_eq_cons_iff.mp letters
    obtain ⟨otherKind, otherScanned, sameKind⟩ := exists_scan_of_letters scanned lower behind
    have fronts : (other :: more.take count).map Char.toLower = (character :: rest.take count).map Char.toLower := by
      rw [List.map_cons, List.map_cons, List.map_take, List.map_take, lower, behind]
    have frontLengths : (character :: rest.take count).length = (other :: more.take count).length := by
      simpa using (congrArg List.length fronts).symm
    have otherStop : offset + other.utf8Size + Text.byteLength (more.take count) = stop := by
      have bytes := congrArg Text.byteLength fronts
      rw [Text.byteLength_map_toLower, Text.byteLength_map_toLower, Text.byteLength, Text.byteLength] at bytes
      omega
    have otherSolid : ¬ Text.isBlank other := by rwa [← Text.isBlank_toLower, lower, Text.isBlank_toLower]
    have frontStop : offset + Text.byteLength (character :: rest.take count) = stop := (Nat.add_assoc _ _ _).symm
    have apart : DifferInside
        (caseless ignoresCase ignores (⟨kind, offset, stop⟩ :: (tokensFrom stop (rest.drop count)).tokens)) offset
        (character :: rest.take count ++ rest.drop count) (other :: more.take count ++ more.drop count) := by
      rw [List.cons_append, List.cons_append, List.take_append_drop, List.take_append_drop]
      exact differ
    have later := (apart.drop _ _ frontLengths).of_caseless_cons frontStop.ge
    rw [frontStop] at later
    -- A text whose case counts is not among the caseless tokens, so its characters are the same.
    have texts : ∀ content, kind = .text content → ignores = false → otherKind = kind := by
      rintro content rfl rfl
      have starts : ∀ token ∈ caseless ignoresCase false (tokensFrom stop (rest.drop count)).tokens,
          offset + Text.byteLength (character :: rest.take count) ≤ token.start := fun token member =>
        frontStop ▸ le_start_of_mem_caseless member
      exact eq_text_of_front scanned otherScanned (apart.front_eq frontLengths starts)
    rw [tokensFrom, if_neg otherSolid, otherScanned]
    dsimp only
    rw [otherStop, TokenStream.lowered, TokenStream.lowered, lowered_eq_of_lowered sameKind texts,
      ignoresBehind_eq_of_lowered stable sameKind,
      ih (by simp only [List.map_drop, behind]) later (by simp only [List.length_drop, Nat.succ.inj lengths])]

end Lexer

namespace Filter

open Outcome

variable {ignoresCase : String → Bool} {first second : String}

/-- Two filters differ only in the case of letters, and only inside of caseless tokens. -/
structure Recased (ignoresCase : String → Bool) (first second : String) : Prop where
  letters : Text.lowered first = Text.lowered second
  places : Lexer.DifferInside (Lexer.caseless ignoresCase false (Lexer.tokens first).tokens) 0 first.toList
    second.toList

theorem Recased.toList (recased : Recased ignoresCase first second) :
    second.toList.map Char.toLower = first.toList.map Char.toLower :=
  String.ofList_inj.mp recased.letters.symm

/-- Filters in another case have the same filter in lower case, or they are refused at the same place. -/
theorem parse_recased (limits : Limits) (stable : ∀ word, ignoresCase (Text.lowered word) = ignoresCase word)
    (recased : Recased ignoresCase first second) :
    Alike ReadingError.gist (fun filter other => filter.lowered ignoresCase = other.lowered ignoresCase)
      (parse limits first) (parse limits second) := by
  have bytes : Text.byteLength second.toList = Text.byteLength first.toList := by
    rw [← Text.byteLength_map_toLower, recased.toList, Text.byteLength_map_toLower]
  have blank : second.toList.all Text.isBlank = first.toList.all Text.isBlank := by
    have same := congrArg (List.all · Text.isBlank) recased.toList
    simpa only [List.all_map, Function.comp_def, Text.isBlank_toLower] using same
  have tokens := Lexer.tokensFrom_lowered stable recased.toList recased.places
  have agrees : Parser.State.initial.Agrees ignoresCase false := nofun
  unfold parse
  rw [bytes, blank]
  dsimp only
  split
  · exact .error rfl
  · split
    · exact .error rfl
    · have reached := Parser.run_lowered limits (Text.byteLength first.toList) agrees (Lexer.tokens second)
      rw [Lexer.tokens, tokens] at reached
      exact (Parser.run_lowered limits _ agrees (Lexer.tokens first)).meet reached
        fun _ _ _ same otherSame => same.symm.trans otherSame

end Filter

end RecordQuery
