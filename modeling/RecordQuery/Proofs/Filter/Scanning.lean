import RecordQuery.Proofs.Filter.Acceptance
import RecordQuery.Proofs.Filter.Lexing
import RecordQuery.Proofs.Filter.Literals

/-! # Where the tokens of a text come from

Every token of a text was scanned from the characters at its bytes. The numbers among the literals of an
accepted filter are therefore those of the numerals in its text. That excludes the undefined number, and so no
literal of an accepted filter is undefined.
-/

namespace RecordQuery

namespace Lexer

/-- Each token was scanned at its bytes. -/
theorem scanned_of_mem {offset : Nat} {characters : List Char} {token : Token}
    (member : token ∈ (tokensFrom offset characters).tokens) :
    ∃ before first rest count, characters = before ++ first :: rest ∧
      token.start = offset + Text.byteLength before ∧
      token.stop = token.start + Text.byteLength (first :: rest.take count) ∧
      scan first rest = .ok (token.kind, count) := by
  fun_induction tokensFrom offset characters with
  | case1 => cases member
  | case2 offset first rest blank ih =>
    obtain ⟨before, second, more, count, same, start, stops, scanned⟩ := ih member
    refine ⟨first :: before, second, more, count, by rw [same, List.cons_append], ?_, stops, scanned⟩
    rw [start, Text.byteLength, Nat.add_assoc]
  | case3 offset first rest solid problem failed => cases member
  | case4 offset first rest solid kind count scanned stop ih =>
    rcases List.mem_cons.mp member with rfl | later
    · exact ⟨[], first, rest, count, rfl, rfl, Nat.add_assoc _ _ _, scanned⟩
    · obtain ⟨before, second, more, others, same, start, stops, scannedLater⟩ := ih later
      refine ⟨first :: rest.take count ++ before, second, more, others, ?_, ?_, stops, scannedLater⟩
      · rw [List.append_assoc, ← same, List.cons_append, List.take_append_drop]
      · rw [start, Text.byteLength_append, Text.byteLength, ← Nat.add_assoc, ← Nat.add_assoc]

/-- How a token is scanned: it is a sign, a text, a number or a word. -/
inductive Scans (first : Char) (rest : List Char) : TokenKind → Nat → Prop where
  | relation (sign : Relation) (count : Nat) : Scans first rest (.relation sign) count
  | opening : Scans first rest .opening 0
  | closing : Scans first rest .closing 0
  | comma : Scans first rest .comma 0
  | text {content : List Char} {count : Nat} (quoted : first = '\x22' ∨ first = '\x27')
    (taken : textContent? first rest = some (content, count)) : Scans first rest (.text (String.ofList content)) count
  | number (starts : first.isDigit || first == '-' && startsWithDigit rest) :
    Scans first rest (scanNumber first rest).1 (scanNumber first rest).2
  | word (start : Name.isStart first) : Scans first rest (wordKind (first :: rest.takeWhile Name.isPart))
    (rest.takeWhile Name.isPart).length

private theorem scans_relation {first : Char} {rest : List Char} {alone withEquals : Relation} {kind : TokenKind}
    {count : Nat} (scanned : scanRelation alone withEquals rest = (kind, count)) : Scans first rest kind count := by
  unfold scanRelation at scanned
  split at scanned <;> cases scanned <;> exact .relation _ _

private theorem scans_text {first : Char} {rest : List Char} {kind : TokenKind} {count : Nat}
    (quoted : first = '\x22' ∨ first = '\x27') (scanned : scanText first rest = .ok (kind, count)) :
    Scans first rest kind count := by
  unfold scanText at scanned
  split at scanned
  · rename_i taken
    cases scanned
    exact .text quoted taken
  · cases scanned

theorem scans_of_scan {first : Char} {rest : List Char} {kind : TokenKind} {count : Nat}
    (scanned : scan first rest = .ok (kind, count)) : Scans first rest kind count := by
  unfold scan at scanned
  split at scanned
  · cases scanned
    exact .relation _ _
  · cases scanned
    exact .opening
  · cases scanned
    exact .closing
  · cases scanned
    exact .comma
  · exact scans_relation (Except.ok.inj scanned)
  · exact scans_relation (Except.ok.inj scanned)
  · split at scanned <;> cases scanned
    exact .relation _ _
  · exact scans_text (.inl rfl) scanned
  · exact scans_text (.inr rfl) scanned
  · split at scanned
    · rename_i starts
      cases scanned
      exact .number starts
    · split at scanned <;> cases scanned
      rename_i start
      exact .word start

/-- A keyword that is found is one of the list. -/
theorem mem_keywords_of_lookup {word : String} {kind : TokenKind} (found : keywords.lookup word = some kind) :
    (word, kind) ∈ keywords := by
  obtain ⟨before, behind, whole, -⟩ := List.lookup_eq_some_iff.mp found
  exact whole ▸ List.mem_append_right _ List.mem_cons_self

/-- A word is a name or a keyword, and nothing else. -/
theorem wordKind_ne {kind : TokenKind} (noName : ∀ name, kind ≠ .name name)
    (noKeyword : kind ∉ keywords.map Prod.snd) (word : List Char) : wordKind word ≠ kind := by
  unfold wordKind
  cases found : keywords.lookup (String.ofList (word.map Char.toLower)) with
  | none => exact (noName _).symm
  | some known =>
    rintro rfl
    exact noKeyword (List.mem_map_of_mem (mem_keywords_of_lookup found))

/-- The word is a keyword in some letter case. -/
def IsKeyword (word : String) : Prop := ∃ known ∈ keywords.map Prod.fst, Text.equalIgnoringCase word known

private theorem keywords_lower : ∀ entry ∈ keywords, entry.1.toList.map Char.toLower = entry.1.toList := by
  decide

private theorem lookup_keywords_eq_none_iff {word : List Char} :
    keywords.lookup (String.ofList (word.map Char.toLower)) = none ↔ ¬ IsKeyword (String.ofList word) := by
  rw [List.lookup_eq_none_iff]
  constructor
  · rintro absent ⟨known, member, equal⟩
    obtain ⟨entry, among, rfl⟩ := List.mem_map.mp member
    rw [Text.equalIgnoringCase, String.toList_ofList, beq_iff_eq, keywords_lower entry among] at equal
    have differs := bne_iff_ne.mp (absent entry among)
    rw [equal, String.ofList_toList] at differs
    exact differs rfl
  · intro free entry among
    refine bne_iff_ne.mpr fun same => free ⟨entry.1, List.mem_map_of_mem among, ?_⟩
    rw [Text.equalIgnoringCase, beq_iff_eq, keywords_lower entry among, ← same, String.toList_ofList,
      String.toList_ofList]

/-- A word is the token of a name if it is no keyword, and of no other name. -/
theorem wordKind_eq_name_iff {word : List Char} {name : String} :
    wordKind word = .name name ↔ String.ofList word = name ∧ ¬ IsKeyword name := by
  cases found : keywords.lookup (String.ofList (word.map Char.toLower)) with
  | none =>
    have free := lookup_keywords_eq_none_iff.mp found
    rw [wordKind, found, Option.getD_none, TokenKind.name.injEq]
    exact ⟨fun same => ⟨same, same ▸ free⟩, And.left⟩
  | some kind =>
    have nameless : ∀ entry ∈ keywords, entry.2 ≠ .name name := by simp [keywords]
    rw [wordKind, found, Option.getD_some]
    refine iff_of_false (nameless _ (mem_keywords_of_lookup found)) ?_
    rintro ⟨rfl, free⟩
    rw [lookup_keywords_eq_none_iff.mpr free] at found
    cases found

private theorem isDigit_of_mem_takeWhile {characters : List Char} {digit : Char}
    (member : digit ∈ characters.takeWhile Char.isDigit) : digit.isDigit :=
  List.all_eq_true.mp List.all_takeWhile digit member

private theorem isDigit_of_mem_fractionDigits {characters : List Char} {digit : Char}
    (member : digit ∈ fractionDigits characters) : digit.isDigit := by
  unfold fractionDigits at member
  split at member
  · exact isDigit_of_mem_takeWhile member
  · cases member

/-- The digits of a number, its point and the digits behind it stand in front of something else. -/
private theorem exists_behind (rest : List Char) :
    ∃ behind, rest = rest.takeWhile Char.isDigit ++
      Number.pointed (fractionDigits (rest.dropWhile Char.isDigit)) ++ behind := by
  have whole := List.takeWhile_append_dropWhile (p := Char.isDigit) (l := rest)
  unfold fractionDigits
  split
  · rename_i more point
    rw [point] at whole
    unfold Number.pointed
    split
    · exact ⟨'.' :: more, by rw [List.append_nil, whole]⟩
    · refine ⟨more.dropWhile Char.isDigit, ?_⟩
      rw [List.append_assoc, List.cons_append, List.takeWhile_append_dropWhile, whole]
  · exact ⟨rest.dropWhile Char.isDigit, by rw [Number.pointed, if_pos rfl, List.append_nil, whole]⟩

theorem length_scanNumber_le (first : Char) (rest : List Char) : (scanNumber first rest).2 ≤ rest.length := by
  obtain ⟨behind, split⟩ := exists_behind rest
  have count : (scanNumber first rest).2 = (rest.takeWhile Char.isDigit ++
      Number.pointed (fractionDigits (rest.dropWhile Char.isDigit))).length := length_numeral _ _
  have whole := congrArg List.length split
  rw [List.length_append] at whole
  omega

/-- The characters of a number are a numeral of it. -/
theorem exists_numeral_of_scanNumber {first : Char} {rest : List Char}
    (starts : first.isDigit || first == '-' && startsWithDigit rest) :
    ∃ negative whole fraction, whole ≠ [] ∧ (∀ digit ∈ whole ++ fraction, digit.isDigit) ∧
      (scanNumber first rest).1 = .number (Number.ofDigits negative whole fraction) ∧
      first :: rest.take (scanNumber first rest).2 = Number.numeral negative whole fraction := by
  obtain ⟨behind, split⟩ := exists_behind rest
  have digits : ∀ digit ∈ rest.takeWhile Char.isDigit ++ fractionDigits (rest.dropWhile Char.isDigit),
      digit.isDigit := by
    intro digit member
    rcases List.mem_append.mp member with before | after
    · exact isDigit_of_mem_takeWhile before
    · exact isDigit_of_mem_fractionDigits after
  have taken : rest.take (scanNumber first rest).2 =
      rest.takeWhile Char.isDigit ++ Number.pointed (fractionDigits (rest.dropWhile Char.isDigit)) := by
    have count : (scanNumber first rest).2 = (rest.takeWhile Char.isDigit ++
        Number.pointed (fractionDigits (rest.dropWhile Char.isDigit))).length := length_numeral _ _
    rw [count]
    exact (congrArg (List.take _) split).trans List.take_left
  rw [taken]
  by_cases minus : first = '-'
  · subst minus
    refine ⟨true, _, _, ?_, digits, rfl, rfl⟩
    cases rest with
    | nil => cases starts
    | cons second more =>
      have digit : second.isDigit := starts
      rw [List.takeWhile_cons_of_pos digit]
      exact List.cons_ne_nil _ _
  · have digit : first.isDigit := by simpa [minus] using starts
    refine ⟨false, first :: rest.takeWhile Char.isDigit, _, List.cons_ne_nil _ _, ?_, ?_, rfl⟩
    · exact List.forall_mem_cons.mpr ⟨digit, digits⟩
    · rw [scanNumber, if_neg minus]

/-- Numbers are scanned from their numerals. -/
theorem number_of_scan {first : Char} {rest : List Char} {value : Number} {count : Nat}
    (scanned : scan first rest = .ok (.number value, count)) :
    ∃ negative whole fraction, whole ≠ [] ∧ (∀ digit ∈ whole ++ fraction, digit.isDigit) ∧
      value = Number.ofDigits negative whole fraction ∧
      first :: rest.take count = Number.numeral negative whole fraction := by
  generalize same : TokenKind.number value = kind at scanned
  cases scans_of_scan scanned with
  | number starts =>
    obtain ⟨negative, whole, fraction, nonempty, digits, number, taken⟩ := exists_numeral_of_scanNumber starts
    exact ⟨negative, whole, fraction, nonempty, digits, TokenKind.number.inj (same.trans number), taken⟩
  | word => exact absurd same.symm (wordKind_ne (by simp) (by simp [keywords]) _)
  | relation | opening | closing | comma | text => cases same

/-- The text has a number token at the bytes of this numeral. -/
def WritesNumeral (text : String) (negative : Bool) (whole fraction : List Char) : Prop :=
  ∃ token ∈ (tokens text).tokens, token.kind = .number (Number.ofDigits negative whole fraction) ∧
    whole ≠ [] ∧ (∀ digit ∈ whole ++ fraction, digit.isDigit) ∧
    ∃ before behind, text.toList = before ++ Number.numeral negative whole fraction ++ behind ∧
      token.start = Text.byteLength before ∧
      token.stop = token.start + Text.byteLength (Number.numeral negative whole fraction)

/-- A text has a number among its tokens exactly if it has a numeral of the number. -/
theorem number_mem_kinds_iff {text : String} {value : Number} :
    .number value ∈ kinds text ↔ ∃ negative whole fraction,
      WritesNumeral text negative whole fraction ∧ Number.ofDigits negative whole fraction = value := by
  constructor
  · intro member
    obtain ⟨token, among, kind⟩ := List.mem_map.mp member
    obtain ⟨before, first, rest, count, same, start, stop, scanned⟩ := scanned_of_mem among
    rw [kind] at scanned
    obtain ⟨negative, whole, fraction, nonempty, digits, rfl, taken⟩ := number_of_scan scanned
    refine ⟨negative, whole, fraction,
      ⟨token, among, kind, nonempty, digits, before, rest.drop count, ?_, ?_, ?_⟩, rfl⟩
    · rw [same, ← taken, List.append_assoc, List.cons_append, List.take_append_drop]
    · rw [start, Nat.zero_add]
    · rw [stop, taken]
  · rintro ⟨negative, whole, fraction, ⟨token, among, kind, -⟩, rfl⟩
    exact List.mem_map.mpr ⟨token, among, kind⟩

end Lexer

theorem Number.ofDigits_ne_nan (negative : Bool) (whole fraction : List Char) :
    ofDigits negative whole fraction ≠ .nan := by
  unfold ofDigits ofDecimal ofSteps
  intro same
  split at same <;> cases same

private theorem literal?_eq_number_iff {kind : TokenKind} {value : Number} :
    kind.literal? = some (.number value) ↔ kind = .number value := by
  cases kind <;> simp [TokenKind.literal?]

namespace Filter

variable {limits : Limits} {text : String} {filter : Filter}

/-- The numbers among the literals of an accepted filter are those of its numerals. -/
theorem number_mem_literals_iff (accepted : parse limits text = .ok filter) {value : Number} :
    .number value ∈ filter.literals ↔ ∃ negative whole fraction,
      Lexer.WritesNumeral text negative whole fraction ∧ Number.ofDigits negative whole fraction = value := by
  obtain ⟨-, -, nesting, -, derivation⟩ := derives_of_parse accepted
  rw [← Lexer.number_mem_kinds_iff, ← derivation.literals_eq, List.mem_filterMap]
  simp only [literal?_eq_number_iff, exists_eq_right]

/-- No literal of an accepted filter is undefined, and no list is empty. -/
theorem written_of_parse (accepted : parse limits text = .ok filter) {leaf : Comparison}
    (member : leaf ∈ filter.comparisons) :
    leaf.operand.literals ≠ [] ∧ .number .nan ∉ leaf.operand.literals := by
  constructor
  · obtain ⟨-, -, nesting, -, derivation⟩ := derives_of_parse accepted
    obtain ⟨part, -, written⟩ := derivation.writes_of_mem member
    cases written with
    | single => simp [Operand.literals]
    | membership field items => exact items.ne_nil
  · intro undefined
    have among : .number .nan ∈ filter.literals := List.mem_flatMap.mpr ⟨leaf, member, undefined⟩
    obtain ⟨negative, whole, fraction, -, digits⟩ := (number_mem_literals_iff accepted).mp among
    exact Number.ofDigits_ne_nan negative whole fraction digits

end Filter

end RecordQuery
