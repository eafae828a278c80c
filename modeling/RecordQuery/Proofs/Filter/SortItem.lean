import RecordQuery.Filter.SortList
import RecordQuery.Proofs.Filter.Lexing
import RecordQuery.Proofs.Outcome
import RecordQuery.Proofs.Text.Folding

/-! # The items of sort lists

An item is a name between blanks, or a name and a direction in any letter case with a colon between them and
blanks around both. The grammar says which key an item is written for, and for an item of no such form what is
wrong with it; every item is one or the other, and it is read or refused accordingly.
-/

namespace RecordQuery

namespace Name

variable {word : List Char}

theorem isPart_of_isStart {character : Char} (start : isStart character) : isPart character := by
  rw [isStart, Bool.or_eq_true] at start
  rw [isPart, Char.isAlphanum]
  rcases start with alpha | underscore
  · rw [alpha, Bool.true_or, Bool.true_or, Bool.true_or]
  · rw [underscore, Bool.or_true, Bool.true_or]

theorem isPart_of_mem (named : isName word) {character : Char} (member : character ∈ word) :
    isPart character := by
  cases word with
  | nil => cases member
  | cons first rest =>
    rw [isName, Bool.and_eq_true, List.all_eq_true] at named
    rcases List.mem_cons.mp member with rfl | later
    · exact isPart_of_isStart named.1
    · exact named.2 character later

theorem isBlank_of_isPart {character : Char} (part : isPart character) : Text.isBlank character = false := by
  rw [isPart, Char.isAlphanum, Bool.or_eq_true, Bool.or_eq_true, Bool.or_eq_true, beq_iff_eq, beq_iff_eq] at part
  rcases part with ((alpha | digit) | rfl) | rfl
  · have start : isStart character := by rw [isStart, alpha, Bool.true_or]
    have place := Lexer.toNat_of_isStart start
    exact Text.isBlank_of_toNat (by omega) place.2
  · exact Text.isBlank_of_isDigit digit
  · decide
  · decide

theorem solid_of_isName (named : isName word) : ∀ character ∈ word, Text.isBlank character = false :=
  fun _ member => isBlank_of_isPart (isPart_of_mem named member)

end Name

/-- The characters are the core with blanks around it. -/
def Text.Pads (core characters : List Char) : Prop :=
  ∃ left right, characters = left ++ core ++ right ∧ left.all isBlank ∧ right.all isBlank

namespace SortList

/-- The item is written for the key. -/
inductive Writes : List Char → SortKey → Prop where
  | plain {name item : List Char} (padded : Text.Pads name item) (named : Name.isName name) :
      Writes item ⟨String.ofList name, .ascending⟩
  | directed {name word front back : List Char} {direction : Direction} (padded : Text.Pads name front)
      (named : Name.isName name) (wordPadded : Text.Pads word back)
      (worded : word.map Char.toLower = direction.word.toList) :
      Writes (front ++ ':' :: back) ⟨String.ofList name, direction⟩

/-- The item is written for no key, and this is wrong with it: it is blank, there is no name in front of its
first colon, or no direction behind it. -/
inductive Refuses : List Char → SyntaxProblem → Prop where
  | blank {item : List Char} (blank : item.all Text.isBlank) : Refuses item .blankItem
  | name {item : List Char} (visible : ¬ item.all Text.isBlank)
      (unnamed : ¬ Name.isName (Text.trimBoth (item.takeWhile (· != ':')))) :
      Refuses item (.invalidField (String.ofList (Text.trimBoth (item.takeWhile (· != ':')))))
  | direction {front back : List Char} (named : Name.isName (Text.trimBoth front))
      (unknown : ∀ direction : Direction, (Text.trimBoth back).map Char.toLower ≠ direction.word.toList) :
      Refuses (front ++ ':' :: back) (.invalidDirection (String.ofList (Text.trimBoth back))
        (String.ofList (Text.trimBoth front)))

variable {name word item front back characters : List Char} {key : SortKey}

/-! ## Trimming -/

/-- Nothing is trimmed off characters none of which is blank. -/
theorem trimBoth_of_solid (solid : ∀ character ∈ characters, Text.isBlank character = false) :
    Text.trimBoth characters = characters := by
  apply Text.trimBoth_eq_self
  · cases first : characters.head? with
    | none => rfl
    | some character => exact solid character (List.mem_of_head? first)
  · cases last : characters.getLast? with
    | none => rfl
    | some character => exact solid character (List.mem_of_getLast? last)

/-- Letters in any case are no blanks, as the word in lower case has none. -/
theorem solid_of_worded {direction : Direction} (worded : word.map Char.toLower = direction.word.toList) :
    ∀ character ∈ word, Text.isBlank character = false := by
  have solid : (direction.word.toList.any Text.isBlank) = false := by cases direction <;> decide
  intro character member
  rw [← Text.isBlank_toLower, Bool.eq_false_iff]
  exact List.any_eq_false.mp solid _ (worded ▸ List.mem_map_of_mem member)

theorem readDirection?_some_iff {direction : Direction} :
    readDirection? (some word) = some direction ↔ word.map Char.toLower = direction.word.toList := by
  have ascending : Text.equalIgnoringCase (String.ofList word) Direction.ascending.word = true ↔
      word.map Char.toLower = "asc".toList := by
    rw [Text.equalIgnoringCase, String.toList_ofList, beq_iff_eq]
    rfl
  have descending : Text.equalIgnoringCase (String.ofList word) Direction.descending.word = true ↔
      word.map Char.toLower = "desc".toList := by
    rw [Text.equalIgnoringCase, String.toList_ofList, beq_iff_eq]
    rfl
  have different : "asc".toList ≠ "desc".toList := by decide
  simp only [readDirection?, ascending, descending]
  cases direction with
  | ascending => split <;> simp_all [Direction.word]
  | descending =>
    split
    · rename_i same
      simp [Direction.word, same]
    · simp [Direction.word]

/-! ## Parts of an item -/

/-- Blanks around what is not blank at its ends are trimmed off. -/
theorem trimBoth_of_pads (padded : Text.Pads name item)
    (solid : ∀ character ∈ name, Text.isBlank character = false) : Text.trimBoth item = name := by
  obtain ⟨left, right, rfl, blank, behind⟩ := padded
  rw [Text.trimBoth_append_right _ behind, Text.trimBoth_append_left blank, trimBoth_of_solid solid]

theorem pads_trimBoth (item : List Char) : Text.Pads (Text.trimBoth item) item := Text.exists_blanks item

/-- A padded core holds every mark that stands among its blanks. -/
theorem mem_of_pads {mark : Char} (padded : Text.Pads name item) (visible : Text.isBlank mark = false)
    (member : mark ∈ item) : mark ∈ name := by
  obtain ⟨left, right, rfl, blank, behind⟩ := padded
  have outside {blanks : List Char} (all : blanks.all Text.isBlank) : mark ∉ blanks := fun inside => by
    rw [List.all_eq_true.mp all mark inside] at visible
    cases visible
  rcases List.mem_append.mp member with inside | inside
  · exact (List.mem_append.mp inside).resolve_left (outside blank)
  · exact absurd inside (outside behind)

/-- An item without a colon has one part. -/
theorem splitAtColon_of_not_mem (absent : ':' ∉ item) : splitAtColon item = (item, none) := by
  have passed : item.dropWhile (· != ':') = [] :=
    List.dropWhile_eq_nil_iff.mpr fun character member => bne_iff_ne.mpr fun same => absent (same ▸ member)
  rw [splitAtColon, passed]

/-- An item has two parts around its first colon. -/
theorem splitAtColon_append (absent : ':' ∉ front) (back : List Char) :
    splitAtColon (front ++ ':' :: back) = (front, some back) := by
  have passed : ∀ character ∈ front, (character != ':') = true :=
    fun character member => bne_iff_ne.mpr fun same => absent (same ▸ member)
  rw [splitAtColon, Text.dropWhile_run passed rfl, Text.takeWhile_run passed rfl]

theorem takeWhile_append_colon (absent : ':' ∉ front) (back : List Char) :
    (front ++ ':' :: back).takeWhile (· != ':') = front :=
  Text.takeWhile_run (fun _ member => bne_iff_ne.mpr fun same => absent (same ▸ member)) rfl

theorem takeWhile_of_not_mem_colon (absent : ':' ∉ item) : item.takeWhile (· != ':') = item :=
  List.takeWhile_eq_self_iff.mpr fun _ member => bne_iff_ne.mpr fun same => absent (same ▸ member)

/-- The first colon of an item, if there is one. -/
theorem exists_parts (item : List Char) :
    ':' ∉ item ∨ ∃ front back, item = front ++ ':' :: back ∧ ':' ∉ front := by
  by_cases member : ':' ∈ item
  · obtain ⟨front, back, same, absent⟩ := List.eq_append_cons_of_mem member
    exact .inr ⟨front, back, same, absent⟩
  · exact .inl member

/-- What is trimmed off an item is trimmed off its parts as well. -/
theorem splitAtColon_trimBoth (item : List Char) :
    Text.trimBoth (splitAtColon (Text.trimBoth item)).1 = Text.trimBoth (splitAtColon item).1 ∧
      (splitAtColon (Text.trimBoth item)).2.map Text.trimBoth = (splitAtColon item).2.map Text.trimBoth := by
  obtain ⟨left, right, same, blank, behind⟩ := Text.exists_blanks item
  generalize Text.trimBoth item = core at same
  subst same
  have outside {blanks : List Char} (all : blanks.all Text.isBlank) : ':' ∉ blanks :=
    fun inside => absurd (List.all_eq_true.mp all ':' inside) (by decide)
  rcases exists_parts core with absent | ⟨first, second, rfl, absent⟩
  · rw [splitAtColon_of_not_mem absent, splitAtColon_of_not_mem (by simp [absent, outside blank, outside behind])]
    exact ⟨by rw [Text.trimBoth_append_right _ behind, Text.trimBoth_append_left blank], rfl⟩
  · have parts : left ++ (first ++ ':' :: second) ++ right = (left ++ first) ++ ':' :: (second ++ right) := by simp
    rw [parts, splitAtColon_append absent, splitAtColon_append (by simp [absent, outside blank])]
    exact ⟨(Text.trimBoth_append_left blank first).symm,
      congrArg some (Text.trimBoth_append_right second behind).symm⟩

/-! ## Reading an item -/

/-- A visible item without a name in front of its colon is refused. -/
theorem readTrimmed_of_unnamed (visible : ¬ item.all Text.isBlank)
    (unnamed : ¬ Name.isName (Text.trimBoth (splitAtColon item).1)) : readTrimmed (Text.trimBoth item) =
      .error (.invalidField (String.ofList (Text.trimBoth (splitAtColon item).1))) := by
  have nonempty : Text.trimBoth item ≠ [] := mt Text.trimBoth_eq_nil_iff.mp visible
  simp only [readTrimmed, if_neg nonempty, (splitAtColon_trimBoth item).1, if_pos unnamed]

/-- An item with a name is read as a key, if it has a direction behind its colon or no colon. -/
theorem readTrimmed_of_direction {direction : Direction} (visible : ¬ item.all Text.isBlank)
    (named : Name.isName (Text.trimBoth (splitAtColon item).1))
    (read : readDirection? ((splitAtColon item).2.map Text.trimBoth) = some direction) :
    readTrimmed (Text.trimBoth item) =
      .ok ⟨String.ofList (Text.trimBoth (splitAtColon item).1), direction⟩ := by
  have nonempty : Text.trimBoth item ≠ [] := mt Text.trimBoth_eq_nil_iff.mp visible
  obtain ⟨sameName, sameWord⟩ := splitAtColon_trimBoth item
  simp only [readTrimmed, if_neg nonempty, sameName, sameWord, if_neg (not_not_intro named), read]

/-- An item with a name is refused, if what is behind its colon is no direction. -/
theorem readTrimmed_of_no_direction (visible : ¬ item.all Text.isBlank)
    (named : Name.isName (Text.trimBoth (splitAtColon item).1))
    (unread : readDirection? ((splitAtColon item).2.map Text.trimBoth) = none) :
    readTrimmed (Text.trimBoth item) =
      .error (.invalidDirection (String.ofList (((splitAtColon item).2.map Text.trimBoth).getD []))
        (String.ofList (Text.trimBoth (splitAtColon item).1))) := by
  have nonempty : Text.trimBoth item ≠ [] := mt Text.trimBoth_eq_nil_iff.mp visible
  obtain ⟨sameName, sameWord⟩ := splitAtColon_trimBoth item
  simp only [readTrimmed, if_neg nonempty, sameName, sameWord, if_neg (not_not_intro named), unread]

theorem colon_not_mem_of_isName (named : Name.isName name) : ':' ∉ name :=
  fun member => absurd (Name.isPart_of_mem named member) (by decide)

theorem not_all_isBlank_append_colon : ¬ (front ++ ':' :: back).all Text.isBlank :=
  fun blank => absurd (List.all_eq_true.mp blank ':' (by simp)) (by decide)

/-- A padded name is visible. -/
theorem not_all_isBlank_of_pads (padded : Text.Pads name item) (named : Name.isName name) :
    ¬ item.all Text.isBlank := by
  intro blank
  have same := trimBoth_of_pads padded (Name.solid_of_isName named)
  rw [Text.trimBoth_eq_nil_iff.mpr blank] at same
  subst same
  cases named

/-- An item that is written for a key is read as this key. -/
theorem readTrimmed_of_writes (writes : Writes item key) : readTrimmed (Text.trimBoth item) = .ok key := by
  cases writes with
  | @plain name _ padded named =>
    have absent : ':' ∉ item := fun member => colon_not_mem_of_isName named (mem_of_pads padded rfl member)
    have parts := splitAtColon_of_not_mem absent
    have namePart : Text.trimBoth (splitAtColon item).1 = name := by
      rw [parts, trimBoth_of_pads padded (Name.solid_of_isName named)]
    have read : readDirection? ((splitAtColon item).2.map Text.trimBoth) = some .ascending := by
      rw [parts, Option.map_none, readDirection?]
    rw [readTrimmed_of_direction (not_all_isBlank_of_pads padded named) (namePart ▸ named) read, namePart]
  | @directed name word front back direction padded named wordPadded worded =>
    have absent : ':' ∉ front := fun member => colon_not_mem_of_isName named (mem_of_pads padded rfl member)
    have parts := splitAtColon_append absent back
    have namePart : Text.trimBoth (splitAtColon (front ++ ':' :: back)).1 = name := by
      rw [parts, trimBoth_of_pads padded (Name.solid_of_isName named)]
    have read : readDirection? ((splitAtColon (front ++ ':' :: back)).2.map Text.trimBoth) = some direction := by
      rw [parts, Option.map_some, trimBoth_of_pads wordPadded (solid_of_worded worded),
        readDirection?_some_iff.mpr worded]
    rw [readTrimmed_of_direction not_all_isBlank_append_colon (namePart ▸ named) read, namePart]

theorem splitAtColon_fst (item : List Char) : (splitAtColon item).1 = item.takeWhile (· != ':') := by
  rcases exists_parts item with absent | ⟨front, back, rfl, absent⟩
  · rw [splitAtColon_of_not_mem absent, takeWhile_of_not_mem_colon absent]
  · rw [splitAtColon_append absent, takeWhile_append_colon absent]

/-- An item with which something is wrong is refused for it. -/
theorem readTrimmed_of_refuses {problem : SyntaxProblem} (refuses : Refuses item problem) :
    readTrimmed (Text.trimBoth item) = .error problem := by
  cases refuses with
  | blank blank =>
    rw [Text.trimBoth_eq_nil_iff.mpr blank]
    rfl
  | name visible unnamed =>
    rw [← splitAtColon_fst] at unnamed ⊢
    exact readTrimmed_of_unnamed visible unnamed
  | @direction front back named unknown =>
    have absent : ':' ∉ front :=
      fun member => colon_not_mem_of_isName named (mem_of_pads (pads_trimBoth front) rfl member)
    have parts := splitAtColon_append absent back
    have unread : readDirection? ((splitAtColon (front ++ ':' :: back)).2.map Text.trimBoth) = none := by
      rw [parts, Option.map_some, Option.eq_none_iff_forall_ne_some]
      exact fun direction read => unknown direction (readDirection?_some_iff.mp read)
    rw [readTrimmed_of_no_direction not_all_isBlank_append_colon (by rwa [parts]) unread, parts]
    rfl

/-- Every item is written for a key, or something is wrong with it. -/
theorem writes_or_refuses (item : List Char) : (∃ key, Writes item key) ∨ ∃ problem, Refuses item problem := by
  by_cases blank : item.all Text.isBlank
  · exact .inr ⟨_, .blank blank⟩
  by_cases named : Name.isName (Text.trimBoth (item.takeWhile (· != ':')))
  · rcases exists_parts item with absent | ⟨front, back, rfl, absent⟩
    · rw [takeWhile_of_not_mem_colon absent] at named
      exact .inl ⟨_, .plain (pads_trimBoth item) named⟩
    · rw [takeWhile_append_colon absent] at named
      by_cases known : ∃ direction : Direction, (Text.trimBoth back).map Char.toLower = direction.word.toList
      · obtain ⟨direction, worded⟩ := known
        exact .inl ⟨_, .directed (pads_trimBoth front) named (pads_trimBoth back) worded⟩
      · exact .inr ⟨_, .direction named (not_exists.mp known)⟩
  · exact .inr ⟨_, .name blank named⟩

variable {offset : Nat} {error : SyntaxError}

theorem readItem_eq_ok_iff : readItem offset item = .ok key ↔ Writes item key := by
  rw [readItem, Outcome.mapError_eq_ok_iff]
  refine ⟨fun read => ?_, readTrimmed_of_writes⟩
  rcases writes_or_refuses item with ⟨other, writes⟩ | ⟨problem, refuses⟩
  · rw [readTrimmed_of_writes writes] at read
    cases read
    exact writes
  · rw [readTrimmed_of_refuses refuses] at read
    cases read

/-- An item is refused for what is wrong with it, at the byte where it begins to be visible. -/
theorem readItem_eq_error_iff : readItem offset item = .error error ↔
    Refuses item error.problem ∧ error.position = offset + Text.byteLength (item.takeWhile Text.isBlank) := by
  obtain ⟨position, problem⟩ := error
  rcases writes_or_refuses item with ⟨key, writes⟩ | ⟨found, refuses⟩
  · have read := readTrimmed_of_writes writes
    refine iff_of_false (fun refused => ?_) fun ⟨refuses, _⟩ => ?_
    · rw [readItem_eq_ok_iff.mpr writes] at refused
      cases refused
    · rw [readTrimmed_of_refuses refuses] at read
      cases read
  · have read := readTrimmed_of_refuses refuses
    have item : readItem offset item = .error ⟨offset + Text.byteLength (item.takeWhile Text.isBlank), found⟩ := by
      rw [readItem, read]
      rfl
    rw [item]
    constructor
    · rintro ⟨⟩
      exact ⟨refuses, rfl⟩
    · rintro ⟨other, rfl⟩
      rw [readTrimmed_of_refuses other] at read
      cases read
      rfl

end SortList

end RecordQuery
