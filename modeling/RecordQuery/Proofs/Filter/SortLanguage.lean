import RecordQuery.Proofs.Filter.SortItem

/-! # The language of sort lists

A sort list is written as items between commas. A text is read as the keys of its items, or refused for the
first item that is written for no key, where this item begins to be visible.
-/

namespace RecordQuery.SortList

/-- The item stands in the characters behind others, each of which has its comma, and ends at a comma or at the
end. -/
def Stands (characters : List Char) (front : List (List Char)) (item : List Char) : Prop :=
  ∃ back, characters = front.flatMap (· ++ [',']) ++ item ++ back ∧ ',' ∉ item ∧
    (back = [] ∨ back.head? = some ',')

variable {item characters : List Char} {key : SortKey} {offset : Nat} {error : SyntaxError}

/-! ## Items of a text -/

theorem items_ne_nil (characters : List Char) : items characters ≠ [] := by
  cases characters with
  | nil => exact List.cons_ne_nil _ _
  | cons first rest =>
    rw [items]
    split
    · exact List.cons_ne_nil _ _
    · split <;> exact List.cons_ne_nil _ _

theorem items_of_ne_comma {first : Char} (plain : first ≠ ',') (rest : List Char) :
    items (first :: rest) = (items rest).modifyHead (first :: ·) := by
  rw [items, if_neg plain]
  split
  · rename_i none
    exact absurd none (items_ne_nil rest)
  · rename_i found
    rw [found, List.modifyHead_cons]

theorem items_eq_splitOn (characters : List Char) : items characters = characters.splitOn ',' := by
  induction characters with
  | nil => rfl
  | cons first rest ih =>
    rw [List.splitOn] at ih ⊢
    rw [List.splitOnP_cons_eq_if_modifyHead, ← ih]
    by_cases comma : first = ','
    · rw [items, if_pos comma, if_pos (beq_iff_eq.mpr comma)]
    · rw [items_of_ne_comma comma, if_neg (mt beq_iff_eq.mp comma)]

/-- The items of a text make up the text again. -/
theorem intercalate_items (characters : List Char) : [','].intercalate (items characters) = characters := by
  rw [items_eq_splitOn, List.intercalate_splitOn]

/-- Items without commas are found again. -/
theorem items_intercalate {parts : List (List Char)} (absent : ∀ part ∈ parts, ',' ∉ part) (nonempty : parts ≠ []) :
    items ([','].intercalate parts) = parts := by
  rw [items_eq_splitOn, List.splitOn_intercalate ',' absent nonempty]

/-- No item holds a comma. -/
theorem comma_not_mem_of_mem_items (member : item ∈ items characters) : ',' ∉ item := by
  induction characters generalizing item with
  | nil =>
    rw [List.mem_singleton.mp member]
    exact List.not_mem_nil
  | cons first rest ih =>
    by_cases comma : first = ','
    · rw [items, if_pos comma] at member
      rcases List.mem_cons.mp member with rfl | later
      · exact List.not_mem_nil
      · exact ih later
    · rw [items_of_ne_comma comma] at member
      cases found : items rest with
      | nil => exact absurd found (items_ne_nil rest)
      | cons leading more =>
        rw [found, List.modifyHead_cons] at member
        rw [found] at ih
        rcases List.mem_cons.mp member with rfl | later
        · exact fun inside => (List.mem_cons.mp inside).elim (fun same => comma same.symm) (ih List.mem_cons_self)
        · exact ih (List.mem_cons_of_mem _ later)

/-- An item ends at the first comma. -/
theorem items_append_comma (absent : ',' ∉ item) (behind : List Char) :
    items (item ++ ',' :: behind) = item :: items behind := by
  have whole : item ++ ',' :: behind = [','].intercalate (item :: items behind) := by
    rw [List.intercalate_cons_of_ne_nil (items_ne_nil behind), intercalate_items, List.append_assoc,
      List.singleton_append]
  rw [whole, items_intercalate _ (List.cons_ne_nil _ _)]
  exact List.forall_mem_cons.mpr ⟨absent, fun _ => comma_not_mem_of_mem_items⟩

/-- An item without a comma is the only one. -/
theorem items_of_not_mem (absent : ',' ∉ item) : items item = [item] := by
  have single : items ([','].intercalate [item]) = [item] :=
    items_intercalate (List.forall_mem_singleton.mpr absent) (List.cons_ne_nil _ _)
  rwa [List.intercalate_singleton] at single

/-- The first item is the whole text or ends at a comma. -/
theorem exists_behind {more : List (List Char)} (found : items characters = item :: more) :
    characters = item ∧ more = [] ∨ ∃ behind, characters = item ++ ',' :: behind ∧ items behind = more := by
  have whole := intercalate_items characters
  rw [found] at whole
  cases more with
  | nil =>
    rw [List.intercalate_singleton] at whole
    exact .inl ⟨whole.symm, rfl⟩
  | cons second rest =>
    refine .inr ⟨[','].intercalate (second :: rest), ?_, items_intercalate ?_ (List.cons_ne_nil _ _)⟩
    · rw [← whole, List.intercalate_cons_cons, List.append_assoc, List.singleton_append]
    · exact fun part member => comma_not_mem_of_mem_items (found ▸ List.mem_cons_of_mem item member)

/-- Behind other items, an item of a text stands where they end. -/
theorem exists_items_iff {front : List (List Char)} (absent : ∀ part ∈ front, ',' ∉ part) :
    (∃ back, items characters = front ++ item :: back) ↔ Stands characters front item := by
  induction front generalizing characters with
  | nil =>
    constructor
    · rintro ⟨more, found⟩
      rw [List.nil_append] at found
      have plain : ',' ∉ item := comma_not_mem_of_mem_items (found ▸ List.mem_cons_self)
      rcases exists_behind found with ⟨rfl, -⟩ | ⟨behind, rfl, -⟩
      · exact ⟨[], (List.append_nil _).symm, plain, .inl rfl⟩
      · exact ⟨',' :: behind, rfl, plain, .inr rfl⟩
    · rintro ⟨back, rfl, plain, ends⟩
      cases back with
      | nil => exact ⟨[], by rw [List.append_nil]; exact items_of_not_mem plain⟩
      | cons first behind =>
        obtain rfl : first = ',' := by simpa using ends
        exact ⟨items behind, items_append_comma plain behind⟩
  | cons part front ih =>
    obtain ⟨plainPart, plainFront⟩ := List.forall_mem_cons.mp absent
    constructor
    · rintro ⟨more, found⟩
      rcases exists_behind found with ⟨-, empty⟩ | ⟨behind, rfl, rest⟩
      · simp at empty
      · obtain ⟨back, rfl, plain, ends⟩ := (ih plainFront).mp ⟨more, rest⟩
        exact ⟨back, by simp, plain, ends⟩
    · rintro ⟨back, rfl, plain, ends⟩
      obtain ⟨more, found⟩ := (ih plainFront).mpr ⟨back, rfl, plain, ends⟩
      refine ⟨more, ?_⟩
      have parted : (part :: front).flatMap (· ++ [',']) ++ item ++ back =
          part ++ ',' :: (front.flatMap (· ++ [',']) ++ item ++ back) := by simp
      rw [parted, items_append_comma plainPart, found, List.cons_append]

/-! ## Reading a text -/

theorem comma_not_mem_of_writes (writes : Writes item key) : ',' ∉ item := by
  have name {word : List Char} (named : Name.isName word) : ',' ∉ word :=
    fun member => absurd (Name.isPart_of_mem named member) (by decide)
  cases writes with
  | plain padded named => exact fun member => name named (mem_of_pads padded rfl member)
  | @directed _ word front back direction padded named wordPadded worded =>
    intro member
    rcases List.mem_append.mp member with before | behind
    · exact name named (mem_of_pads padded rfl before)
    · have inside := mem_of_pads wordPadded rfl ((List.mem_cons.mp behind).resolve_left (by decide))
      have letter : ',' ∈ direction.word.toList := worded ▸ List.mem_map_of_mem (f := Char.toLower) inside
      cases direction <;> exact absurd letter (by decide)

/-- Items are read if each of them is written for a key. -/
theorem readItems_eq_ok_iff {parts : List (List Char)} {keys : List SortKey} :
    readItems offset parts = .ok keys ↔ List.Forall₂ Writes parts keys := by
  induction parts generalizing offset keys with
  | nil =>
    rw [readItems, List.forall₂_nil_left_iff, Except.ok.injEq, eq_comm]
  | cons item more ih =>
    rw [readItems]
    simp only [Outcome.bind_eq_ok_iff, Outcome.pure_eq_ok_iff, readItem_eq_ok_iff, ih, List.forall₂_cons_left_iff]
    constructor
    · rintro ⟨key, writes, others, rest, rfl⟩
      exact ⟨key, others, writes, rest, rfl⟩
    · rintro ⟨key, others, writes, rest, rfl⟩
      exact ⟨key, writes, others, rest, rfl⟩

/-- The bytes in front of an item are those of the items before it, each with its comma. -/
theorem byteLength_flatMap_cons (item : List Char) (front : List (List Char)) (blanks : List Char) :
    Text.byteLength ((item :: front).flatMap (· ++ [',']) ++ blanks) =
      Text.byteLength item + 1 + Text.byteLength (front.flatMap (· ++ [',']) ++ blanks) := by
  rw [List.flatMap_cons, List.append_assoc, Text.byteLength_append, Text.byteLength_append]
  rfl

/-- Items are refused for the first one that is written for no key. -/
theorem readItems_eq_error_iff {parts : List (List Char)} : readItems offset parts = .error error ↔
    ∃ front item back, parts = front ++ item :: back ∧ (∀ earlier ∈ front, ∃ key, Writes earlier key) ∧
      Refuses item error.problem ∧ error.position =
        offset + Text.byteLength (front.flatMap (· ++ [',']) ++ item.takeWhile Text.isBlank) := by
  induction parts generalizing offset with
  | nil => simp [readItems]
  | cons item more ih =>
    rw [readItems]
    simp only [Outcome.bind_eq_error_iff, Outcome.pure_ne_error, and_false, exists_false, or_false,
      readItem_eq_ok_iff, readItem_eq_error_iff, ih]
    constructor
    · rintro (⟨refuses, position⟩ | ⟨key, writes, front, culprit, back, rfl, passed, refuses, position⟩)
      · exact ⟨[], item, more, rfl, List.forall_mem_nil _, refuses, position⟩
      · refine ⟨item :: front, culprit, back, rfl, List.forall_mem_cons.mpr ⟨⟨key, writes⟩, passed⟩, refuses, ?_⟩
        rw [byteLength_flatMap_cons]
        omega
    · rintro ⟨front, culprit, back, split, passed, refuses, position⟩
      cases front with
      | nil =>
        obtain ⟨rfl, rfl⟩ := List.cons.inj split
        exact .inl ⟨refuses, position⟩
      | cons first front =>
        obtain ⟨rfl, rfl⟩ := List.cons.inj split
        obtain ⟨⟨key, writes⟩, earlier⟩ := List.forall_mem_cons.mp passed
        refine .inr ⟨key, writes, front, culprit, back, rfl, earlier, refuses, ?_⟩
        rw [byteLength_flatMap_cons] at position
        omega

/-- Nothing is wrong with an item that is written for a key. -/
theorem not_writes_of_refuses {problem : SyntaxProblem} (refuses : Refuses item problem) (key : SortKey) :
    ¬ Writes item key := by
  intro writes
  have read := readTrimmed_of_writes writes
  rw [readTrimmed_of_refuses refuses] at read
  cases read

theorem comma_not_mem_of_exists_writes {front : List (List Char)}
    (passed : ∀ earlier ∈ front, ∃ key, Writes earlier key) : ∀ part ∈ front, ',' ∉ part := by
  intro part member
  obtain ⟨key, writes⟩ := passed part member
  exact comma_not_mem_of_writes writes

/-- A text that is not blank is read as the keys of its items. -/
theorem parse_eq_ok_iff {text : String} {keys : List SortKey} (visible : ¬ text.toList.all Text.isBlank) :
    parse text = .ok keys ↔ ∃ items, text.toList = [','].intercalate items ∧ List.Forall₂ Writes items keys := by
  rw [parse, if_neg visible, readItems_eq_ok_iff]
  constructor
  · exact fun written => ⟨_, (intercalate_items _).symm, written⟩
  · rintro ⟨parts, whole, written⟩
    have nonempty : parts ≠ [] := by
      rintro rfl
      rw [whole] at visible
      exact visible rfl
    have plain : ∀ part ∈ parts, ',' ∉ part := by
      refine comma_not_mem_of_exists_writes fun part member => ?_
      obtain ⟨key, -, writes⟩ := Outcome.exists_left_of_mem written.flip member
      exact ⟨key, writes⟩
    rwa [whole, items_intercalate plain nonempty]

/-- A text is refused for the first of its items that is written for no key. -/
theorem parse_eq_error_iff {text : String} {error : SyntaxError} : parse text = .error error ↔
    ¬ text.toList.all Text.isBlank ∧ ∃ front item, Stands text.toList front item ∧
      (∀ earlier ∈ front, ∃ key, Writes earlier key) ∧ Refuses item error.problem ∧
      error.position = Text.byteLength (front.flatMap (· ++ [',']) ++ item.takeWhile Text.isBlank) := by
  by_cases blank : text.toList.all Text.isBlank
  · rw [parse, if_pos blank]
    simp [blank]
  rw [parse, if_neg blank, readItems_eq_error_iff, and_iff_right blank]
  constructor
  · rintro ⟨front, item, back, found, passed, refuses, position⟩
    exact ⟨front, item, (exists_items_iff (comma_not_mem_of_exists_writes passed)).mp ⟨back, found⟩, passed, refuses,
      position.trans (Nat.zero_add _)⟩
  · rintro ⟨front, item, stands, passed, refuses, position⟩
    obtain ⟨back, found⟩ := (exists_items_iff (comma_not_mem_of_exists_writes passed)).mpr stands
    exact ⟨front, item, back, found, passed, refuses, position.trans (Nat.zero_add _).symm⟩

/-- A blank text is an empty sort list. Any other text is read exactly if it is a sequence of items between
commas that are each written for a key, and then as these keys in order. Otherwise it is refused for what is
wrong with the first item that is written for no key, at the byte offset in the text of the first character of
this item that is not blank, or of its end. -/
theorem parse_reads_language (text : String) :
    (text.toList.all Text.isBlank → parse text = .ok []) ∧
    (¬ text.toList.all Text.isBlank →
      (∀ keys, parse text = .ok keys ↔
        ∃ items, text.toList = [','].intercalate items ∧ List.Forall₂ Writes items keys) ∧
      ∀ error, parse text = .error error ↔
        ∃ front item, Stands text.toList front item ∧
          (∀ earlier ∈ front, ∃ key, Writes earlier key) ∧ (∀ key, ¬ Writes item key) ∧
          Refuses item error.problem ∧
          error.position = Text.byteLength (front.flatMap (· ++ [',']) ++ item.takeWhile Text.isBlank)) := by
  refine ⟨fun blank => by rw [parse, if_pos blank],
    fun visible => ⟨fun keys => parse_eq_ok_iff visible, fun error => ?_⟩⟩
  rw [parse_eq_error_iff, and_iff_right visible]
  constructor
  · rintro ⟨front, item, stands, passed, refuses, position⟩
    exact ⟨front, item, stands, passed, not_writes_of_refuses refuses, refuses, position⟩
  · rintro ⟨front, item, stands, passed, -, refuses, position⟩
    exact ⟨front, item, stands, passed, refuses, position⟩

/-- The second item has no name; it begins behind ten bytes and a blank of three bytes. -/
example : parse "name:DESC,\u2003:asc" = .error ⟨13, .invalidField ""⟩ := by decide

end RecordQuery.SortList
