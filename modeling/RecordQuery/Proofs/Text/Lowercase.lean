import RecordQuery.Proofs.Text.Digits
import RecordQuery.Proofs.Text.Folding

/-! # Folding a folded name

A text in lower case is its own lower case, although a letter may become two characters and a sigma depends on its
neighbours: what lower case writes has no other lower case, wherever it stands. Blanks have no case and no letter
becomes one, so that nothing is trimmed off a folded name. A folded name is therefore its own folded form. The table
of letters is checked block against block, which takes a comparison for each two blocks and no letter of them.
-/

namespace RecordQuery.Text

namespace CaseBlock

variable {block other : CaseBlock} {code : Nat}

/-- The lower case letters of a block, as a block of their own. -/
def image (block : CaseBlock) : CaseBlock :=
  ⟨(block.first + block.shift).toNat, (block.last + block.shift).toNat, block.step, 0⟩

/-- A block lies in front of another one, behind it, or between its characters. -/
def isApart (block other : CaseBlock) : Bool :=
  Nat.blt block.last other.first || Nat.blt other.last block.first ||
    other.step == 2 && (block.step == 2 || block.first == block.last) && (block.first + other.first) % 2 == 1

theorem covers_iff : block.covers code ↔
    block.first ≤ code ∧ code ≤ block.last ∧ (code - block.first) % block.step = 0 := by
  simp only [covers, Bool.and_eq_true, decide_eq_true_eq, beq_iff_eq, and_assoc]

theorem not_covers_of_isApart (apart : block.isApart other) (covered : block.covers code) :
    other.covers code = false := by
  rw [Bool.eq_false_iff, ne_eq, covers_iff]
  rintro ⟨least, most, step⟩
  obtain ⟨first, last, own⟩ := covers_iff.mp covered
  simp only [isApart, Bool.or_eq_true, Bool.and_eq_true, Nat.blt_eq, beq_iff_eq] at apart
  rcases apart with (front | behind) | ⟨⟨otherStep, two | single⟩, odd⟩
  · omega
  · omega
  · rw [two] at own
    rw [otherStep] at step
    omega
  · rw [otherStep] at step
    omega

theorem covers_image (positive : 0 ≤ block.first + block.shift) (covered : block.covers code) :
    block.image.covers (code + block.shift).toNat := by
  obtain ⟨first, last, step⟩ := covers_iff.mp covered
  have moved : (code + block.shift).toNat - (block.first + block.shift).toNat = code - block.first := by omega
  rw [covers_iff, image]
  dsimp only
  rw [moved]
  exact ⟨by omega, by omega, step⟩

end CaseBlock

/-- Blanks, the dotted capital I and code points without a character, as blocks without case. -/
def caselessBlocks : List CaseBlock :=
  blankRanges.map (fun (first, last) => ⟨first, last, 1, 0⟩) ++ [⟨304, 304, 1, 0⟩, ⟨0xD800, 0xDFFF, 1, 0⟩]

/-- No lower case letter of a block lies in a block. -/
theorem isApart_image : caseBlocks.all fun block =>
    0 ≤ block.first + block.shift && block.image.last < 0x110000 &&
      (caselessBlocks ++ caseBlocks).all block.image.isApart := by decide +kernel

variable {character : Char} {before characters : List Char}

/-- A character is its own lower case letter, or its letter lies in no block. -/
theorem lowerLetter_eq_self_or (character : Char) : lowerLetter character = character ∨
    ∀ block ∈ caselessBlocks ++ caseBlocks, block.covers (lowerLetter character).toNat = false := by
  unfold lowerLetter
  split
  · rename_i block found
    right
    have checked := List.all_eq_true.mp isApart_image block (List.mem_of_find?_eq_some found)
    simp only [Bool.and_eq_true, decide_eq_true_eq] at checked
    obtain ⟨⟨positive, most⟩, apart⟩ := checked
    have within : block.covers character.toNat = true :=
      List.find?_some (p := fun (other : CaseBlock) => other.covers character.toNat) found
    have covered := CaseBlock.covers_image positive within
    have outside : ∀ other ∈ caselessBlocks ++ caseBlocks,
        other.covers (character.toNat + block.shift).toNat = false := fun other member =>
      CaseBlock.not_covers_of_isApart (List.all_eq_true.mp apart other member) covered
    have bound := (CaseBlock.covers_iff.mp covered).2.1
    have noSurrogate := outside ⟨0xD800, 0xDFFF, 1, 0⟩ (by decide)
    rw [Bool.eq_false_iff, ne_eq, CaseBlock.covers_iff, Nat.mod_one] at noSurrogate
    dsimp only at noSurrogate
    have valid : Nat.isValidChar (character.toNat + block.shift).toNat := by
      unfold Nat.isValidChar
      omega
    have same : (Char.ofNat (character.toNat + block.shift).toNat).toNat = (character.toNat + block.shift).toNat := by
      rw [Char.ofNat, dif_pos valid]
      rfl
    rwa [same]
  · exact .inl rfl

/-- A lower case letter has no other lower case. -/
theorem lowerLetter_lowerLetter (character : Char) : lowerLetter (lowerLetter character) = lowerLetter character := by
  rcases lowerLetter_eq_self_or character with same | outside
  · rw [same]
    exact same
  · have unlisted : caseBlocks.find? (·.covers (lowerLetter character).toNat) = none :=
      List.find?_eq_none.mpr fun block member =>
        Bool.eq_false_iff.mp (outside block (List.mem_append_right _ member))
    rw [lowerLetter.eq_def (lowerLetter character), unlisted]

theorem lowerLetter_ne_dotted (undotted : character ≠ 'İ') : lowerLetter character ≠ 'İ' := by
  rcases lowerLetter_eq_self_or character with same | outside
  · rwa [same]
  · intro dotted
    have covered := outside ⟨304, 304, 1, 0⟩ (by decide)
    rw [dotted] at covered
    exact absurd covered (by decide)

theorem isBlank_lowerLetter (solid : isBlank character = false) : isBlank (lowerLetter character) = false := by
  rcases lowerLetter_eq_self_or character with same | outside
  · rwa [same]
  · rw [isBlank, inRanges, List.any_eq_false]
    rintro ⟨first, last⟩ member inside
    have covered := outside ⟨first, last, 1, 0⟩
      (List.mem_append_left _ (List.mem_append_left _ (List.mem_map_of_mem member)))
    rw [Bool.eq_false_iff, ne_eq, CaseBlock.covers_iff] at covered
    simp only [Bool.and_eq_true, decide_eq_true_eq] at inside
    exact covered ⟨inside.1, inside.2, Nat.mod_one _⟩

/-- The character is in lower case, whatever stands beside it. -/
def IsLower (character : Char) : Prop := lowerLetter character = character ∧ character ≠ 'İ'

/-- A letter is lowered to one or two characters of its own, none of them a blank for what is no blank. -/
theorem exists_lowered (before : List Char) (first : Char) (after : List Char) :
    ∃ lowered, lowerFrom before (first :: after) = lowered ++ lowerFrom (first :: before) after ∧ lowered ≠ [] ∧
      (∀ character ∈ lowered, IsLower character) ∧
      (isBlank first = false → ∀ character ∈ lowered, isBlank character = false) := by
  by_cases sigma : first = 'Σ'
  · refine ⟨[lowerSigma before after], by rw [lowerFrom, if_pos sigma], List.cons_ne_nil _ _, ?_, ?_⟩
    all_goals
      unfold lowerSigma
      split <;> simp only [List.forall_mem_singleton]
    · exact ⟨by decide +kernel, by decide⟩
    · exact ⟨by decide +kernel, by decide⟩
    · exact fun _ => by decide
    · exact fun _ => by decide
  · by_cases dotted : first = 'İ'
    · refine ⟨['i', '\u0307'], by rw [lowerFrom, if_neg sigma, if_pos dotted], List.cons_ne_nil _ _, ?_, ?_⟩
      · exact List.forall_mem_cons.mpr ⟨⟨by decide +kernel, by decide⟩,
          List.forall_mem_singleton.mpr ⟨by decide +kernel, by decide⟩⟩
      · exact fun _ => List.forall_mem_cons.mpr ⟨by decide, List.forall_mem_singleton.mpr (by decide)⟩
    · refine ⟨[lowerLetter first], by rw [lowerFrom, if_neg sigma, if_neg dotted], List.cons_ne_nil _ _, ?_, ?_⟩
      · rw [List.forall_mem_singleton]
        exact ⟨lowerLetter_lowerLetter first, lowerLetter_ne_dotted dotted⟩
      · intro solid
        rw [List.forall_mem_singleton]
        exact isBlank_lowerLetter solid

theorem isLower_of_mem_lowerFrom (member : character ∈ lowerFrom before characters) : IsLower character := by
  induction characters generalizing before with
  | nil => cases member
  | cons first rest ih =>
    obtain ⟨lowered, whole, -, lower, -⟩ := exists_lowered before first rest
    rw [whole, List.mem_append] at member
    exact member.elim (lower character) ih

/-- Characters in lower case stay as they are. -/
theorem lowerFrom_of_isLower (lower : ∀ character ∈ characters, IsLower character) :
    lowerFrom before characters = characters := by
  induction characters generalizing before with
  | nil => rfl
  | cons first rest ih =>
    obtain ⟨⟨same, undotted⟩, others⟩ := List.forall_mem_cons.mp lower
    have noSigma : first ≠ 'Σ' := by
      rintro rfl
      exact absurd same (by decide +kernel)
    rw [lowerFrom, if_neg noSigma, if_neg undotted, same, ih others]
    rfl

theorem lowercase_lowercase (text : String) : lowercase (lowercase text) = lowercase text := by
  rw [lowercase, lowercase, String.toList_ofList]
  exact congrArg String.ofList (lowerFrom_of_isLower fun _ => isLower_of_mem_lowerFrom)

/-! ## Blanks at the ends -/

theorem head?_lowerFrom (solid : characters.head?.any isBlank = false) :
    (lowerFrom before characters).head?.any isBlank = false := by
  cases characters with
  | nil => rfl
  | cons first rest =>
    obtain ⟨lowered, whole, nonempty, -, kept⟩ := exists_lowered before first rest
    obtain ⟨other, others, rfl⟩ := List.exists_cons_of_ne_nil nonempty
    rw [whole]
    exact kept solid other List.mem_cons_self

theorem getLast?_lowerFrom (solid : characters.getLast?.any isBlank = false) :
    (lowerFrom before characters).getLast?.any isBlank = false := by
  induction characters generalizing before with
  | nil => rfl
  | cons first rest ih =>
    obtain ⟨lowered, whole, nonempty, -, kept⟩ := exists_lowered before first rest
    rw [whole]
    cases rest with
    | nil =>
      rw [lowerFrom, List.append_nil, List.getLast?_eq_some_getLast nonempty]
      exact kept solid _ (List.getLast_mem nonempty)
    | cons second more =>
      obtain ⟨behind, next, filled, -⟩ := exists_lowered (first :: before) second more
      have visible : lowerFrom (first :: before) (second :: more) ≠ [] := by
        rw [next]
        exact List.append_ne_nil_of_left_ne_nil filled _
      rw [List.getLast?_append_of_ne_nil _ visible]
      exact ih solid

theorem head?_trimBoth (characters : List Char) : (trimBoth characters).head?.any isBlank = false := by
  cases trimmed : trimBoth characters with
  | nil => rfl
  | cons first rest =>
    obtain ⟨back, whole⟩ := List.rdropWhile_prefix isBlank (trimLeft characters)
    have starts := List.head?_dropWhile_not isBlank characters
    rw [← trimRight_eq, ← trimBoth, trimmed, trimLeft] at whole
    rw [← whole] at starts
    exact starts

theorem getLast?_trimBoth (characters : List Char) : (trimBoth characters).getLast?.any isBlank = false := by
  by_cases empty : trimBoth characters = []
  · rw [empty]
    rfl
  · rw [List.getLast?_eq_some_getLast empty]
    exact Bool.eq_false_iff.mpr (List.rdropWhile_last_not isBlank (trimLeft characters) empty)

/-- A folded name is its own folded form. -/
theorem fold_fold (name : String) : fold (fold name) = fold name := by
  have trimmed : trim (fold name) = fold name := by
    rw [fold, lowercase, trim, trim, String.toList_ofList, String.toList_ofList]
    exact congrArg String.ofList (trimBoth_eq_self (head?_lowerFrom (head?_trimBoth _))
      (getLast?_lowerFrom (getLast?_trimBoth _)))
  rw [fold, trimmed, fold, lowercase_lowercase]

end RecordQuery.Text
