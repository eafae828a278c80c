import Mathlib.Data.List.Induction
import RecordQuery.Proofs.Filter.Lexing
import RecordQuery.Proofs.Filter.Scanning

/-! # Filters are read back from their texts

A filter is printed with parentheses around every operand of a joining word; each of its texts stands between
single or double quotes, with a backslash in front of that quote and of every backslash. Filters as the
grammar has them are read back, whatever characters their texts hold: names that are no keywords, lists with
items, single literals elsewhere, and finite numbers.
-/

namespace RecordQuery

namespace Printing

/-- Characters between parentheses. -/
def grouped (characters : List Char) : List Char := '(' :: characters ++ [')']

/-- The characters of a literal; a text has either quotes. -/
inductive PrintsLiteral : Literal → List Char → Prop where
  | text (content : String) {quote : Char} (chosen : quote = '\x22' ∨ quote = '\x27') :
      PrintsLiteral (.text content) (quote :: content.toList.flatMap (Lexer.guarded quote) ++ [quote])
  | number (value : Number) : PrintsLiteral (.number value) value.text.toList
  | boolean (value : Bool) : PrintsLiteral (.boolean value) (toString value).toList
  | null : PrintsLiteral .null "null".toList

/-- Literals, with a comma and a blank between two of them. -/
inductive PrintsItems : List Literal → List Char → Prop where
  | one {literal : Literal} {characters : List Char} (item : PrintsLiteral literal characters) :
      PrintsItems [literal] characters
  | more {literals : List Literal} {literal : Literal} {first second : List Char}
      (items : PrintsItems literals first) (item : PrintsLiteral literal second) :
      PrintsItems (literals ++ [literal]) (first ++ ',' :: ' ' :: second)

/-- The right side of a comparison; a list stands between parentheses. -/
inductive PrintsOperand : Operand → List Char → Prop where
  | single {literal : Literal} {characters : List Char} (item : PrintsLiteral literal characters) :
      PrintsOperand (.single literal) characters
  | list {literals : List Literal} {characters : List Char} (items : PrintsItems literals characters) :
      PrintsOperand (.list literals) (grouped characters)

/-- The characters of a filter. -/
inductive Prints : Filter → List Char → Prop where
  | comparison (field : String) (operator : Operator) {operand : Operand} {characters : List Char}
      (right : PrintsOperand operand characters) :
      Prints (.comparison ⟨field, operator, operand⟩)
        (field.toList ++ ' ' :: (operator.symbol.toList ++ ' ' :: characters))
  | conjunction {left right : Filter} {first second : List Char} (leading : Prints left first)
      (last : Prints right second) :
      Prints (.conjunction left right) (grouped first ++ ' ' :: ("and".toList ++ ' ' :: grouped second))
  | disjunction {left right : Filter} {first second : List Char} (leading : Prints left first)
      (last : Prints right second) :
      Prints (.disjunction left right) (grouped first ++ ' ' :: ("or".toList ++ ' ' :: grouped second))
  | negation {inner : Filter} {characters : List Char} (operand : Prints inner characters) :
      Prints (.negation inner) ("not".toList ++ ' ' :: grouped characters)

end Printing

/-- The number of a literal is finite. -/
def Literal.IsFinite : Literal → Prop
  | number value => value.isFinite
  | text _ | boolean _ | null => True

/-- A comparison as the grammar has it. -/
structure Comparison.IsWritable (leaf : Comparison) : Prop where
  isName : Name.isName leaf.field.toList
  noKeyword : ∀ word ∈ Lexer.keywords.map Prod.fst, ¬ Text.equalIgnoringCase leaf.field word
  operand : match leaf.operator, leaf.operand with
    | .membership, .list literals => literals ≠ []
    | .membership, .single _ => False
    | _, .single _ => True
    | _, .list _ => False
  isFinite : ∀ literal ∈ leaf.operand.literals, literal.IsFinite

namespace Filter

/-- Every comparison is as the grammar has it. -/
def IsWritable (filter : Filter) : Prop := ∀ leaf ∈ filter.comparisons, leaf.IsWritable

/-- The nesting of a printed filter, whose operands are all groups. -/
def printedNesting : Filter → Nat
  | comparison _ => 0
  | conjunction left right | disjunction left right => max left.printedNesting right.printedNesting + 1
  | negation inner => inner.printedNesting + 2

end Filter

namespace Printing

open Grammar Lexer

/-- A printed literal is one token of it. -/
theorem spells_literal {literal : Literal} {characters : List Char}
    (printed : PrintsLiteral literal characters) (isFinite : literal.IsFinite) :
    ∃ kind : TokenKind, WritesValue kind literal ∧ Spells characters [kind] := by
  cases printed with
  | text content chosen => 
    have spelled := spells_text chosen content.toList
    rw [String.ofList_toList] at spelled
    exact ⟨.text content, .text content, spelled⟩
  | number value =>
    obtain ⟨negative, whole, fraction, nonempty, digits, written, same⟩ := Number.exists_numeral isFinite
    rw [written, ← same]
    exact ⟨.number _, .number _, spells_numeral negative nonempty digits⟩
  | boolean value =>
    refine ⟨.boolean value, .boolean value, ?_⟩
    cases value with
    | true => exact (spells_word rfl : Spells "true".toList [wordKind "true".toList])
    | false => exact (spells_word rfl : Spells "false".toList [wordKind "false".toList])
  | null => exact ⟨.null, .null, (spells_word rfl : Spells "null".toList [wordKind "null".toList])⟩

theorem spells_items {literals : List Literal} {characters : List Char}
    (printed : PrintsItems literals characters)
    (isFinite : ∀ literal ∈ literals, literal.IsFinite) :
    ∃ kinds, WritesItems kinds literals ∧ Spells characters kinds := by
  induction printed with
  | one item =>
    obtain ⟨kind, value, spelled⟩ := spells_literal item (isFinite _ (List.mem_singleton_self _))
    exact ⟨[kind], .one value, spelled⟩
  | more items item ih =>
    obtain ⟨kinds, written, before⟩ :=
      ih fun literal member => isFinite literal (List.mem_append_left _ member)
    obtain ⟨kind, value, spelled⟩ :=
      spells_literal item (isFinite _ (List.mem_append_right _ (List.mem_singleton_self _)))
    have behind : Spells (',' :: ' ' :: _) [.comma, kind] := spelled.blank.mark rfl fun _ => rfl
    exact ⟨kinds ++ [.comma, kind], .more written value, before.append behind (List.cons_ne_nil _ _) rfl⟩

theorem spells_grouped {characters : List Char} {kinds : List TokenKind} (spelled : Spells characters kinds) :
    Spells (grouped characters) (.opening :: kinds ++ [.closing]) :=
  spelled.closing.mark rfl fun _ => rfl

/-- An operator is one token in front of its operand. -/
theorem spells_operator (operator : Operator) {characters : List Char} {kinds : List TokenKind}
    (spelled : Spells characters kinds) :
    Spells (operator.symbol.toList ++ ' ' :: characters) (operatorKind operator :: kinds) := by
  cases operator with
  | relation sign => exact spelled.relation sign
  | text word =>
    have spelledWord : Spells word.symbol.toList [.textMatch word] := by
      cases word <;> exact spells_word rfl
    exact spelledWord.blank_append spelled
  | membership =>
    have spelledWord : Spells "in".toList [wordKind "in".toList] := spells_word rfl
    exact spelledWord.blank_append spelled

/-- A printed comparison is written by its tokens. -/
theorem spells_comparison {leaf : Comparison} (writable : leaf.IsWritable) {characters : List Char}
    (printed : PrintsOperand leaf.operand characters) :
    ∃ kinds, WritesComparison kinds leaf ∧
      Spells (leaf.field.toList ++ ' ' :: (leaf.operator.symbol.toList ++ ' ' :: characters)) kinds := by
  obtain ⟨field, operator, operand⟩ := leaf
  have free : ¬ IsKeyword field := fun ⟨known, member, equal⟩ => writable.noKeyword known member equal
  have name : Spells field.toList [.name field] :=
    wordKind_eq_name_iff.mpr ⟨String.ofList_toList, free⟩ ▸ spells_word writable.isName
  have suits := writable.operand
  cases printed with
  | @single literal _ item =>
    obtain ⟨kind, value, spelled⟩ :=
      spells_literal item (writable.isFinite literal (List.mem_singleton_self _))
    have noList : operator ≠ .membership := by
      rintro rfl
      exact suits
    exact ⟨_, .single field noList value, name.blank_append (spells_operator operator spelled)⟩
  | list items =>
    obtain ⟨kinds, written, spelled⟩ := spells_items items writable.isFinite
    cases operator with
    | relation | text => cases suits
    | membership =>
      exact ⟨_, .membership field written,
        name.blank_append (spells_operator .membership (spells_grouped spelled))⟩

/-- A printed filter is derived from its tokens. -/
theorem spells_filter {filter : Filter} {characters : List Char} (printed : Prints filter characters)
    (writable : filter.IsWritable) :
    ∃ kinds, Derives .disjunction kinds filter.printedNesting filter ∧ Spells characters kinds := by
  induction printed with
  | comparison field operator right =>
    obtain ⟨kinds, written, spelled⟩ := spells_comparison (writable _ (List.mem_singleton_self _)) right
    exact ⟨kinds, .chain (.operand (.comparison written)), spelled⟩
  | conjunction _ _ ihLeft ihRight =>
    obtain ⟨first, derivedFirst, spelledFirst⟩ :=
      ihLeft fun leaf member => writable leaf (List.mem_append_left _ member)
    obtain ⟨second, derivedSecond, spelledSecond⟩ :=
      ihRight fun leaf member => writable leaf (List.mem_append_right _ member)
    have word : Spells "and".toList [wordKind "and".toList] := spells_word rfl
    refine ⟨_, ?_,
      (spells_grouped spelledFirst).blank_append (word.blank_append (spells_grouped spelledSecond))⟩
    rw [Filter.printedNesting, ← Nat.add_max_add_right]
    exact .chain (.conjunction (.operand (.group derivedFirst)) (.group derivedSecond))
  | disjunction _ _ ihLeft ihRight =>
    obtain ⟨first, derivedFirst, spelledFirst⟩ :=
      ihLeft fun leaf member => writable leaf (List.mem_append_left _ member)
    obtain ⟨second, derivedSecond, spelledSecond⟩ :=
      ihRight fun leaf member => writable leaf (List.mem_append_right _ member)
    have word : Spells "or".toList [wordKind "or".toList] := spells_word rfl
    refine ⟨_, ?_,
      (spells_grouped spelledFirst).blank_append (word.blank_append (spells_grouped spelledSecond))⟩
    rw [Filter.printedNesting, ← Nat.add_max_add_right]
    exact .disjunction (.chain (.operand (.group derivedFirst))) (.operand (.group derivedSecond))
  | negation _ ih =>
    obtain ⟨kinds, derived, spelled⟩ := ih writable
    have word : Spells "not".toList [wordKind "not".toList] := spells_word rfl
    exact ⟨_, .chain (.operand (.negation (.group derived))), word.blank_append (spells_grouped spelled)⟩

theorem exists_printsLiteral (literal : Literal) : ∃ characters, PrintsLiteral literal characters := by
  cases literal with
  | text content => exact ⟨_, .text content (.inl rfl)⟩
  | number value => exact ⟨_, .number value⟩
  | boolean value => exact ⟨_, .boolean value⟩
  | null => exact ⟨_, .null⟩

theorem exists_printsItems {literals : List Literal} (nonempty : literals ≠ []) :
    ∃ characters, PrintsItems literals characters := by
  induction literals using List.reverseRecOn with
  | nil => exact absurd rfl nonempty
  | append_singleton before last ih =>
    obtain ⟨second, item⟩ := exists_printsLiteral last
    rcases List.eq_nil_or_concat before with rfl | ⟨_, _, rfl⟩
    · exact ⟨second, .one item⟩
    · obtain ⟨first, items⟩ := ih (by simp)
      exact ⟨_, .more items item⟩

/-- A filter as the grammar has it can be printed. -/
theorem exists_prints {filter : Filter} (writable : filter.IsWritable) :
    ∃ characters, Prints filter characters := by
  induction filter with
  | comparison leaf =>
    have suits := (writable leaf (List.mem_singleton_self _)).operand
    obtain ⟨field, operator, operand⟩ := leaf
    cases operand with
    | single literal =>
      obtain ⟨characters, item⟩ := exists_printsLiteral literal
      exact ⟨_, .comparison field operator (.single item)⟩
    | list literals =>
      have nonempty : literals ≠ [] := by
        cases operator with
        | relation | text => cases suits
        | membership => exact suits
      obtain ⟨characters, items⟩ := exists_printsItems nonempty
      exact ⟨_, .comparison field operator (.list items)⟩
  | conjunction left right ihLeft ihRight =>
    obtain ⟨first, leading⟩ := ihLeft fun leaf member => writable leaf (List.mem_append_left _ member)
    obtain ⟨second, last⟩ := ihRight fun leaf member => writable leaf (List.mem_append_right _ member)
    exact ⟨_, .conjunction leading last⟩
  | disjunction left right ihLeft ihRight =>
    obtain ⟨first, leading⟩ := ihLeft fun leaf member => writable leaf (List.mem_append_left _ member)
    obtain ⟨second, last⟩ := ihRight fun leaf member => writable leaf (List.mem_append_right _ member)
    exact ⟨_, .disjunction leading last⟩
  | negation inner ih =>
    obtain ⟨characters, operand⟩ := ih writable
    exact ⟨_, .negation operand⟩

end Printing

/-- A filter as the grammar has it can be printed, and each text that prints it is read as the filter within
any limits that have room for the text and its nesting. -/
theorem Filter.parse_prints {filter : Filter} (writable : filter.IsWritable) :
    (∃ text : String, Printing.Prints filter text.toList) ∧
      ∀ (limits : Limits) (text : String), Printing.Prints filter text.toList →
        Text.byteLength text.toList ≤ limits.maxLength → filter.printedNesting ≤ limits.maxDepth →
          parse limits text = .ok filter := by
  constructor
  · obtain ⟨characters, printed⟩ := Printing.exists_prints writable
    exact ⟨String.ofList characters, by rwa [String.toList_ofList]⟩
  · intro limits text printed short shallow
    obtain ⟨kinds, derivation, spelled⟩ := Printing.spells_filter printed writable
    obtain ⟨clean, same⟩ := spelled.lexes 0
    rw [← same] at derivation
    exact parse_of_derives short clean derivation shallow

/-- Texts with either quote, with backslashes at the end and with a line break are read back. -/
theorem Filter.parse_prints_of_quotes :
    let half := Number.ofDigits true ['0'] ['5']
    let filter : Filter := .conjunction
      (.negation (.comparison ⟨"name", .membership, .list [.text "it's \\\\", .text "\n\"é\\"]⟩))
      (.comparison ⟨"a.b", .relation .greaterOrEqual, .single (.number half)⟩)
    Filter.parse .standard
      "(not (name in ('it\\'s \\\\\\\\', \"\n\\\"é\\\\\"))) and (a.b >= -0.5)" = .ok filter := by
  intro half filter
  have numeral : half.text.toList = "-0.5".toList := by decide +kernel
  have first : Printing.PrintsLiteral (.text "it's \\\\") "'it\\'s \\\\\\\\'".toList := .text _ (.inr rfl)
  have second : Printing.PrintsLiteral (.text "\n\"é\\") "\"\n\\\"é\\\\\"".toList := .text _ (.inl rfl)
  have third : Printing.PrintsLiteral (.number half) "-0.5".toList := numeral ▸ .number half
  have printed : Printing.Prints filter
      "(not (name in ('it\\'s \\\\\\\\', \"\n\\\"é\\\\\"))) and (a.b >= -0.5)".toList :=
    .conjunction (.negation (.comparison "name" .membership (.list (.more (.one first) second))))
      (.comparison "a.b" (.relation .greaterOrEqual) (.single third))
  have writable : filter.IsWritable := by
    intro leaf member
    rcases List.mem_cons.mp member with rfl | last
    · exact ⟨by decide, by decide, List.cons_ne_nil _ _, by simp [Operand.literals, Literal.IsFinite]⟩
    · obtain rfl := List.mem_singleton.mp last
      refine ⟨by decide, by decide, trivial, fun literal member => ?_⟩
      obtain rfl := List.mem_singleton.mp member
      exact (by decide +kernel : half.isFinite = true)
  exact (Filter.parse_prints writable).2 .standard _ printed (by decide) (by decide)

end RecordQuery
