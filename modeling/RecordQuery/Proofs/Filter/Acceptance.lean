import RecordQuery.Proofs.Filter.Completeness

/-! # The texts that are filters

A text is accepted exactly if it is not too long, consists of tokens, and its tokens write a filter with no
more nesting than allowed; the filter that they write is the one that is returned.
-/

namespace RecordQuery

open Grammar

namespace Lexer

/-- The kinds of the tokens of a text. -/
def kinds (text : String) : List TokenKind := (tokens text).tokens.map Token.kind

/-- Blanks have no tokens. -/
theorem tokensFrom_blank {characters : List Char} (blank : characters.all Text.isBlank) (offset : Nat) :
    tokensFrom offset characters = .done := by
  induction characters generalizing offset with
  | nil => rw [tokensFrom]
  | cons first rest ih =>
    rw [List.all_cons, Bool.and_eq_true] at blank
    rw [tokensFrom, if_pos blank.1]
    exact ih blank.2 _

end Lexer

namespace Filter

variable {limits : Limits} {text : String} {filter : Filter}

/-- An accepted text is within the limits, and the grammar derives its filter from its tokens. -/
theorem derives_of_parse (accepted : parse limits text = .ok filter) :
    Text.byteLength text.toList ≤ limits.maxLength ∧ (Lexer.tokens text).error? = none ∧
      ∃ nesting ≤ limits.maxDepth, Derives .disjunction (Lexer.kinds text) nesting filter := by
  unfold parse at accepted
  dsimp only at accepted
  split at accepted
  · cases accepted
  · rename_i short
    split at accepted
    · cases accepted
    · obtain ⟨clean, final, taken, finished⟩ := Parser.run_eq_ok_iff.mp accepted
      have reading := Parser.reads_foldlM (.operand .nil) taken
      exact ⟨Nat.le_of_not_lt short, clean, Parser.derives_of_finish reading finished⟩

/-- A text that is not too long and has tokens is read token by token. -/
theorem parse_eq_run (short : Text.byteLength text.toList ≤ limits.maxLength)
    (nonempty : Lexer.kinds text ≠ []) :
    parse limits text = Parser.run limits (Text.byteLength text.toList) .initial (Lexer.tokens text) := by
  have visible : ¬ text.toList.all Text.isBlank := by
    intro blank
    apply nonempty
    rw [Lexer.kinds, Lexer.tokens, Lexer.tokensFrom_blank blank]
    rfl
  unfold parse
  dsimp only
  rw [if_neg (Nat.not_lt_of_le short), if_neg visible]

/-- A text within the limits is accepted when the grammar derives a filter from its tokens. -/
theorem parse_of_derives {nesting : Nat} (short : Text.byteLength text.toList ≤ limits.maxLength)
    (clean : (Lexer.tokens text).error? = none)
    (derivation : Derives .disjunction (Lexer.kinds text) nesting filter)
    (shallow : nesting ≤ limits.maxDepth) : parse limits text = .ok filter := by
  obtain ⟨final, leads, finished⟩ :=
    Parser.finish_of_derives limits (Text.byteLength text.toList) derivation shallow
  rw [parse_eq_run short derivation.ne_nil]
  exact Parser.run_eq_ok_iff.mpr ⟨clean, final, leads _ rfl, finished⟩

/-- The parser accepts exactly what the grammar derives from the tokens of the text within the limits of
length and nesting, and no sequence of tokens writes two filters. -/
theorem parse_eq_ok_iff_derives (limits : Limits) (text : String) :
    (∀ filter, parse limits text = .ok filter ↔
      Text.byteLength text.toList ≤ limits.maxLength ∧ (Lexer.tokens text).error? = none ∧
        ∃ nesting ≤ limits.maxDepth, Derives .disjunction (Lexer.kinds text) nesting filter) ∧
    ∀ (kinds : List TokenKind) (firstNesting secondNesting : Nat) (first second : Filter),
      Derives .disjunction kinds firstNesting first → Derives .disjunction kinds secondNesting second →
        first = second := by
  constructor
  · intro filter
    constructor
    · exact derives_of_parse
    · rintro ⟨short, clean, nesting, shallow, derivation⟩
      exact parse_of_derives short clean derivation shallow
  · intro kinds firstNesting secondNesting first second
    exact Parser.derives_unique

/-- Every kind of value, in single comparisons and in a list. The chain of `and` takes its operands from the left, and
the negated group counts twice for the nesting. -/
theorem parse_eq_ok_iff_derives_of_values :
    let text := "not (a = 'x' or b >= -1.5) and c in (true, false, null) and d = null"
    let kinds : List TokenKind := [.negation, .opening, .name "a", .relation .equal, .text "x", .disjunction,
      .name "b", .relation .greaterOrEqual, .number (.ofDigits true ['1'] ['5']), .closing, .conjunction,
      .name "c", .membership, .opening, .boolean true, .comma, .boolean false, .comma, .null, .closing,
      .conjunction, .name "d", .relation .equal, .null]
    let texts := comparison ⟨"a", .relation .equal, .single (.text "x")⟩
    let numbers := comparison ⟨"b", .relation .greaterOrEqual, .single (.number (.ofDigits true ['1'] ['5']))⟩
    let listed := comparison ⟨"c", .membership, .list [.boolean true, .boolean false, .null]⟩
    let missing := comparison ⟨"d", .relation .equal, .single .null⟩
    let filter := conjunction (conjunction (negation (disjunction texts numbers)) listed) missing
    Lexer.kinds text = kinds ∧ Derives .disjunction kinds 2 filter ∧ parse ⟨68, 2⟩ text = .ok filter ∧
      ∀ other nesting, Derives .disjunction kinds nesting other → other = filter := by
  intro text kinds texts numbers listed missing filter
  have same : Lexer.kinds text = kinds := by decide +kernel
  have noList (sign : Relation) : Operator.relation sign ≠ .membership := nofun
  have items : WritesItems [.boolean true, .comma, .boolean false, .comma, .null]
      [.boolean true, .boolean false, .null] :=
    .more (.more (.one (.boolean true)) (.boolean false)) .null
  have first : Derives .negation _ 0 texts := .comparison (.single "a" (noList .equal) (.text "x"))
  have second : Derives .negation _ 0 numbers :=
    .comparison (.single "b" (noList .greaterOrEqual) (.number (.ofDigits true ['1'] ['5'])))
  have third : Derives .negation _ 0 listed := .comparison (.membership "c" items)
  have fourth : Derives .negation _ 0 missing := .comparison (.single "d" (noList .equal) .null)
  have group : Derives .disjunction _ 0 (disjunction texts numbers) :=
    .disjunction (.chain (.operand first)) (.operand second)
  have derivation : Derives .disjunction kinds 2 filter :=
    .chain (.conjunction (.conjunction (.operand (.negation (.group group))) third) fourth)
  have short : Text.byteLength text.toList ≤ 68 := by decide +kernel
  have clean : (Lexer.tokens text).error? = none := by decide +kernel
  obtain ⟨accepted, unique⟩ := parse_eq_ok_iff_derives ⟨68, 2⟩ text
  refine ⟨same, derivation, ?_, ?_⟩
  · exact (accepted filter).mpr ⟨short, clean, 2, Nat.le_refl 2, same ▸ derivation⟩
  · intro other nesting written
    exact unique kinds nesting 2 other filter written derivation

end Filter

end RecordQuery
