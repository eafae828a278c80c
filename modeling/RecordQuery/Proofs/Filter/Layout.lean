import RecordQuery.Proofs.Filter.Partition

/-! # Tokens in another layout

The characters of a token are that token wherever they stand in front of a blank or at the end of a text. So the
tokens of a text may be written down again with other blanks around them: the text has the same tokens, and the same
filter is read from it.
-/

namespace RecordQuery

namespace Lexer

/-- Blanks around so many parts of a text: in front of them, and behind each of them. Two parts do not touch. -/
structure Layout (count : Nat) where
  front : List Char
  gaps : List (List Char)
  length_gaps : gaps.length = count
  front_blank : front.all Text.isBlank
  gaps_blank : ∀ gap ∈ gaps, gap.all Text.isBlank
  gaps_nonempty : ∀ gap ∈ gaps.dropLast, gap ≠ []

/-- The parts with the blanks around them. -/
def Layout.spread {count : Nat} (layout : Layout count) (parts : List (List Char)) : List Char :=
  layout.front ++ (List.zipWith (· ++ ·) parts layout.gaps).flatten

/-- The characters of the tokens of a text. -/
def parts (text : String) : List (List Char) :=
  (tokens text).tokens.map fun token => Text.slice token.start token.stop text.toList

/-- The characters are a token in front of whatever is apart. -/
def Makes (characters : List Char) (kind : TokenKind) : Prop :=
  ∃ first others, characters = first :: others ∧ Text.isBlank first = false ∧
    ∀ behind, Apart behind → scan first (others ++ behind) = .ok (kind, others.length)

variable {characters front : List Char} {kind : TokenKind} {text : String} {token : Token}

theorem makes_of_mem (member : token ∈ (tokens text).tokens) :
    Makes (Text.slice token.start token.stop text.toList) token.kind := by
  obtain ⟨_, first, others, rest, _, _, _, part, solid, scanned⟩ := exists_part member
  refine ⟨first, others, part, solid, fun behind apart => ?_⟩
  have again := (settled_of_scan scanned).again behind apart
  rwa [List.take_left] at again

/-- The parts of a text make its tokens, one by one. -/
theorem makes_parts (text : String) : List.Forall₂ Makes (parts text) (kinds text) := by
  rw [parts, Lexer.kinds, List.forall₂_map_left_iff, List.forall₂_map_right_iff, List.forall₂_same]
  exact fun token => makes_of_mem

/-- Alone, the characters are this token and nothing else. -/
theorem Makes.tokens_eq (makes : Makes characters kind) :
    tokens (String.ofList characters) = .token ⟨kind, 0, Text.byteLength characters⟩ .done := by
  obtain ⟨first, others, rfl, solid, scanned⟩ := makes
  have alone := scanned [] rfl
  rw [List.append_nil] at alone
  rw [tokens, String.toList_ofList, tokensFrom, if_neg (Bool.eq_false_iff.mp solid), alone]
  dsimp only
  rw [List.take_length, List.drop_length, tokensFrom, Nat.zero_add, Text.byteLength]

theorem Lexes.blanks {kinds : List TokenKind} (blank : front.all Text.isBlank) (remaining : Lexes characters kinds) :
    Lexes (front ++ characters) kinds := by
  induction front with
  | nil => exact remaining
  | cons first rest ih =>
    rw [List.all_cons, Bool.and_eq_true] at blank
    exact .blank blank.1 (ih blank.2)

/-- Parts with blanks between them are read one after the other. -/
theorem lexes_spread {kinds : List TokenKind} {parts gaps : List (List Char)}
    (make : List.Forall₂ Makes parts kinds)
    (length : gaps.length = parts.length) (blank : ∀ gap ∈ gaps, gap.all Text.isBlank)
    (nonempty : ∀ gap ∈ gaps.dropLast, gap ≠ []) : Lexes (List.zipWith (· ++ ·) parts gaps).flatten kinds := by
  induction make generalizing gaps with
  | nil => exact .nil
  | @cons part kind parts kinds makes make ih =>
    obtain ⟨gap, gaps, rfl⟩ := List.exists_cons_of_length_eq_add_one length
    obtain ⟨first, others, rfl, solid, scanned⟩ := makes
    obtain ⟨own, later⟩ := List.forall_mem_cons.mp blank
    have count : gaps.length = parts.length := Nat.succ.inj length
    have kept : ∀ other ∈ gaps.dropLast, other ≠ [] := by
      intro other member
      cases gaps with
      | nil => cases member
      | cons => exact nonempty other (List.mem_cons_of_mem _ member)
    have apart : Apart (gap ++ (List.zipWith (· ++ ·) parts gaps).flatten) := by
      refine apart_append own fun empty => ?_
      cases gaps with
      | nil =>
        rw [List.zipWith_nil_right]
        rfl
      | cons => exact absurd empty (nonempty gap List.mem_cons_self)
    rw [List.zipWith_cons_cons, List.flatten_cons, List.append_assoc]
    exact .token first others solid (scanned _ apart) (.blanks own (ih count later kept))

end Lexer

/-- Whatever blanks stand around the tokens of a text, they are the same tokens, and the same filter is read from
them if neither text is too long. Each token is one also when it stands alone. -/
theorem Filter.layout_irrelevant (text : String) (clean : (Lexer.tokens text).error? = none) :
    (∀ layout : Lexer.Layout (Lexer.tokens text).tokens.length,
      let other := String.ofList (layout.spread (Lexer.parts text))
      (Lexer.tokens other).error? = none ∧ Lexer.kinds other = Lexer.kinds text ∧
        ∀ limits : Limits, Text.byteLength text.toList ≤ limits.maxLength →
          Text.byteLength other.toList ≤ limits.maxLength →
            ∀ filter, parse limits other = .ok filter ↔ parse limits text = .ok filter) ∧
    ∀ token ∈ (Lexer.tokens text).tokens,
      let part := Text.slice token.start token.stop text.toList
      Lexer.tokens (String.ofList part) = .token ⟨token.kind, 0, Text.byteLength part⟩ .done := by
  constructor
  · intro layout other
    have lexes : Lexer.Lexes (layout.spread (Lexer.parts text)) (Lexer.kinds text) := by
      refine .blanks layout.front_blank (Lexer.lexes_spread (Lexer.makes_parts text) ?_ layout.gaps_blank
        layout.gaps_nonempty)
      rw [layout.length_gaps, Lexer.parts, List.length_map]
    have read : Lexer.tokensFrom 0 (layout.spread (Lexer.parts text)) = Lexer.tokens other :=
      congrArg (Lexer.tokensFrom 0) String.toList_ofList.symm
    obtain ⟨otherClean, same⟩ := lexes 0
    rw [read] at otherClean same
    change Lexer.kinds other = Lexer.kinds text at same
    refine ⟨otherClean, same, fun limits short otherShort filter => ?_⟩
    constructor
    · intro accepted
      obtain ⟨-, -, nesting, shallow, derivation⟩ := derives_of_parse accepted
      exact parse_of_derives short clean (same ▸ derivation) shallow
    · intro accepted
      obtain ⟨-, -, nesting, shallow, derivation⟩ := derives_of_parse accepted
      exact parse_of_derives otherShort otherClean (same ▸ derivation) shallow
  · exact fun token member => (Lexer.makes_of_mem member).tokens_eq

/-- Tokens that touch are moved apart, by a wide blank also, and the blank inside of a text stays. -/
theorem Filter.layout_irrelevant_of_touching :
    let text := "a<='x y'and(b!=-1.5)"
    let other := "\n a <=\t'x y' and ( b != -1.5\u3000) "
    (Lexer.tokens text).error? = none ∧ Lexer.kinds other = Lexer.kinds text ∧
      ∃ filter, parse .standard text = .ok filter ∧ parse .standard other = .ok filter := by
  intro text other
  have clean : (Lexer.tokens text).error? = none := by decide +kernel
  let layout : Lexer.Layout (Lexer.tokens text).tokens.length :=
    { front := ['\n', ' ']
      gaps := [[' '], ['\t'], [' '], [' '], [' '], [' '], [' '], ['\u3000'], [' ']]
      length_gaps := by decide +kernel
      front_blank := by decide +kernel
      gaps_blank := by decide +kernel
      gaps_nonempty := by decide +kernel }
  have spread : String.ofList (layout.spread (Lexer.parts text)) = other := by decide +kernel
  obtain ⟨-, same, agree⟩ := (layout_irrelevant text clean).1 layout
  rw [spread] at same agree
  have readable : (parse .standard text).isOk = true := by decide +kernel
  cases accepted : parse .standard text with
  | error error =>
    rw [accepted] at readable
    cases readable
  | ok filter =>
    exact ⟨clean, same, filter, rfl, (agree .standard (by decide +kernel) (by decide +kernel) filter).mpr accepted⟩

end RecordQuery
