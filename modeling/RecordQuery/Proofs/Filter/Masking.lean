import RecordQuery.Proofs.Filter.Acceptance

/-! # Filters without the contents of some texts

Some fields are known to hold texts. Masking takes the contents of the texts that are compared with these
fields, from the tokens of a filter and from the filter itself. Masked tokens write the masked filter.
Tokens that differ only in such contents therefore write filters that differ only in them.
-/

namespace RecordQuery

/-- The literal without the content of a text, if that is to be hidden. -/
def Literal.masked : Bool → Literal → Literal
  | true, text _ => .text ""
  | _, other => other

def Operand.masked (hides : Bool) : Operand → Operand
  | single literal => .single (literal.masked hides)
  | list literals => .list (literals.map (Literal.masked hides))

/-- The comparison without the contents of texts, if its field holds texts. -/
def Comparison.masked (isText : String → Bool) (leaf : Comparison) : Comparison :=
  { leaf with operand := leaf.operand.masked (isText leaf.field) }

def Filter.masked (isText : String → Bool) : Filter → Filter
  | comparison leaf => .comparison (leaf.masked isText)
  | conjunction left right => .conjunction (left.masked isText) (right.masked isText)
  | disjunction left right => .disjunction (left.masked isText) (right.masked isText)
  | negation inner => .negation (inner.masked isText)

namespace TokenKind

/-- The token without the content of a text, if that is to be hidden. -/
def masked : Bool → TokenKind → TokenKind
  | true, text _ => .text ""
  | _, other => other

/-- The token is neither a name nor a literal. -/
def isSign : TokenKind → Bool
  | name _ | text _ | number _ | boolean _ | null => false
  | _ => true

/-- The tokens without the contents of texts that are compared with fields that hold texts. A literal is
compared with the field whose name is the last one in front of it. -/
def maskedList (isText : String → Bool) : Bool → List TokenKind → List TokenKind
  | _, [] => []
  | _, .name word :: rest => .name word :: maskedList isText (isText word) rest
  | hides, kind :: rest => kind.masked hides :: maskedList isText hides rest

variable {isText : String → Bool} {hides : Bool} {kind : TokenKind} {literal : Literal}

theorem maskedList_cons (noName : ∀ word, kind ≠ .name word) (rest : List TokenKind) :
    maskedList isText hides (kind :: rest) = kind.masked hides :: maskedList isText hides rest := by
  rw [maskedList]
  exact noName

theorem maskedList_name (word : String) (rest : List TokenKind) :
    maskedList isText hides (.name word :: rest) = .name word :: maskedList isText (isText word) rest := rfl

/-- A literal is masked as the field in front of it asks. -/
theorem maskedList_literal (value : Grammar.WritesValue kind literal) (rest : List TokenKind) :
    maskedList isText hides (kind :: rest) = kind.masked hides :: maskedList isText hides rest := by
  apply maskedList_cons
  rintro word rfl
  cases value

/-- What is neither a name nor a literal is kept. -/
theorem maskedList_sign (sign : kind.isSign) (rest : List TokenKind) :
    maskedList isText hides (kind :: rest) = kind :: maskedList isText hides rest := by
  have kept : kind.masked hides = kind := by cases hides <;> cases kind <;> first | rfl | cases sign
  rw [maskedList_cons, kept]
  rintro word rfl
  cases sign

end TokenKind

namespace Grammar

open TokenKind

variable {level : Level} {kinds first second front back : List TokenKind} {kind : TokenKind}
  {literal : Literal} {literals : List Literal} {leaf : Comparison} {nesting : Nat} {filter : Filter} {isText : String → Bool}

/-- The masked token writes the masked value. -/
theorem WritesValue.masked (value : WritesValue kind literal) (hides : Bool) :
    WritesValue (kind.masked hides) (literal.masked hides) := by
  cases value <;> cases hides <;> constructor

/-- Masked tokens write the masked items. -/
theorem WritesItems.masked (items : WritesItems kinds literals) (isText : String → Bool) (hides : Bool) :
    ∃ part, WritesItems part (literals.map (Literal.masked hides)) ∧
      ∀ rest, maskedList isText hides (kinds ++ rest) = part ++ maskedList isText hides rest := by
  induction items with
  | one value => exact ⟨_, .one (value.masked hides), maskedList_literal value⟩
  | more _ value ih =>
    obtain ⟨part, written, same⟩ := ih
    rw [List.map_append]
    refine ⟨_, .more written (value.masked hides), fun rest => ?_⟩
    rw [List.append_assoc, same, List.cons_append, maskedList_sign rfl, List.cons_append,
      maskedList_literal value, List.append_assoc]
    rfl

/-- Masked tokens write the masked comparison, whatever stands in front of them. -/
theorem WritesComparison.masked (written : WritesComparison kinds leaf) (isText : String → Bool) :
    ∃ part, WritesComparison part (leaf.masked isText) ∧ ∀ hides rest,
      maskedList isText hides (kinds ++ rest) = part ++ maskedList isText (isText leaf.field) rest := by
  cases written with
  | @single operator kind _ field noList value =>
    refine ⟨_, .single field noList (value.masked (isText field)), fun hides rest => ?_⟩
    have sign (rest : List TokenKind) : maskedList isText (isText field) (operatorKind operator :: rest) =
        operatorKind operator :: maskedList isText (isText field) rest := by
      cases operator <;> exact maskedList_sign rfl rest
    simp only [List.cons_append, List.nil_append, maskedList_name, sign, maskedList_literal value]
  | membership field items =>
    obtain ⟨part, written, same⟩ := items.masked isText (isText field)
    refine ⟨_, .membership field written, fun hides rest => ?_⟩
    simp only [List.append_assoc, List.cons_append, List.nil_append, maskedList_name]
    rw [maskedList_sign rfl, maskedList_sign rfl, same, maskedList_sign rfl]

/-- Wherever these tokens stand, they are masked as the part. -/
def Masks (isText : String → Bool) (kinds part : List TokenKind) : Prop :=
  ∀ hides rest, ∃ behind, maskedList isText hides (kinds ++ rest) = part ++ maskedList isText behind rest

theorem Masks.append (left : Masks isText first front) (right : Masks isText second back) :
    Masks isText (first ++ second) (front ++ back) := by
  intro hides rest
  obtain ⟨between, before⟩ := left hides (second ++ rest)
  obtain ⟨behind, after⟩ := right between rest
  refine ⟨behind, ?_⟩
  rw [List.append_assoc, before, after, List.append_assoc]

theorem Masks.sign (sign : kind.isSign) : Masks isText [kind] [kind] := by
  intro hides rest
  exact ⟨hides, maskedList_sign sign rest⟩

/-- Masked tokens write the masked filter, whatever stands in front of them. -/
theorem Derives.masked (derivation : Derives level kinds nesting filter) (isText : String → Bool) :
    ∃ part, Derives level part nesting (filter.masked isText) ∧ Masks isText kinds part := by
  induction derivation with
  | comparison written =>
    obtain ⟨part, masked, same⟩ := written.masked isText
    exact ⟨part, .comparison masked, fun hides rest => ⟨_, same hides rest⟩⟩
  | negation _ ih =>
    obtain ⟨part, operand, same⟩ := ih
    exact ⟨_, .negation operand, (Masks.sign rfl).append same⟩
  | group _ ih =>
    obtain ⟨part, inner, same⟩ := ih
    exact ⟨_, .group inner, ((Masks.sign rfl).append same).append (.sign rfl)⟩
  | operand _ ih =>
    obtain ⟨part, only, same⟩ := ih
    exact ⟨part, .operand only, same⟩
  | chain _ ih =>
    obtain ⟨part, only, same⟩ := ih
    exact ⟨part, .chain only, same⟩
  | conjunction _ _ left right =>
    obtain ⟨front, leading, sameLeft⟩ := left
    obtain ⟨back, last, sameRight⟩ := right
    exact ⟨_, .conjunction leading last, sameLeft.append ((Masks.sign rfl).append sameRight)⟩
  | disjunction _ _ left right =>
    obtain ⟨front, leading, sameLeft⟩ := left
    obtain ⟨back, last, sameRight⟩ := right
    exact ⟨_, .disjunction leading last, sameLeft.append ((Masks.sign rfl).append sameRight)⟩

/-- The masked tokens of a filter write the masked filter. -/
theorem Derives.maskedList (derivation : Derives level kinds nesting filter) (isText : String → Bool) :
    Derives level (maskedList isText false kinds) nesting (filter.masked isText) := by
  obtain ⟨part, masked, same⟩ := derivation.masked isText
  obtain ⟨behind, whole⟩ := same false []
  rw [List.append_nil, TokenKind.maskedList, List.append_nil] at whole
  rw [whole]
  exact masked

end Grammar

namespace Filter

/-- Texts with the same masked tokens are accepted as filters that are the same when masked. -/
theorem masked_eq_of_parse {limits : Limits} {isText : String → Bool} {first second : String}
    {filter other : Filter} (accepted : parse limits first = .ok filter)
    (acceptedOther : parse limits second = .ok other)
    (same : TokenKind.maskedList isText false (Lexer.kinds first) =
      TokenKind.maskedList isText false (Lexer.kinds second)) :
    filter.masked isText = other.masked isText := by
  obtain ⟨-, -, nesting, -, derivation⟩ := derives_of_parse accepted
  obtain ⟨-, -, otherNesting, -, derivationOther⟩ := derives_of_parse acceptedOther
  have masked := derivation.maskedList isText
  rw [same] at masked
  exact Parser.derives_unique masked (derivationOther.maskedList isText)

end Filter

end RecordQuery
