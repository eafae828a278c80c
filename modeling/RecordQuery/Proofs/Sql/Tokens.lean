import RecordQuery.Proofs.Number.RoundTrip
import RecordQuery.Proofs.Sql.Reader
import RecordQuery.Sql.Text

/-! # The tokens of a statement

The text of a statement is read as the tokens of its pieces, whatever its names and constants are. A name ends
at its last quote and a text at the quote that its piece has set, since all other quotes are doubled or
guarded; words, signs and numbers end at a blank, a comma or a parenthesis.
-/

namespace RecordQuery.Sql

/-- The token of a number without its sign; it is a word if it has no digits. -/
def unsignedToken (characters : List Char) : Token :=
  if characters.head?.any Char.isDigit then .number characters else .word characters

/-- The tokens of a number. -/
def numberTokens : List Char → List Token
  | '-' :: magnitude => [.sign ['-'], unsignedToken magnitude]
  | magnitude => [unsignedToken magnitude]

/-- The tokens that a piece is meant to be. -/
def Piece.tokens : Piece → List Token
  | blank => []
  | word letters => [.word letters.toList]
  | mark sign => [.sign sign.toList]
  | identifier name => [.identifier name.toList]
  | text content => [.constant (content.toList.flatMap textCharacter)]
  | number digits => numberTokens digits.toList

section Pieces

variable {before : List Token} {rest : List Char}

private theorem not_mem_of_continuesWord {character : Char} {others : List Char}
    (inside : continuesWord character) (outside : others.any continuesWord = false) : character ∉ others :=
  fun member => List.any_eq_false.mp outside character member inside

private theorem begin_of_continuesWord {character : Char} (inside : continuesWord character) :
    Reader.begin before character =
      ⟨before, if character.isDigit then .number [character] else .word [character]⟩ := by
  have differs : character ∉ [' ', '\t', '\n', '\r', '(', ')', ',', '<', '>', '=', '-', '\x22', '\x27'] :=
    not_mem_of_continuesWord inside (by decide)
  simp only [List.mem_cons, List.not_mem_nil, or_false, not_or] at differs
  simp only [Reader.begin, isComparisonSign, List.contains_cons, List.contains_nil, differs, inside]
  cases character.isDigit <;> simp [differs]

/-- A word is read whole. -/
theorem reads_word {first : Char} {letters : List Char} (starts : first.isDigit = false)
    (inside : (first :: letters).all continuesWord) : Reads (first :: letters) [.word (first :: letters)] := by
  rw [List.all_cons, Bool.and_eq_true, List.all_eq_true] at inside
  apply reads_run Begun.word
  · intro before
    simp [begin_of_continuesWord inside.1, starts]
  · intro character member held
    simp [Begun.continued?, inside.2 character member]
  · rfl
  · simp [Begun.continued?, continuesWord]

/-- Digits with a point are read whole. -/
theorem reads_digits {first : Char} {digits : List Char} (starts : first.isDigit)
    (inside : ∀ character ∈ digits, character.isDigit ∨ character = '.') :
    Reads (first :: digits) [.number (first :: digits)] := by
  have continues : continuesWord first := by simp [continuesWord, Char.isAlphanum, starts]
  apply reads_run Begun.number
  · intro before
    simp [begin_of_continuesWord continues, starts]
  · intro character member held
    simp [Begun.continued?, inside character member]
  · rfl
  · simp [Begun.continued?, continuesWord]

/-- A minus is a token of its own in front of a digit or a letter. -/
theorem Reads.minus {magnitude : List Char} {tokens : List Token} (reads : Reads magnitude tokens)
    (solid : magnitude.head?.any continuesWord) : Reads ('-' :: magnitude) (.sign ['-'] :: tokens) := by
  intro before rest apart
  have ends : ∀ character ∈ (magnitude ++ rest).head?, (Begun.sign ['-']).continued? character = none := by
    cases magnitude with
    | nil => cases solid
    | cons first others =>
      intro character same
      obtain rfl : first = character := Option.some.inj same
      have outside : first ∉ ['<', '>', '=', '-'] := not_mem_of_continuesWord solid (by decide)
      simp only [List.mem_cons, List.not_mem_nil, or_false, not_or] at outside
      simp [Begun.continued?, isComparisonSign, outside]
  calc Reader.read ⟨before, .nothing⟩ ('-' :: magnitude ++ rest)
      = Reader.read ⟨before, .sign ['-']⟩ (magnitude ++ rest) := Reader.read_cons ..
    _ = Reader.read ⟨before ++ [.sign ['-']], .nothing⟩ (magnitude ++ rest) := Reader.read_of_complete rfl ends
    _ = Reader.read ⟨before ++ .sign ['-'] :: tokens, .nothing⟩ rest := by
      rw [reads _ _ apart, List.append_assoc, List.singleton_append]

/-- Comparison signs are read as one token. -/
theorem reads_comparison {first : Char} {signs : List Char}
    (inside : (first :: signs).all isComparisonSign) : Reads (first :: signs) [.sign (first :: signs)] := by
  rw [List.all_cons, Bool.and_eq_true, List.all_eq_true] at inside
  apply reads_run Begun.sign
  · have sign := inside.1
    simp only [isComparisonSign, List.contains_iff_mem, List.mem_cons, List.not_mem_nil, or_false] at sign
    intro before
    rcases sign with rfl | rfl | rfl <;> rfl
  · intro character member held
    simp [Begun.continued?, inside.2 character member]
  · rfl
  · simp [Begun.continued?, isComparisonSign]

/-- A name between double quotes is read as the name. -/
theorem reads_identifier (name : String) : Reads (identifierText name) [.identifier name.toList] := by
  intro tokens rest apart
  have run : (name.toList.flatMap identifierCharacter).foldl Reader.step ⟨tokens, .identifier []⟩ =
      ⟨tokens, .identifier (name.toList.flatMap fun character => [character])⟩ :=
    Reader.foldl_step_flatMap (fun character member held => by
      unfold identifierCharacter
      split
      · rename_i quote
        rw [quote]
        rfl
      · rename_i plain
        simp [Reader.step, Begun.continued?, plain]) []
  calc Reader.read ⟨tokens, .nothing⟩ (identifierText name ++ rest)
      = ((name.toList.flatMap identifierCharacter).foldl Reader.step ⟨tokens, .identifier []⟩).read
          ('\x22' :: rest) := by
        rw [← Reader.read_append, identifierText, List.append_assoc, List.cons_append, Reader.read_cons]
        rfl
    _ = Reader.read ⟨tokens, .identifierEnd name.toList⟩ rest := by
        rw [run, List.flatMap_singleton']
        rfl
    _ = Reader.read ⟨tokens ++ [.identifier name.toList], .nothing⟩ rest :=
        Reader.read_of_complete rfl (apart.ends (by simp [Begun.continued?]))

/-- A character between single quotes is itself, or a backslash guards what stands for it. -/
theorem textCharacter_cases (character : Char) :
    (∃ guarded, textCharacter character = ['\\', guarded]) ∨
      textCharacter character = [character] ∧ character ≠ '\\' ∧ character ≠ '\x27' := by
  unfold textCharacter
  split
  all_goals simp_all

/-- The end quote of a text is found. Quotes are guarded by backslashes only, which have to be known as guards
wherever there is one. -/
private theorem Reader.read_constant {escapes : Bool} {content : List Char}
    (marked : '\\' ∈ content.flatMap textCharacter → escapes = true) (apart : Separated rest) :
    Reader.read ⟨before, .constant escapes []⟩ (content.flatMap textCharacter ++ '\x27' :: rest) =
      Reader.read ⟨before ++ [.constant (content.flatMap textCharacter)], .nothing⟩ rest := by
  have run : (content.flatMap textCharacter).foldl Reader.step ⟨before, .constant escapes []⟩ =
      ⟨before, .constant escapes (content.flatMap textCharacter)⟩ := by
    refine Reader.foldl_step_flatMap (fun character member held => ?_) []
    rcases textCharacter_cases character with ⟨other, written⟩ | ⟨written, noGuard, noQuote⟩
    · obtain rfl := marked (List.mem_flatMap.mpr ⟨character, member, by simp [written]⟩)
      rw [written]
      rfl
    · rw [written]
      simp [Reader.step, Begun.continued?, noGuard, noQuote]
  calc Reader.read ⟨before, .constant escapes []⟩ (content.flatMap textCharacter ++ '\x27' :: rest)
      = Reader.read ⟨before, .constantEnd escapes (content.flatMap textCharacter)⟩ rest := by
        rw [Reader.read_append, run]
        rfl
    _ = Reader.read ⟨before ++ [.constant (content.flatMap textCharacter)], .nothing⟩ rest :=
        Reader.read_of_complete rfl (apart.ends (by simp [Begun.continued?]))

/-- A text between single quotes is read as what stands between them. -/
theorem reads_literal (content : String) :
    Reads (literalText content) [.constant (content.toList.flatMap textCharacter)] := by
  intro tokens rest apart
  have ends : '\x27' :: content.toList.flatMap textCharacter ++ ['\x27'] ++ rest =
      '\x27' :: (content.toList.flatMap textCharacter ++ '\x27' :: rest) := by simp
  unfold literalText
  dsimp only
  split
  · rw [List.cons_append, ends, Reader.read_cons]
    exact Reader.read_constant (fun _ => rfl) apart
  · rename_i unmarked
    rw [ends, Reader.read_cons]
    exact Reader.read_constant (fun guard => absurd guard unmarked) apart

end Pieces

section Numbers

variable {negative : Bool} {magnitude whole fraction : List Char}

private theorem numberTokens_signed (solid : magnitude.head?.any continuesWord) :
    numberTokens ((if negative then ['-'] else []) ++ magnitude) =
      (if negative then [.sign ['-']] else []) ++ [unsignedToken magnitude] := by
  cases negative with
  | true => rfl
  | false =>
    rw [if_neg Bool.false_ne_true, if_neg Bool.false_ne_true, List.nil_append, List.nil_append]
    unfold numberTokens
    split
    · cases solid
    · rfl

private theorem Reads.signed (reads : Reads magnitude [unsignedToken magnitude])
    (solid : magnitude.head?.any continuesWord) :
    Reads ((if negative then ['-'] else []) ++ magnitude)
      (numberTokens ((if negative then ['-'] else []) ++ magnitude)) := by
  rw [numberTokens_signed solid]
  cases negative with
  | true => exact reads.minus solid
  | false => exact reads

/-- A numeral with its sign taken off begins with a digit. -/
private theorem exists_digit (nonempty : whole ≠ []) (digits : ∀ digit ∈ whole ++ fraction, digit.isDigit) :
    ∃ first rest, whole ++ Number.pointed fraction = first :: rest ∧ first.isDigit ∧
      ∀ character ∈ rest, character.isDigit ∨ character = '.' := by
  cases whole with
  | nil => exact absurd rfl nonempty
  | cons first others =>
    refine ⟨first, others ++ Number.pointed fraction, rfl, digits first (by simp), fun character member => ?_⟩
    rcases List.mem_append.mp member with before | behind
    · exact .inl (digits character (by simp [before]))
    · unfold Number.pointed at behind
      split at behind
      · cases behind
      · rcases List.mem_cons.mp behind with point | after
        · exact .inr point
        · exact .inl (digits character (by simp [after]))

/-- A numeral is a number behind its sign. -/
theorem numberTokens_numeral (nonempty : whole ≠ []) (digits : ∀ digit ∈ whole ++ fraction, digit.isDigit) :
    numberTokens (Number.numeral negative whole fraction) =
      (if negative then [.sign ['-']] else []) ++ [.number (whole ++ Number.pointed fraction)] := by
  obtain ⟨first, rest, same, starts, -⟩ := exists_digit nonempty digits
  rw [Number.numeral, List.append_assoc, same,
    numberTokens_signed (by simp [continuesWord, Char.isAlphanum, starts])]
  simp [unsignedToken, starts]

theorem reads_numeral (nonempty : whole ≠ []) (digits : ∀ digit ∈ whole ++ fraction, digit.isDigit) :
    Reads (Number.numeral negative whole fraction)
      (numberTokens (Number.numeral negative whole fraction)) := by
  obtain ⟨first, rest, same, starts, inside⟩ := exists_digit nonempty digits
  have token : unsignedToken (first :: rest) = .number (first :: rest) := by simp [unsignedToken, starts]
  rw [Number.numeral, List.append_assoc, same]
  refine Reads.signed ?_ (by simp [continuesWord, Char.isAlphanum, starts])
  rw [token]
  exact reads_digits starts inside

/-- The text of an integer is a numeral. -/
theorem exists_numeral_of_integer (value : Int) :
    ∃ negative whole, whole ≠ [] ∧ (∀ digit ∈ whole ++ [], digit.isDigit) ∧
      (toString value).toList = Number.numeral negative whole [] := by
  have digits (magnitude : Nat) : ∀ digit ∈ Nat.toDigits 10 magnitude ++ [], digit.isDigit := by
    simpa using fun digit => Text.isDigit_of_mem_toDigits
  cases value with
  | ofNat magnitude =>
    refine ⟨false, Nat.toDigits 10 magnitude, Nat.toDigits_ne_nil, digits magnitude, ?_⟩
    have written : (toString (Int.ofNat magnitude)).toList = Nat.toDigits 10 magnitude := String.toList_ofList
    rw [written]
    simp [Number.numeral, Number.pointed]
  | negSucc magnitude =>
    refine ⟨true, Nat.toDigits 10 (magnitude + 1), Nat.toDigits_ne_nil, digits (magnitude + 1), ?_⟩
    have written : toString (Int.negSucc magnitude) = "-" ++ toString (magnitude + 1) := rfl
    rw [written, String.toList_append]
    simp [Number.numeral, Number.pointed]

private theorem toList_signText (negative : Bool) :
    (Number.signText negative).toList = if negative then ['-'] else [] := by
  cases negative <;> rfl

/-- An infinity is a word behind its sign. -/
theorem numberTokens_infinite (negative : Bool) :
    numberTokens (Number.infinite negative).text.toList =
      (if negative then [.sign ['-']] else []) ++ [.word ['i', 'n', 'f']] := by
  rw [Number.text, String.toList_append, toList_signText]
  exact numberTokens_signed (by decide)

/-- The text of every number is read, also where it is none. -/
theorem reads_number (value : Number) : Reads value.text.toList (numberTokens value.text.toList) := by
  cases value with
  | nan => exact reads_word (by decide) (by decide)
  | infinite negative =>
    rw [Number.text, String.toList_append, toList_signText]
    exact Reads.signed (reads_word (by decide) (by decide)) (by decide)
  | finite negative steps below short =>
    have isFinite : (Number.finite negative steps below short).isFinite := rfl
    obtain ⟨minus, whole, fraction, nonempty, digits, written, -⟩ := Number.exists_numeral isFinite
    rw [written]
    exact reads_numeral nonempty digits

theorem reads_integer (value : Int) :
    Reads (toString value).toList (numberTokens (toString value).toList) := by
  obtain ⟨negative, whole, nonempty, digits, written⟩ := exists_numeral_of_integer value
  rw [written]
  exact reads_numeral nonempty digits

end Numbers

/-- In front of anything separated the pieces are read as the tokens that they are meant to be. -/
def Readable (pieces : List Piece) : Prop :=
  Reads (pieces.flatMap Piece.characters) (pieces.flatMap Piece.tokens)

/-- The pieces are read as the tokens that they are meant to be, whatever follows. -/
def Closed (pieces : List Piece) : Prop :=
  ∀ before rest, Reader.read ⟨before, .nothing⟩ (pieces.flatMap Piece.characters ++ rest) =
    Reader.read ⟨before ++ pieces.flatMap Piece.tokens, .nothing⟩ rest

section Sequences

variable {first second : List Piece}

theorem Closed.nil : Closed [] := fun before rest => by simp

theorem Closed.readable (closed : Closed first) : Readable first := fun before rest _ => closed before rest

theorem Closed.append (left : Closed first) (right : Closed second) : Closed (first ++ second) := by
  intro before rest
  rw [List.flatMap_append, List.flatMap_append, List.append_assoc, left, right, List.append_assoc]

theorem Closed.append_readable (left : Closed first) (right : Readable second) :
    Readable (first ++ second) := by
  intro before rest apart
  rw [List.flatMap_append, List.flatMap_append, List.append_assoc, left, right _ _ apart, List.append_assoc]

/-- The piece ends what is in front of it and is complete in itself. -/
def Separates (piece : Piece) : Prop := Closed [piece] ∧ ∀ rest, Separated (piece.characters ++ rest)

theorem separates_blank : Separates .blank :=
  ⟨fun before rest => by simp [Piece.characters, Piece.tokens, Reader.read_cons, Reader.begin], fun _ => rfl⟩

theorem separates_comma : Separates (.mark ",") :=
  ⟨fun before rest => by simp [Piece.characters, Piece.tokens, Reader.read_cons, Reader.begin], fun _ => rfl⟩

theorem separates_closing : Separates (.mark ")") :=
  ⟨fun before rest => by simp [Piece.characters, Piece.tokens, Reader.read_cons, Reader.begin], fun _ => rfl⟩

theorem closed_opening : Closed [.mark "("] :=
  fun before rest => by simp [Piece.characters, Piece.tokens, Reader.read_cons, Reader.begin]

theorem Readable.append_separator {piece : Piece} (left : Readable first) (separates : Separates piece) :
    Closed (first ++ [piece]) := by
  intro before rest
  have apart : Separated ([piece].flatMap Piece.characters ++ rest) := by
    rw [List.flatMap_singleton]
    exact separates.2 rest
  rw [List.flatMap_append, List.flatMap_append, List.append_assoc, left _ _ apart, separates.1,
    List.append_assoc]

/-- A blank keeps pieces apart. -/
theorem Readable.spaced (left : Readable first) (right : Readable second) :
    Readable (first ++ .blank :: second) := by
  simpa only [List.append_assoc, List.singleton_append] using
    (left.append_separator separates_blank).append_readable right

theorem readable_parenthesized (inner : Readable first) : Readable (parenthesized first) :=
  (closed_opening.append_readable inner).append_separator separates_closing |>.readable

theorem readable_commaSeparated {items : List (List Piece)} (readable : ∀ item ∈ items, Readable item) :
    Readable (commaSeparated items) := by
  fun_induction commaSeparated items with
  | case1 => exact Closed.nil.readable
  | case2 item => exact readable item List.mem_cons_self
  | case3 item rest more ih =>
    have separated := (readable item List.mem_cons_self).append_separator separates_comma
    have remaining := ih fun other member => readable other (List.mem_cons_of_mem _ member)
    have blank := separated.append separates_blank.1
    rw [List.append_assoc] at blank
    exact blank.append_readable remaining

private theorem readable_items {α : Type} {write : α → List Piece} (readable : ∀ item, Readable (write item))
    (items : List α) : Readable (commaSeparated (items.map write)) := by
  apply readable_commaSeparated
  intro pieces member
  obtain ⟨item, -, rfl⟩ := List.mem_map.mp member
  exact readable item

private theorem readable_singleton {piece : Piece} (reads : Reads piece.characters piece.tokens) :
    Readable [piece] := by
  rwa [Readable, List.flatMap_singleton, List.flatMap_singleton]

/-- The letters are a word that the reader knows. -/
def IsWord (letters : String) : Prop :=
  letters.toList.head?.any (! ·.isDigit) ∧ letters.toList.all continuesWord

instance (letters : String) : Decidable (IsWord letters) := inferInstanceAs (Decidable (_ ∧ _))

theorem readable_word {letters : String} (isWord : IsWord letters) : Readable [.word letters] := by
  obtain ⟨starts, inside⟩ := isWord
  apply readable_singleton
  change Reads letters.toList [.word letters.toList]
  cases same : letters.toList with
  | nil =>
    rw [same] at starts
    cases starts
  | cons first others =>
    rw [same] at starts inside
    exact reads_word (by simpa using starts) inside

theorem readable_identifier (name : String) : Readable [.identifier name] :=
  readable_singleton (reads_identifier name)

theorem readable_text (content : String) : Readable [.text content] :=
  readable_singleton (reads_literal content)

theorem readable_relationSign (sign : Relation) : Readable [.mark (relationSign sign)] := by
  apply readable_singleton
  cases sign <;> exact reads_comparison (by decide)

theorem Scalar.readable_piece (scalar : Scalar) : Readable [scalar.piece] := by
  cases scalar with
  | text content => exact readable_text content
  | integer value => exact readable_singleton (reads_integer value)
  | number value => exact readable_singleton (reads_number value)
  | boolean value => cases value <;> exact readable_word (by decide)

theorem readable_wrapped {needed : Bool} (inner : Readable first) :
    Readable (Expression.wrapped needed first) := by
  cases needed with
  | false => exact inner
  | true => exact readable_parenthesized inner

/-- The text of every condition is readable. -/
theorem Expression.readable_pieces (expression : Expression) : Readable expression.pieces := by
  induction expression with
  | relation column sign value =>
    exact (readable_identifier column).spaced ((readable_relationSign sign).spaced value.readable_piece)
  | membership column values =>
    exact (readable_identifier column).spaced ((readable_word (by decide)).spaced
      (readable_parenthesized (readable_items Scalar.readable_piece values)))
  | like column pattern =>
    exact (readable_identifier column).spaced ((readable_word (by decide)).spaced
      ((readable_text pattern).spaced ((readable_word (by decide)).spaced (readable_text "\\"))))
  | isNull column =>
    exact (readable_identifier column).spaced ((readable_word (by decide)).spaced (readable_word (by decide)))
  | isNotNull column =>
    exact (readable_identifier column).spaced ((readable_word (by decide)).spaced
      ((readable_word (by decide)).spaced (readable_word (by decide))))
  | conjunction left right ihLeft ihRight =>
    rw [pieces, List.append_assoc]
    exact (readable_wrapped ihLeft).spaced ((readable_word (by decide)).spaced (readable_wrapped ihRight))
  | disjunction left right ihLeft ihRight =>
    rw [pieces, List.append_assoc]
    exact (readable_wrapped ihLeft).spaced ((readable_word (by decide)).spaced (readable_wrapped ihRight))
  | negation inner ih => exact (readable_word (by decide)).spaced (readable_wrapped ih)

theorem Selection.readable_pieces (selection : Selection) : Readable selection.pieces :=
  (readable_identifier selection.column).spaced
    ((readable_word (by decide)).spaced (readable_identifier selection.output))

theorem SortColumn.readable_pieces (sortColumn : SortColumn) : Readable sortColumn.pieces := by
  obtain ⟨column, direction⟩ := sortColumn
  cases direction <;>
    exact (readable_identifier column).spaced ((readable_word (by decide)).spaced
      ((readable_word (by decide)).spaced (readable_word (by decide))))

theorem Statement.readable_pieces (statement : Statement) : Readable statement.pieces := by
  obtain ⟨selections, table, condition?, order⟩ := statement
  have shown : Readable ([.word "SELECT", .blank] ++ commaSeparated (selections.map Selection.pieces)) :=
    (readable_word (by decide)).spaced (readable_items Selection.readable_pieces selections)
  have source : Readable ([.word "SELECT", .blank] ++ commaSeparated (selections.map Selection.pieces) ++
      [.blank, .word "FROM", .blank, .identifier table]) :=
    shown.spaced ((readable_word (by decide)).spaced (readable_identifier table))
  have sorted {front : List Piece} (chosen : Readable front) :
      Readable (front ++ if order = [] then [] else
        [.blank, .word "ORDER", .blank, .word "BY", .blank] ++
          commaSeparated (order.map SortColumn.pieces)) := by
    by_cases unordered : order = []
    · rw [if_pos unordered, List.append_nil]
      exact chosen
    · rw [if_neg unordered]
      exact chosen.spaced ((readable_word (by decide)).spaced ((readable_word (by decide)).spaced
        (readable_items SortColumn.readable_pieces order)))
  cases condition? with
  | none => exact sorted (by rwa [List.append_nil])
  | some condition =>
    exact sorted (source.spaced ((readable_word (by decide)).spaced condition.readable_pieces))

end Sequences

/-- The text of a statement has the tokens of its pieces. -/
theorem Statement.tokens?_text (statement : Statement) :
    tokens? statement.text = some (statement.pieces.flatMap Piece.tokens) := by
  rw [tokens?, Statement.text, String.toList_ofList]
  simpa [Reader.read] using statement.readable_pieces [] [] rfl

end RecordQuery.Sql
