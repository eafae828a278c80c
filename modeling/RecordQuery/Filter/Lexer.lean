import RecordQuery.Filter.Name
import RecordQuery.Filter.Token
import RecordQuery.Text.Basic

/-! # From characters to tokens

A scanner looks at the first character of a token and at what follows it, and tells the kind of the token
and how many of the following characters belong to it. The stream of a text skips blanks between tokens
and ends at the first character where no token begins.
-/

namespace RecordQuery.Lexer

/-- The words that are no names, in lower case. -/
def keywords : List (String × TokenKind) :=
  [("and", .conjunction), ("or", .disjunction), ("not", .negation), ("in", .membership),
    ("contains", .textMatch .contains), ("startswith", .textMatch .startsWith),
    ("endswith", .textMatch .endsWith), ("true", .boolean true), ("false", .boolean false),
    ("null", .null)]

/-- A word is a keyword in any letter case, and a name otherwise. -/
def wordKind (word : List Char) : TokenKind :=
  (keywords.lookup (String.ofList (word.map Char.toLower))).getD (.name (String.ofList word))

/-- Scans a word. -/
def scanWord (first : Char) (rest : List Char) : TokenKind × Nat :=
  let more := rest.takeWhile Name.isPart
  (wordKind (first :: more), more.length)

/-- The digits behind a point; a point without a digit does not belong to a number. -/
def fractionDigits : List Char → List Char
  | '.' :: rest => rest.takeWhile Char.isDigit
  | _ => []

/-- Scans a number that begins with a digit or with a minus. -/
def scanNumber (first : Char) (rest : List Char) : TokenKind × Nat :=
  let whole := rest.takeWhile Char.isDigit
  let fraction := fractionDigits (rest.dropWhile Char.isDigit)
  let number :=
    if first = '-' then Number.ofDigits true whole fraction
    else Number.ofDigits false (first :: whole) fraction
  (.number number, whole.length + if fraction = [] then 0 else fraction.length + 1)

/-- The content of a text behind its opening quote, and the number of characters up to and with the
closing one. A backslash guards a quote or a backslash and stands for itself elsewhere. -/
def textContent? (quote : Char) : List Char → Option (List Char × Nat)
  | [] => none
  | character :: rest =>
    if character = quote then some ([], 1)
    else if character = '\\' then
      match rest with
      | [] => none
      | guarded :: rest =>
        (textContent? quote rest).map fun (content, count) =>
          (if guarded = quote ∨ guarded = '\\' then guarded :: content else '\\' :: guarded :: content,
            count + 2)
    else (textContent? quote rest).map fun (content, count) => (character :: content, count + 1)

/-- Scans a text behind its opening quote. -/
def scanText (quote : Char) (rest : List Char) : Except LexicalProblem (TokenKind × Nat) :=
  match textContent? quote rest with
  | some (content, count) => .ok (.text (String.ofList content), count)
  | none => .error .unterminatedText

/-- Chooses a relation by whether an equals sign follows. -/
def scanRelation (alone withEquals : Relation) (rest : List Char) : TokenKind × Nat :=
  if rest.head? = some '=' then (.relation withEquals, 1) else (.relation alone, 0)

/-- A digit comes next. -/
def startsWithDigit (rest : List Char) : Bool := rest.head?.any Char.isDigit

/-- The token that begins with a character, and how many of the following characters belong to it. -/
def scan (first : Char) (rest : List Char) : Except LexicalProblem (TokenKind × Nat) :=
  match first with
  | '=' => .ok (.relation .equal, 0)
  | '(' => .ok (.opening, 0)
  | ')' => .ok (.closing, 0)
  | ',' => .ok (.comma, 0)
  | '<' => .ok (scanRelation .less .lessOrEqual rest)
  | '>' => .ok (scanRelation .greater .greaterOrEqual rest)
  | '!' => if rest.head? = some '=' then .ok (.relation .notEqual, 1) else .error .loneBang
  | '\x22' => scanText '\x22' rest
  | '\x27' => scanText '\x27' rest
  | _ =>
    if first.isDigit || (first == '-' && startsWithDigit rest) then .ok (scanNumber first rest)
    else if Name.isStart first then .ok (scanWord first rest)
    else .error (.unrecognized first)

/-- The tokens of the characters that start at a byte offset. -/
def tokensFrom (offset : Nat) : List Char → TokenStream
  | [] => .done
  | first :: rest =>
    if Text.isBlank first then tokensFrom (offset + first.utf8Size) rest
    else
      match scan first rest with
      | .error problem => .failed ⟨offset, problem⟩
      | .ok (kind, count) =>
        let stop := offset + first.utf8Size + Text.byteLength (rest.take count)
        .token ⟨kind, offset, stop⟩ (tokensFrom stop (rest.drop count))
termination_by characters => characters.length
decreasing_by
  · simp
  · simp only [List.length_drop, List.length_cons]
    omega

/-- The tokens of a text. -/
def tokens (text : String) : TokenStream := tokensFrom 0 text.toList

end RecordQuery.Lexer
