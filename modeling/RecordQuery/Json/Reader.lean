import RecordQuery.Number.Decimal

/-! # Reading JSON into known shapes

A text is read from left to right straight into the shape that is wanted, and the first problem on the way
decides: the text is no JSON, it ends too early, or it is JSON of another shape. A scalar of a wrong type is
read to its end before it is refused; a wrong array or object is refused at its bracket. Values that are
not wanted are checked for their grammar only. A reader gives its value and the characters behind it.
-/

namespace RecordQuery.Json

/-- Why a JSON text is refused. -/
inductive Problem where
  | malformed
  | truncated
  | unsuitable
deriving DecidableEq, Repr

/-- Leaves out white space. -/
def skipBlanks (characters : List Char) : List Char :=
  characters.dropWhile fun character =>
    character == ' ' || character == '\n' || character == '\t' || character == '\r'

/-- The value of a hexadecimal digit. -/
def hexDigit? (character : Char) : Option Nat :=
  if character.isDigit then some (character.toNat - 48)
  else if 'a' ≤ character ∧ character ≤ 'f' then some (character.toNat - 87)
  else if 'A' ≤ character ∧ character ≤ 'F' then some (character.toNat - 55)
  else none

/-- Reads four hexadecimal digits. Fewer than four bytes are a text that ends too early. -/
def readHex : List Char → Except Problem (Nat × List Char)
  | first :: second :: third :: fourth :: rest =>
    match [first, second, third, fourth].mapM hexDigit? with
    | some digits => .ok (digits.foldl (fun value digit => 16 * value + digit) 0, rest)
    | none => .error .malformed
  | short => .error (if Text.byteLength short < 4 then .truncated else .malformed)

/-- The second half of a character outside the basic plane. -/
def readLowSurrogate (high : Nat) : List Char → Except Problem (Char × List Char)
  | [] => .error .truncated
  | ['\\'] => .error .truncated
  | '\\' :: 'u' :: rest => do
    let (low, rest) ← readHex rest
    if 0xDC00 ≤ low ∧ low ≤ 0xDFFF then
      .ok (Char.ofNat ((high - 0xD800) * 0x400 + (low - 0xDC00) + 0x10000), rest)
    else .error .malformed
  | _ => .error .malformed

/-- A character by its code units. -/
def readCodePoint (characters : List Char) : Except Problem (Char × List Char) := do
  let (unit, rest) ← readHex characters
  if 0xDC00 ≤ unit ∧ unit ≤ 0xDFFF then .error .malformed
  else if 0xD800 ≤ unit ∧ unit ≤ 0xDBFF then readLowSurrogate unit rest
  else .ok (Char.ofNat unit, rest)

/-- The character that a letter behind a backslash stands for. -/
def simpleEscape? : Char → Option Char
  | '\x22' => some '\x22'
  | '\\' => some '\\'
  | '/' => some '/'
  | 'b' => some '\x08'
  | 'f' => some '\x0c'
  | 'n' => some '\n'
  | 'r' => some '\r'
  | 't' => some '\t'
  | _ => none

/-- What follows a backslash. -/
def readEscape : List Char → Except Problem (Char × List Char)
  | [] => .error .truncated
  | 'u' :: rest => readCodePoint rest
  | letter :: rest =>
    match simpleEscape? letter with
    | some character => .ok (character, rest)
    | none => .error .malformed

/-- What follows a backslash, without regard to what the code units mean. -/
def skipEscape : List Char → Except Problem (Unit × List Char)
  | [] => .error .truncated
  | 'u' :: rest => (readHex rest).map fun (_, rest) => ((), rest)
  | letter :: rest => if (simpleEscape? letter).isSome then .ok ((), rest) else .error .malformed

/-- Goes through a text behind its opening quote and collects what `escape` makes of the escapes and
`plain` of the other characters. The fuel is the number of characters. -/
def throughText {α : Type} (plain : Char → α) (escape : List Char → Except Problem (α × List Char)) :
    Nat → List Char → Except Problem (List α × List Char)
  | _, [] => .error .truncated
  | 0, _ => .error .truncated
  | fuel + 1, character :: rest =>
    if character = '\x22' then .ok ([], rest)
    else if character = '\\' then do
      let (item, rest) ← escape rest
      let (items, rest) ← throughText plain escape fuel rest
      return (item :: items, rest)
    else if character.toNat < 32 then .error .malformed
    else do
      let (items, rest) ← throughText plain escape fuel rest
      return (plain character :: items, rest)

/-- Reads a text behind its opening quote. -/
def readText (characters : List Char) : Except Problem (String × List Char) := do
  let (content, rest) ← throughText id readEscape characters.length characters
  return (String.ofList content, rest)

/-- Leaves out a text behind its opening quote. -/
def skipText (characters : List Char) : Except Problem (List Char) :=
  (throughText (fun _ => ()) skipEscape characters.length characters).map Prod.snd

/-- Takes the expected characters one by one. -/
def expectWord : List Char → List Char → Except Problem (List Char)
  | [], characters => .ok characters
  | _ :: _, [] => .error .truncated
  | expected :: more, character :: rest =>
    if character = expected then expectWord more rest else .error .malformed

/-- Takes digits as long as the value of all digits fits into 64 bits. Gives the value and the number of
digits taken. -/
def absorbDigits (value : Nat) : List Char → Nat × Nat
  | [] => (value, 0)
  | digit :: rest =>
    let grown := 10 * value + (digit.toNat - 48)
    if grown < UInt64.size then
      let (whole, count) := absorbDigits grown rest
      (whole, count + 1)
    else (value, 0)

/-- A magnitude that is computed from 64 bits of its digits, each step rounded in turn, is finite. -/
def isInRange (significand : Nat) (exponent : Int) : Bool :=
  if significand = 0 ∨ exponent < 0 then true
  else if 308 < exponent then false
  else
    let mantissa := Decimal.roundedSteps ⟨significand, 0⟩
    let power := Decimal.roundedSteps ⟨1, exponent⟩
    Number.roundSteps (mantissa * power) Number.stepsPerUnit < Number.limit

/-- The whole digits of a number, of which only a single one may be zero at the beginning. -/
def readWholeDigits (ending : Problem) (characters : List Char) : Except Problem (List Char × List Char) :=
  match characters with
  | [] => .error ending
  | '0' :: next :: rest =>
    if next.isDigit then .error .malformed else .ok (['0'], next :: rest)
  | first :: rest =>
    if first.isDigit then
      .ok (first :: rest.takeWhile Char.isDigit, rest.dropWhile Char.isDigit)
    else .error .malformed

/-- The digits that have to follow a point or an exponent mark; `ending` is the problem of a text that
ends instead. -/
def readRequiredDigits (ending : Problem) (characters : List Char) : Except Problem (List Char × List Char) :=
  match characters with
  | [] => .error ending
  | first :: rest =>
    if first.isDigit then
      .ok (first :: rest.takeWhile Char.isDigit, rest.dropWhile Char.isDigit)
    else .error .malformed

/-- The digits of a fraction, if there is one. -/
def readFractionDigits (ending : Problem) : List Char → Except Problem (Option (List Char) × List Char)
  | '.' :: rest => (readRequiredDigits ending rest).map fun (digits, rest) => (some digits, rest)
  | rest => .ok (none, rest)

/-- The value of an exponent, if there is one. -/
def readExponentValue (ending : Problem) : List Char → Except Problem (Option Int × List Char)
  | mark :: rest =>
    if mark = 'e' ∨ mark = 'E' then do
      let (negative, unsigned) := Number.splitSign rest
      let (digits, rest) ← readRequiredDigits ending unsigned
      return (some (Number.signed negative (Text.digitsValue digits)), rest)
    else .ok (none, mark :: rest)
  | [] => .ok (none, [])

/-- A number without its sign, as far as its type can tell: a natural number below 2⁶⁴, or another one. -/
inductive Numeral where
  | natural (value : Nat)
  | other
deriving DecidableEq, Repr

/-- Reads a number behind its sign. One that is too large for a double is no JSON here. -/
def readNumeral (characters : List Char) : Except Problem (Numeral × List Char) := do
  let (whole, rest) ← readWholeDigits .truncated characters
  let (fraction?, rest) ← readFractionDigits .truncated rest
  let (exponent?, rest) ← readExponentValue .truncated rest
  let (mantissa, taken) := absorbDigits 0 whole
  let fraction := fraction?.getD []
  let (significand, places) := absorbDigits mantissa fraction
  let exponent : Int := (exponent?.getD 0) + (whole.length - taken : Nat) - places
  if fraction?.isNone ∧ exponent?.isNone ∧ taken = whole.length then
    return (.natural mantissa, rest)
  else if isInRange significand exponent then return (.other, rest)
  else .error .malformed

/-- Leaves out a number behind its sign. -/
def skipNumeral (characters : List Char) : Except Problem (List Char) := do
  let (_, rest) ← readWholeDigits .malformed characters
  let (_, rest) ← readFractionDigits .malformed rest
  let (_, rest) ← readExponentValue .malformed rest
  return rest

/-- Refuses a value of a wrong type, or finds a problem in the scalar that stands there. -/
def refuse {α : Type} : List Char → Except Problem α
  | [] => .error .truncated
  | 'n' :: rest => expectWord "ull".toList rest >>= fun _ => .error .unsuitable
  | 't' :: rest => expectWord "rue".toList rest >>= fun _ => .error .unsuitable
  | 'f' :: rest => expectWord "alse".toList rest >>= fun _ => .error .unsuitable
  | '-' :: rest => readNumeral rest >>= fun _ => .error .unsuitable
  | '\x22' :: rest => readText rest >>= fun _ => .error .unsuitable
  | '[' :: _ => .error .unsuitable
  | '\x7b' :: _ => .error .unsuitable
  | other :: rest =>
    if other.isDigit then readNumeral (other :: rest) >>= fun _ => .error .unsuitable
    else .error .malformed

/-- Reads a value that has to be a text. -/
def readTextValue (characters : List Char) : Except Problem (String × List Char) :=
  match skipBlanks characters with
  | '\x22' :: rest => readText rest
  | other => refuse other

/-- Reads a value that has to be a text or null. -/
def readOptionalText (characters : List Char) : Except Problem (Option String × List Char) :=
  match skipBlanks characters with
  | 'n' :: rest => (expectWord "ull".toList rest).map fun rest => (none, rest)
  | other => (readTextValue other).map fun (content, rest) => (some content, rest)

/-- Reads a value that has to be a natural number below 2⁶⁴. -/
def readNatural (characters : List Char) : Except Problem (Nat × List Char) :=
  match skipBlanks characters with
  | [] => .error .truncated
  | first :: rest =>
    if first.isDigit then
      readNumeral (first :: rest) >>= fun
        | (.natural value, rest) => .ok (value, rest)
        | (.other, _) => .error .unsuitable
    else refuse (first :: rest)

/-- An array or an object that is open around an unwanted value. -/
inductive Enclosure where
  | array
  | object
deriving DecidableEq, Repr

/-- The bracket that ends an enclosure. -/
def Enclosure.closing : Enclosure → Char
  | array => ']'
  | object => '\x7d'

/-- Takes the colon behind a key. -/
def expectColon (characters : List Char) : Except Problem (List Char) :=
  match skipBlanks characters with
  | [] => .error .truncated
  | ':' :: rest => .ok rest
  | _ => .error .malformed

/-- Goes to the value of the next member, over its key if it has one. -/
def enterMember (enclosure : Enclosure) (characters : List Char) : Except Problem (List Char) :=
  match enclosure with
  | .array => .ok characters
  | .object =>
    match skipBlanks characters with
    | [] => .error .truncated
    | '\x22' :: rest => skipText rest >>= expectColon
    | _ => .error .malformed

/-- Goes from the end of a value to the next one, over the ends of enclosures. Without an enclosure
nothing is left to do. -/
def leaveValue : List Enclosure → List Char → Except Problem (List Enclosure × List Char)
  | [], characters => .ok ([], characters)
  | enclosure :: outer, characters =>
    match skipBlanks characters with
    | [] => .error .truncated
    | ',' :: rest => (enterMember enclosure rest).map fun rest => (enclosure :: outer, rest)
    | other :: rest =>
      if other = enclosure.closing then leaveValue outer rest else .error .malformed

/-- Goes into an array or an object, or over an empty one. -/
def enterEnclosure (enclosure : Enclosure) (outer : List Enclosure) (characters : List Char) :
    Except Problem (List Enclosure × List Char) :=
  match skipBlanks characters with
  | [] => .error .truncated
  | other :: rest =>
    if other = enclosure.closing then leaveValue outer rest
    else (enterMember enclosure (other :: rest)).map fun rest => (enclosure :: outer, rest)

/-- Goes from the beginning of an unwanted value to the beginning of the next one. -/
def passValue (outer : List Enclosure) (characters : List Char) :
    Except Problem (List Enclosure × List Char) :=
  match skipBlanks characters with
  | [] => .error .truncated
  | 'n' :: rest => expectWord "ull".toList rest >>= leaveValue outer
  | 't' :: rest => expectWord "rue".toList rest >>= leaveValue outer
  | 'f' :: rest => expectWord "alse".toList rest >>= leaveValue outer
  | '-' :: rest => skipNumeral rest >>= leaveValue outer
  | '\x22' :: rest => skipText rest >>= leaveValue outer
  | '[' :: rest => enterEnclosure .array outer rest
  | '\x7b' :: rest => enterEnclosure .object outer rest
  | other :: rest =>
    if other.isDigit then skipNumeral (other :: rest) >>= leaveValue outer else .error .malformed

/-- Leaves out values until no enclosure is open. Every value has a character of its own, so that the
number of characters is enough fuel. -/
def skipValues : Nat → List Enclosure → List Char → Except Problem (List Char)
  | 0, _, _ => .error .truncated
  | fuel + 1, outer, characters =>
    passValue outer characters >>= fun
      | ([], rest) => .ok rest
      | (open?, rest) => skipValues fuel open? rest

/-- Leaves out a value. -/
def skipValue (characters : List Char) : Except Problem (List Char) :=
  skipValues (characters.length + 1) [] characters

/-- Goes to the next key of an object and gives what follows its quote, or to the end of the object. -/
def nextKey? (isFirst : Bool) (characters : List Char) : Except Problem (Option (List Char)) :=
  match skipBlanks characters with
  | [] => .error .truncated
  | '\x7d' :: _ => .ok none
  | other :: rest =>
    if isFirst then if other = '\x22' then .ok (some rest) else .error .malformed
    else if other = ',' then
      match skipBlanks rest with
      | [] => .error .truncated
      | '\x22' :: rest => .ok (some rest)
      | _ => .error .malformed
    else .error .malformed

/-- Goes to the next element of an array, or to the end of the array. -/
def nextElement? (isFirst : Bool) (characters : List Char) : Except Problem (Option (List Char)) :=
  match skipBlanks characters with
  | [] => .error .truncated
  | ']' :: _ => .ok none
  | other :: rest =>
    if isFirst then .ok (some (other :: rest))
    else if other = ',' then
      match skipBlanks rest with
      | [] => .error .truncated
      | ']' :: _ => .error .malformed
      | rest => .ok (some rest)
    else .error .malformed

/-- Reads the members of an object behind its bracket: `member` takes the state, a key and what follows
it. Every member has a character of its own, so that the number of characters is enough fuel. -/
def readMembers {σ : Type} (member : σ → String → List Char → Except Problem (σ × List Char)) :
    Nat → Bool → σ → List Char → Except Problem (σ × List Char)
  | 0, _, _, _ => .error .truncated
  | fuel + 1, isFirst, state, characters =>
    nextKey? isFirst characters >>= fun
      | none => .ok (state, (skipBlanks characters).drop 1)
      | some rest => do
        let (key, rest) ← readText rest
        let (state, rest) ← member state key rest
        readMembers member fuel false state rest

/-- Reads an object behind its bracket. -/
def readObject {σ : Type} (member : σ → String → List Char → Except Problem (σ × List Char))
    (initial : σ) (characters : List Char) : Except Problem (σ × List Char) :=
  readMembers member (characters.length + 1) true initial characters

/-- Reads the value of a member behind its key. -/
def readMember {α : Type} (value : List Char → Except Problem (α × List Char))
    (characters : List Char) : Except Problem (α × List Char) :=
  expectColon characters >>= value

/-- Reads an element of an array, if there is one more. -/
def readElement? {α : Type} (isFirst : Bool) (value : List Char → Except Problem (α × List Char))
    (characters : List Char) : Except Problem (Option α × List Char) :=
  nextElement? isFirst characters >>= fun
    | none => .ok (none, characters)
    | some rest => (value rest).map fun (item, rest) => (some item, rest)

/-- Takes the end of an array that has no more elements to read. -/
def endArray (characters : List Char) : Except Problem (List Char) :=
  match skipBlanks characters with
  | [] => .error .truncated
  | ']' :: rest => .ok rest
  | _ => .error .malformed

/-- The value of a reading that leaves nothing but white space. -/
def complete {α : Type} (reading : Except Problem (α × List Char)) : Except Problem α := do
  let (value, rest) ← reading
  if skipBlanks rest = [] then return value else .error .malformed

end RecordQuery.Json
