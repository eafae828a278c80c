/-! # Reading SQL text

A reader cuts a text into tokens by the lexical rules of PostgreSQL. A double quote stands for itself between
double quotes if it is doubled, and a single quote between single quotes; behind the mark E a backslash takes
the next character with it. Outside quotes the reader knows words, numbers, parentheses, commas, comparison
signs and the minus, and refuses everything else.
-/

namespace RecordQuery.Sql

/-- A token of a text. A name has lost its quotes, and a constant is kept as it is written between them. -/
inductive Token where
  | word (letters : List Char)
  | number (digits : List Char)
  | sign (signs : List Char)
  | identifier (name : List Char)
  | constant (written : List Char)
deriving DecidableEq, Repr

/-- What has been read of a token. At an end quote the token is complete unless the quote is doubled, and the
character behind a backslash is taken as it is. -/
inductive Begun where
  | nothing
  | refused
  | word (letters : List Char)
  | number (digits : List Char)
  | sign (signs : List Char)
  | identifier (name : List Char)
  | identifierEnd (name : List Char)
  | constant (escapes : Bool) (written : List Char)
  | constantEscape (written : List Char)
  | constantEnd (escapes : Bool) (written : List Char)

/-- The characters of words behind the first one. -/
def continuesWord (character : Char) : Bool := character.isAlphanum || character == '_'

def isComparisonSign (character : Char) : Bool := ['<', '>', '='].contains character

namespace Begun

/-- The begun token with one more character, if the character belongs to it. -/
def continued? (character : Char) : Begun → Option Begun
  | nothing => none
  | refused => some refused
  | word letters =>
    if continuesWord character then some (word (letters ++ [character]))
    else if character = '\x27' then some (if letters = ['E'] then constant true [] else refused)
    else none
  | number digits =>
    if character.isDigit || character == '.' then some (number (digits ++ [character]))
    else if continuesWord character then some refused
    else none
  | sign signs =>
    if isComparisonSign character then some (sign (signs ++ [character]))
    else if character = '-' then some refused
    else none
  | identifier name =>
    some (if character = '\x22' then identifierEnd name else identifier (name ++ [character]))
  | identifierEnd name => if character = '\x22' then some (identifier (name ++ [character])) else none
  | constant escapes written =>
    some (if character = '\x27' then constantEnd escapes written
      else if escapes && character == '\\' then constantEscape written
      else constant escapes (written ++ [character]))
  | constantEscape written => some (constant true (written ++ ['\\', character]))
  | constantEnd escapes written =>
    if character = '\x27' then some (constant escapes (written ++ ['\x27', '\x27'])) else none

/-- The token as it stands, if it may end here. -/
def complete? : Begun → Option (List Token)
  | nothing => some []
  | word letters => some [.word letters]
  | number digits => some [.number digits]
  | sign signs => some [.sign signs]
  | identifierEnd name => some [.identifier name]
  | constantEnd _ written => some [.constant written]
  | refused | identifier _ | constant _ _ | constantEscape _ => none

@[simp] theorem continued?_nothing (character : Char) : nothing.continued? character = none := rfl

@[simp] theorem complete?_nothing : nothing.complete? = some [] := rfl

end Begun

/-- The complete tokens and the one that has begun. -/
structure Reader where
  tokens : List Token
  begun : Begun

namespace Reader

/-- Reads a character that belongs to no token before it. -/
def begin (tokens : List Token) (character : Char) : Reader :=
  if [' ', '\t', '\n', '\r'].contains character then ⟨tokens, .nothing⟩
  else if ['(', ')', ','].contains character then ⟨tokens ++ [.sign [character]], .nothing⟩
  else if isComparisonSign character || character == '-' then ⟨tokens, .sign [character]⟩
  else if character = '\x22' then ⟨tokens, .identifier []⟩
  else if character = '\x27' then ⟨tokens, .constant false []⟩
  else if character.isDigit then ⟨tokens, .number [character]⟩
  else if continuesWord character then ⟨tokens, .word [character]⟩
  else ⟨tokens, .refused⟩

/-- Reads one character. -/
def step (reader : Reader) (character : Char) : Reader :=
  match reader.begun.continued? character with
  | some begun => ⟨reader.tokens, begun⟩
  | none => begin (reader.tokens ++ reader.begun.complete?.getD []) character

/-- Reads the characters up to the end of the text. -/
def read (reader : Reader) (characters : List Char) : Option (List Token) :=
  let last := characters.foldl step reader
  last.begun.complete?.map (last.tokens ++ ·)

end Reader

/-- The tokens of a text. -/
def tokens? (text : String) : Option (List Token) := Reader.read ⟨[], .nothing⟩ text.toList

/-- A character comes first that ends every token outside quotes. -/
def Separated (rest : List Char) : Prop := rest.head?.all [' ', ',', ')'].contains

/-- In front of anything separated the characters are read as these tokens. -/
def Reads (characters : List Char) (tokens : List Token) : Prop :=
  ∀ before rest, Separated rest →
    Reader.read ⟨before, .nothing⟩ (characters ++ rest) = Reader.read ⟨before ++ tokens, .nothing⟩ rest

section Runs

variable {before tokens : List Token} {begun : Begun} {rest : List Char}

theorem Reader.read_append (reader : Reader) (first second : List Char) :
    reader.read (first ++ second) = (first.foldl Reader.step reader).read second := by
  rw [Reader.read, Reader.read, List.foldl_append]

theorem Reader.read_cons (before : List Token) (first : Char) (rest : List Char) :
    Reader.read ⟨before, .nothing⟩ (first :: rest) = (Reader.begin before first).read rest := by
  have step : Reader.step ⟨before, .nothing⟩ first = Reader.begin before first := by simp [Reader.step]
  exact congrArg (Reader.read · rest) step

/-- A complete token ends where a character comes that does not continue it. -/
theorem Reader.read_of_complete (complete : begun.complete? = some tokens)
    (ends : ∀ character ∈ rest.head?, begun.continued? character = none) :
    Reader.read ⟨before, begun⟩ rest = Reader.read ⟨before ++ tokens, .nothing⟩ rest := by
  cases rest with
  | nil => simp [Reader.read, complete]
  | cons character rest =>
    have stops := ends character rfl
    have same :
        Reader.step ⟨before, begun⟩ character = Reader.step ⟨before ++ tokens, .nothing⟩ character := by
      simp [Reader.step, stops, complete]
    exact congrArg (Reader.read · rest) same

theorem Separated.ends (apart : Separated rest)
    (ends : ∀ character ∈ [' ', ',', ')'], begun.continued? character = none) :
    ∀ character ∈ rest.head?, begun.continued? character = none := by
  intro character first
  rw [Separated, first, Option.all_some, List.contains_iff_mem] at apart
  exact ends character apart

/-- A token that is continued by each part of a text holds all of it at the end. -/
theorem Reader.foldl_step_flatMap {items : List Char} {write hold : Char → List Char}
    {kind : List Char → Begun}
    (continues : ∀ item ∈ items, ∀ held, (write item).foldl Reader.step ⟨before, kind held⟩ =
      ⟨before, kind (held ++ hold item)⟩) (held : List Char) :
    (items.flatMap write).foldl Reader.step ⟨before, kind held⟩ =
      ⟨before, kind (held ++ items.flatMap hold)⟩ := by
  induction items generalizing held with
  | nil => simp
  | cons item items ih =>
    rw [List.flatMap_cons, List.flatMap_cons, List.foldl_append, continues item List.mem_cons_self,
      ih (fun other member => continues other (List.mem_cons_of_mem _ member)), List.append_assoc]

/-- A token that goes on with single characters is read whole. -/
theorem reads_run (kind : List Char → Begun) {first : Char} {others : List Char} {token : Token}
    (starts : ∀ before, Reader.begin before first = ⟨before, kind [first]⟩)
    (continues : ∀ character ∈ others, ∀ held,
      (kind held).continued? character = some (kind (held ++ [character])))
    (complete : (kind (first :: others)).complete? = some [token])
    (ends : ∀ character ∈ [' ', ',', ')'], (kind (first :: others)).continued? character = none) :
    Reads (first :: others) [token] := by
  intro before rest apart
  have run : (others.flatMap fun character => [character]).foldl Reader.step ⟨before, kind [first]⟩ =
      ⟨before, kind ([first] ++ others.flatMap fun character => [character])⟩ :=
    Reader.foldl_step_flatMap (fun character member held => by
      simp [Reader.step, continues character member held]) [first]
  rw [List.flatMap_singleton', List.singleton_append] at run
  rw [List.cons_append, Reader.read_cons, starts, Reader.read_append, run]
  exact Reader.read_of_complete complete (apart.ends ends)

end Runs

end RecordQuery.Sql
