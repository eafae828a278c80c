import RecordQuery.Instant.Basic
import RecordQuery.Text.Basic

/-! # Instants as texts

Two forms are read: a date, a time and an offset, each part with its full number of digits and the year
with four; and a date alone, which means its first moment, with shorter parts and longer years behind a
sign. Instants are written in the first form in universal time, with no more fraction digits than needed
in steps of three; years outside 0 to 9999 have a sign.
-/

namespace RecordQuery.Instant

/-- Reads exactly this many digits. -/
def readFixed? (count : Nat) (text : List Char) : Option (Nat × List Char) :=
  let digits := text.take count
  if digits.length = count ∧ digits.all Char.isDigit then some (Text.digitsValue digits, text.drop count)
  else none

/-- Reads one digit or more, up to `count` of them. -/
def readUpTo? (count : Nat) (text : List Char) : Option (Nat × List Char) :=
  let digits := (text.takeWhile Char.isDigit).take count
  if digits = [] then none else some (Text.digitsValue digits, text.drop digits.length)

/-- Reads any number of digits, but at least one. -/
def readAll? (text : List Char) : Option (Nat × List Char) :=
  readUpTo? text.length text

/-- Takes off one expected character. -/
def skip? (expected : Char) : List Char → Option (List Char)
  | [] => none
  | character :: rest => if character = expected then some rest else none

/-- The mark between a date and a time. -/
def skipTimeMark? : List Char → Option (List Char)
  | 'T' :: rest | 't' :: rest | ' ' :: rest => some rest
  | _ => none

/-- Reads the fraction of a second, of which nine digits count. -/
def readFraction? : List Char → Option (Nat × List Char)
  | '.' :: rest =>
    let digits := rest.takeWhile Char.isDigit
    if digits = [] then none
    else
      let nanosecond := Text.digitsValue ((digits ++ List.replicate 9 '0').take 9)
      some (nanosecond, rest.dropWhile Char.isDigit)
  | rest => some (0, rest)

/-- Reads the hours and minutes of an offset. -/
def readOffsetMinutes? (text : List Char) : Option (Nat × List Char) := do
  let (hours, rest) ← readFixed? 2 text
  let (minutes, rest) ← readFixed? 2 (← skip? ':' rest)
  if hours < 24 ∧ minutes < 60 then some (hours * 60 + minutes, rest) else none

/-- Reads an offset in minutes; the letter Z stands for none, and a true minus sign is a minus too. -/
def readOffset? : List Char → Option (Int × List Char)
  | 'Z' :: rest | 'z' :: rest => some (0, rest)
  | '+' :: rest => (readOffsetMinutes? rest).map fun (minutes, rest) => ((minutes : Int), rest)
  | '-' :: rest | '−' :: rest =>
    (readOffsetMinutes? rest).map fun (minutes, rest) => (-(minutes : Int), rest)
  | _ => none

/-- The day of three fields, if there is one. -/
def dateOf? (year : Int) (month day : Nat) : Option CalendarDate :=
  if isDate : IsDate year month day then some ⟨year, month, day, isDate⟩ else none

/-- The time of day on a date, if there is one. -/
def timeOf? (date : CalendarDate) (hour minute second nanosecond : Nat) : Option Instant :=
  if fits : (hour < 24 ∧ minute < 60) ∧ second ≤ 60 ∧ nanosecond < 1000000000 then
    some ⟨date, hour * 60 + minute, second, nanosecond, by omega, fits.2.1, fits.2.2⟩
  else none

/-- Reads what follows the year of a moment: the rest of its date, a time and an offset. -/
def readBehindYear? (year : Int) (text : List Char) : Option Instant := do
  let (month, rest) ← readFixed? 2 (← skip? '-' text)
  let (day, rest) ← readFixed? 2 (← skip? '-' rest)
  let (hour, rest) ← readFixed? 2 (← skipTimeMark? rest)
  let (minute, rest) ← readFixed? 2 (← skip? ':' rest)
  let (second, rest) ← readFixed? 2 (← skip? ':' rest)
  let (nanosecond, rest) ← readFraction? rest
  let (offset, rest) ← readOffset? rest
  if rest = [] then
    let date ← dateOf? year month day
    let wall ← timeOf? date hour minute second nanosecond
    some (ofLocal wall offset)
  else none

/-- Reads a date, a time and an offset. -/
def readMoment? (text : List Char) : Option Instant := do
  let (year, rest) ← readFixed? 4 text
  readBehindYear? year rest

/-- Reads a year, which has up to four digits, or any number of them behind a sign. -/
def readYear? : List Char → Option (Int × List Char)
  | '-' :: rest => (readAll? rest).map fun (year, rest) => (-(year : Int), rest)
  | '+' :: rest => (readAll? rest).map fun (year, rest) => ((year : Int), rest)
  | text => (readUpTo? 4 text).map fun (year, rest) => ((year : Int), rest)

/-- Reads a date alone; blanks may stand before its parts. -/
def readDay? (text : List Char) : Option CalendarDate := do
  let (year, rest) ← readYear? (Text.trimLeft text)
  let (month, rest) ← readUpTo? 2 (Text.trimLeft (← skip? '-' rest))
  let (day, rest) ← readUpTo? 2 (Text.trimLeft (← skip? '-' rest))
  if rest = [] ∧ -262143 ≤ year ∧ year ≤ 262142 then dateOf? year month day else none

/-- Reads a text in one of the two forms. -/
def ofText? (text : String) : Option Instant :=
  let trimmed := Text.trimBoth text.toList
  readMoment? trimmed <|> (readDay? trimmed).map midnight

/-- A number with leading zeros up to a width. -/
def padded (width value : Nat) : String :=
  let digits := Nat.toDigits 10 value
  String.ofList (List.replicate (width - digits.length) '0' ++ digits)

/-- The year with at least four digits, signed outside 0 to 9999. -/
def yearText (year : Int) : String :=
  if year < 0 then "-" ++ padded 4 year.natAbs
  else if 9999 < year then "+" ++ padded 4 year.natAbs
  else padded 4 year.natAbs

/-- The fraction of a second in thousandths, millionths or billionths. -/
def fractionText (nanosecond : Nat) : String :=
  if nanosecond = 0 then ""
  else if nanosecond % 1000000 = 0 then "." ++ padded 3 (nanosecond / 1000000)
  else if nanosecond % 1000 = 0 then "." ++ padded 6 (nanosecond / 1000)
  else "." ++ padded 9 nanosecond

/-- The instant in universal time. -/
def text (instant : Instant) : String :=
  let date := s!"{yearText instant.date.year}-{padded 2 instant.date.month}-{padded 2 instant.date.day}"
  let time := s!"{padded 2 (instant.minute / 60)}:{padded 2 (instant.minute % 60)}:{padded 2 instant.second}"
  s!"{date}T{time}{fractionText instant.nanosecond}+00:00"

end RecordQuery.Instant
