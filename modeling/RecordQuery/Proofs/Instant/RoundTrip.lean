import RecordQuery.Instant.Text
import RecordQuery.Proofs.Text.Digits

/-! # Instants are read back from their texts

The text of an instant has all its fields: padded numbers have the digits that a part of fixed width needs,
a year outside four digits shows its sign, and the fraction keeps every nanosecond that is not a zero at its
end. What is stored for an instant is therefore the instant itself.
-/

namespace RecordQuery.Instant

section Padded

variable {width value : Nat}

theorem toList_padded (width value : Nat) :
    (padded width value).toList =
      List.replicate (width - (Nat.toDigits 10 value).length) '0' ++ Nat.toDigits 10 value := by
  rw [padded, String.toList_ofList]

theorem digitsValue_padded (width value : Nat) : Text.digitsValue (padded width value).toList = value := by
  rw [toList_padded, Text.digitsValue_zeros_append, Text.digitsValue_toDigits]

theorem isDigit_of_mem_padded {digit : Char} (member : digit ∈ (padded width value).toList) :
    digit.isDigit := by
  rw [toList_padded, List.mem_append] at member
  rcases member with zero | digit
  · exact Text.isDigit_of_mem_zeros zero
  · exact Text.isDigit_of_mem_toDigits digit

theorem toList_padded_ne_nil (width value : Nat) : (padded width value).toList ≠ [] := by
  rw [toList_padded]
  exact List.append_ne_nil_of_right_ne_nil _ Nat.toDigits_ne_nil

/-- A number that fits the width fills it. -/
theorem length_padded (positive : 0 < width) (bound : value < 10 ^ width) :
    (padded width value).toList.length = width := by
  have fits := (Nat.length_toDigits_le_iff (by decide : 1 < 10) positive).mpr bound
  rw [toList_padded, List.length_append, List.length_replicate]
  omega

theorem readFixed?_padded (positive : 0 < width) (bound : value < 10 ^ width) (rest : List Char) :
    readFixed? width ((padded width value).toList ++ rest) = some (value, rest) := by
  have filled := length_padded positive bound
  have digits : (padded width value).toList.all Char.isDigit :=
    List.all_eq_true.mpr fun _ => isDigit_of_mem_padded
  unfold readFixed?
  dsimp only
  rw [List.take_left' filled, List.drop_left' filled, if_pos ⟨filled, digits⟩, digitsValue_padded]

end Padded

/-- Digits are read to their end if they are not too many. -/
theorem readUpTo?_digits {count : Nat} {digits rest : List Char} (nonempty : digits ≠ [])
    (inside : ∀ digit ∈ digits, digit.isDigit) (short : digits.length ≤ count)
    (outside : rest.head?.any Char.isDigit = false) :
    readUpTo? count (digits ++ rest) = some (Text.digitsValue digits, rest) := by
  unfold readUpTo?
  dsimp only
  rw [Text.takeWhile_run inside outside, List.take_of_length_le short, if_neg nonempty, List.drop_left]

theorem readUpTo?_padded {width value count : Nat} {rest : List Char}
    (short : (padded width value).toList.length ≤ count) (outside : rest.head?.any Char.isDigit = false) :
    readUpTo? count ((padded width value).toList ++ rest) = some (value, rest) := by
  rw [readUpTo?_digits (toList_padded_ne_nil _ _) (fun _ => isDigit_of_mem_padded) short outside,
    digitsValue_padded]

theorem readAll?_padded {width value : Nat} {rest : List Char}
    (outside : rest.head?.any Char.isDigit = false) :
    readAll? ((padded width value).toList ++ rest) = some (value, rest) :=
  readUpTo?_padded (by rw [List.length_append]; omega) outside

private theorem readYear?_minus (rest : List Char) :
    readYear? ('-' :: rest) = (readAll? rest).map fun (year, rest) => (-(year : Int), rest) :=
  rfl

private theorem readYear?_plus (rest : List Char) :
    readYear? ('+' :: rest) = (readAll? rest).map fun (year, rest) => ((year : Int), rest) :=
  rfl

private theorem readYear?_digit {first : Char} (digit : first.isDigit) (rest : List Char) :
    readYear? (first :: rest) =
      (readUpTo? 4 (first :: rest)).map fun (year, rest) => ((year : Int), rest) := by
  rw [readYear?]
  · rintro _ same
    obtain ⟨rfl, -⟩ := List.cons.inj same
    cases digit
  · rintro _ same
    obtain ⟨rfl, -⟩ := List.cons.inj same
    cases digit

/-- A year of four digits needs no sign. -/
private theorem readYear?_padded {year : Nat} (bound : year < 10 ^ 4) {rest : List Char}
    (outside : rest.head?.any Char.isDigit = false) :
    readYear? ((padded 4 year).toList ++ rest) = some ((year : Int), rest) := by
  have read := readUpTo?_padded (Nat.le_of_eq (length_padded (by decide) bound)) outside
  cases digits : (padded 4 year).toList with
  | nil => exact absurd digits (toList_padded_ne_nil _ _)
  | cons first others =>
    have digit : first.isDigit := isDigit_of_mem_padded (digits ▸ List.mem_cons_self)
    rw [digits] at read
    rw [List.cons_append, readYear?_digit digit, ← List.cons_append, read, Option.map_some]

/-- A year is read back, with its sign or with its four digits. -/
theorem readYear?_yearText (year : Int) {rest : List Char} (outside : rest.head?.any Char.isDigit = false) :
    readYear? ((yearText year).toList ++ rest) = some (year, rest) := by
  unfold yearText
  split
  · rename_i negative
    have magnitude : -(year.natAbs : Int) = year := by omega
    rw [String.toList_append, show "-".toList = ['-'] from rfl, List.append_assoc, List.singleton_append,
      readYear?_minus, readAll?_padded outside, Option.map_some]
    simp only [magnitude]
  · rename_i nonnegative
    have magnitude : (year.natAbs : Int) = year := by omega
    split
    · rw [String.toList_append, show "+".toList = ['+'] from rfl, List.append_assoc, List.singleton_append,
        readYear?_plus, readAll?_padded outside, Option.map_some]
      simp only [magnitude]
    · rw [readYear?_padded (by omega) outside, magnitude]

/-- The digits of a fraction stand for its nanoseconds. -/
private theorem readFraction?_digits {width value : Nat} {rest : List Char} (positive : 0 < width)
    (narrow : width ≤ 9) (bound : value < 10 ^ width) (outside : rest.head?.any Char.isDigit = false) :
    readFraction? ('.' :: (padded width value).toList ++ rest) = some (value * 10 ^ (9 - width), rest) := by
  have inside : ∀ digit ∈ (padded width value).toList, digit.isDigit := fun _ => isDigit_of_mem_padded
  have filled := length_padded positive bound
  have nine : ((padded width value).toList ++ List.replicate 9 '0').take 9 =
      (padded width value).toList ++ List.replicate (9 - width) '0' := by
    rw [List.take_append, List.take_of_length_le (by omega), filled, List.take_replicate,
      Nat.min_eq_left (Nat.sub_le 9 width)]
  simp only [List.cons_append, readFraction?]
  rw [Text.takeWhile_run inside outside, Text.dropWhile_run inside outside,
    if_neg (toList_padded_ne_nil _ _), nine, Text.digitsValue_append_zeros, digitsValue_padded]

/-- The fraction is read back whether it has no, three, six or nine digits. -/
theorem readFraction?_fractionText {nanosecond : Nat} (bound : nanosecond < 1000000000) {rest : List Char}
    (outside : rest.head?.any Char.isDigit = false) (noPoint : rest.head? ≠ some '.') :
    readFraction? ((fractionText nanosecond).toList ++ rest) = some (nanosecond, rest) := by
  have point : ".".toList = ['.'] := rfl
  unfold fractionText
  split
  · rename_i nothing
    rw [nothing, String.toList_empty, List.nil_append]
    unfold readFraction?
    split
    · exact absurd rfl noPoint
    · rfl
  · split
    · rename_i thousandths
      have exact : nanosecond / 1000000 * 10 ^ (9 - 3) = nanosecond := by omega
      rw [String.toList_append, point, List.singleton_append,
        readFraction?_digits (by decide) (by decide) (by omega) outside, exact]
    · split
      · rename_i millionths
        have exact : nanosecond / 1000 * 10 ^ (9 - 6) = nanosecond := by omega
        rw [String.toList_append, point, List.singleton_append,
          readFraction?_digits (by decide) (by decide) (by omega) outside, exact]
      · rw [String.toList_append, point, List.singleton_append,
          readFraction?_digits (by decide) (by decide) (by omega) outside, Nat.sub_self, Nat.pow_zero,
          Nat.mul_one]

theorem dateOf?_self (date : CalendarDate) : dateOf? date.year date.month date.day = some date :=
  dif_pos date.isDate

theorem timeOf?_self (instant : Instant) :
    timeOf? instant.date (instant.minute / 60) (instant.minute % 60) instant.second instant.nanosecond =
      some instant := by
  have minute_lt := instant.minute_lt
  have fits : (instant.minute / 60 < 24 ∧ instant.minute % 60 < 60) ∧ instant.second ≤ 60 ∧
      instant.nanosecond < 1000000000 :=
    ⟨by omega, instant.second_le, instant.nanosecond_lt⟩
  have whole : instant.minute / 60 * 60 + instant.minute % 60 = instant.minute := by omega
  rw [timeOf?, dif_pos fits]
  simp only [whole]

/-- A clock in universal time shows the instant. -/
theorem ofLocal_zero (instant : Instant) : ofLocal instant 0 = instant := by
  have minute_lt := instant.minute_lt
  have past : ¬ (instant.minute : Int) < 0 := by omega
  have future : ¬ 1440 ≤ (instant.minute : Int) := by omega
  have same : ((instant.minute : Int) % 1440).toNat = instant.minute := by omega
  unfold ofLocal
  simp only [Int.sub_zero, past, future, if_false, same]

private theorem daysInMonth_lt (year : Int) (month : Nat) : daysInMonth year month < 32 := by
  unfold daysInMonth
  repeat' split
  all_goals decide

theorem skip?_self (expected : Char) (rest : List Char) : skip? expected (expected :: rest) = some rest :=
  if_pos rfl

/-- What the text of an instant has behind the year. -/
def textBehindYear (instant : Instant) : List Char :=
  '-' :: ((padded 2 instant.date.month).toList ++ ('-' :: ((padded 2 instant.date.day).toList ++
    ('T' :: ((padded 2 (instant.minute / 60)).toList ++ (':' :: ((padded 2 (instant.minute % 60)).toList ++
      (':' :: ((padded 2 instant.second).toList ++
        ((fractionText instant.nanosecond).toList ++ "+00:00".toList))))))))))

theorem toList_text (instant : Instant) :
    instant.text.toList = (yearText instant.date.year).toList ++ instant.textBehindYear := by
  simp [text, textBehindYear, toString, List.append_assoc]

private theorem month_lt (date : CalendarDate) : date.month < 10 ^ 2 := by
  have := date.isDate.2.1
  omega

private theorem day_lt (date : CalendarDate) : date.day < 10 ^ 2 := by
  have := date.isDate.2.2.2
  have := daysInMonth_lt date.year date.month
  omega

/-- Behind its year, each part of a text is read with its fixed width. -/
theorem readBehindYear?_text (instant : Instant) :
    readBehindYear? instant.date.year instant.textBehindYear = some instant := by
  have minute_lt := instant.minute_lt
  have second_le := instant.second_le
  have hour_bound : instant.minute / 60 < 10 ^ 2 := by omega
  have minute_bound : instant.minute % 60 < 10 ^ 2 := by omega
  have second_bound : instant.second < 10 ^ 2 := by omega
  have fraction : readFraction? ((fractionText instant.nanosecond).toList ++ "+00:00".toList) =
      some (instant.nanosecond, "+00:00".toList) :=
    readFraction?_fractionText instant.nanosecond_lt rfl (by decide)
  have offset : readOffset? "+00:00".toList = some (0, []) := rfl
  have two : 0 < 2 := by decide
  -- One part after the other, because simplifying all binds at once takes very long.
  unfold readBehindYear? textBehindYear
  dsimp only [Option.bind_eq_bind, Option.bind_some]
  rw [skip?_self, Option.bind_some, readFixed?_padded two (month_lt instant.date), Option.bind_some]
  dsimp only
  rw [skip?_self, Option.bind_some, readFixed?_padded two (day_lt instant.date), Option.bind_some]
  dsimp only
  rw [skipTimeMark?, Option.bind_some, readFixed?_padded two hour_bound, Option.bind_some]
  dsimp only
  rw [skip?_self, Option.bind_some, readFixed?_padded two minute_bound, Option.bind_some]
  dsimp only
  rw [skip?_self, Option.bind_some, readFixed?_padded two second_bound, Option.bind_some]
  dsimp only
  rw [fraction, Option.bind_some]
  dsimp only
  rw [offset, Option.bind_some]
  dsimp only
  rw [if_pos rfl, dateOf?_self, Option.bind_some, timeOf?_self, Option.bind_some, ofLocal_zero]

/-- The instant that is stored as this text. -/
def ofStored? (text : String) : Option Instant := do
  let (year, rest) ← readYear? text.toList
  readBehindYear? year rest

/-- What is stored for an instant is the instant. -/
theorem ofStored?_text (instant : Instant) : ofStored? instant.text = some instant := by
  rw [ofStored?, toList_text, readYear?_yearText _ rfl]
  dsimp only [Option.bind_eq_bind, Option.bind_some]
  exact readBehindYear?_text instant

/-! ## Texts of instants in filters -/

/-- A number does not begin with a blank. -/
private theorem head?_padded (width value : Nat) (rest : List Char) :
    ((padded width value).toList ++ rest).head?.any Text.isBlank = false := by
  cases digits : (padded width value).toList with
  | nil => exact absurd digits (toList_padded_ne_nil _ _)
  | cons first others => exact Text.isBlank_of_isDigit (isDigit_of_mem_padded (digits ▸ List.mem_cons_self))

private theorem trimLeft_padded (width value : Nat) (rest : List Char) :
    Text.trimLeft ((padded width value).toList ++ rest) = (padded width value).toList ++ rest :=
  Text.dropWhile_outside (head?_padded width value rest)

/-- A year has its sign or a digit in front. -/
private theorem head?_yearText (year : Int) (rest : List Char) :
    ((yearText year).toList ++ rest).head?.any Text.isBlank = false := by
  unfold yearText
  split
  · rw [String.toList_append]
    rfl
  · split
    · rw [String.toList_append]
      rfl
    · exact head?_padded 4 year.natAbs rest

/-- The text of an instant has no blanks at its ends. -/
theorem trimBoth_text (instant : Instant) : Text.trimBoth instant.text.toList = instant.text.toList := by
  have ending : instant.text.toList.getLast? = some '0' := by
    rw [toList_text, textBehindYear]
    simp [List.getLast?_append, List.getLast?_cons]
  apply Text.trimBoth_eq_self
  · rw [toList_text]
    exact head?_yearText instant.date.year instant.textBehindYear
  · rw [ending]
    rfl

/-- A year of four digits is read with what follows it. -/
theorem readMoment?_text {instant : Instant} (ordinary : 0 ≤ instant.date.year ∧ instant.date.year ≤ 9999) :
    readMoment? instant.text.toList = some instant := by
  have written : yearText instant.date.year = padded 4 instant.date.year.natAbs := by
    rw [yearText, if_neg (by omega), if_neg (by omega)]
  have magnitude : (instant.date.year.natAbs : Int) = instant.date.year := by omega
  rw [readMoment?, toList_text, written, readFixed?_padded (by decide) (by omega)]
  dsimp only [Option.bind_eq_bind, Option.bind_some]
  rw [magnitude, readBehindYear?_text]

private theorem readMoment?_eq_none {sign : Char} (noDigit : sign.isDigit = false) (rest : List Char) :
    readMoment? (sign :: rest) = none := by
  have refused : readFixed? 4 (sign :: rest) = none := by simp [readFixed?, noDigit]
  rw [readMoment?, refused]
  rfl

/-- A year with a sign does not begin a moment. -/
theorem readMoment?_text_eq_none {instant : Instant}
    (signed : ¬(0 ≤ instant.date.year ∧ instant.date.year ≤ 9999)) :
    readMoment? instant.text.toList = none := by
  rw [toList_text, yearText]
  split
  · rw [String.toList_append]
    exact readMoment?_eq_none rfl _
  · rw [if_pos (by omega), String.toList_append]
    exact readMoment?_eq_none rfl _

/-- The text of an instant is not that of a day, since a time of day follows. -/
theorem readDay?_text (instant : Instant) : readDay? instant.text.toList = none := by
  have month_short := Nat.le_of_eq (length_padded (by decide) (month_lt instant.date))
  have day_short := Nat.le_of_eq (length_padded (by decide) (day_lt instant.date))
  have year_front : Text.trimLeft ((yearText instant.date.year).toList ++ instant.textBehindYear) = _ :=
    Text.dropWhile_outside (head?_yearText instant.date.year instant.textBehindYear)
  rw [readDay?, toList_text, year_front, readYear?_yearText _ rfl]
  unfold textBehindYear
  dsimp only [Option.bind_eq_bind, Option.bind_some]
  rw [skip?_self, Option.bind_some, trimLeft_padded, readUpTo?_padded month_short rfl, Option.bind_some]
  dsimp only
  rw [skip?_self, Option.bind_some, trimLeft_padded, readUpTo?_padded day_short rfl, Option.bind_some]
  dsimp only
  rw [if_neg (by simp)]

/-- The text of an instant is read back exactly if its year has four digits. -/
theorem ofText?_text (instant : Instant) :
    ofText? instant.text =
      if 0 ≤ instant.date.year ∧ instant.date.year ≤ 9999 then some instant else none := by
  simp only [ofText?, trimBoth_text, readDay?_text]
  split
  · rename_i ordinary
    rw [readMoment?_text ordinary]
    rfl
  · rename_i signed
    rw [readMoment?_text_eq_none signed]
    rfl

end RecordQuery.Instant
