import Autograder.Decimal.Plain
import Autograder.Text.Cut

/-!
# Instants

Moments of universal time and their text. A moment is written as date and time of day with a `Z`
behind it, and with a fraction of three, six or nine digits unless it is whole. It is read from a
date, a time and an offset from universal time, in a form that leaves some room: numbers may have
fewer digits, blanks may stand before them and before their separators, and the offset is `Z`,
`UTC`, or hours and minutes with a sign.

A second that was inserted to keep pace with the rotation of the earth is the 60th of its minute;
it is kept as the 59th with a fraction of more than one.
-/

namespace Autograder

/-- A moment of universal time. -/
structure Instant where
  /-- Seconds since the start of 1970. -/
  seconds : Int
  /-- The fraction in billionths; it reaches one only in an inserted second. -/
  nanos : Nat
deriving DecidableEq

namespace Instant

/-! ## Calendar -/

/-- Leap years have a 29th of February. -/
def isLeap (year : Int) : Bool :=
  year % 4 = 0 && (year % 100 != 0 || year % 400 = 0)

/-- The number of days of a month. -/
def daysInMonth (year : Int) (month : Nat) : Nat :=
  match month with
  | 2 => if isLeap year then 29 else 28
  | 4 | 6 | 9 | 11 => 30
  | _ => 31

/-- Days from the start of 1970 to a date. Years are counted from March, so that the leap day is the
last of its year. -/
def daysOf (year : Int) (month day : Nat) : Int :=
  let y := if month ≤ 2 then year - 1 else year
  let era := y.fdiv 400
  let yearOfEra := y - era * 400
  let monthFromMarch := if month ≤ 2 then month + 9 else month - 3
  let dayOfYear := (153 * monthFromMarch + 2) / 5 + day - 1
  era * 146097 + (yearOfEra * 365 + yearOfEra / 4 - yearOfEra / 100 + dayOfYear) - 719468

/-- The date a number of days after the start of 1970: year, month, day. -/
def dateOf (days : Int) : Int × Nat × Nat :=
  let z := days + 719468
  let era := z.fdiv 146097
  let dayOfEra := z - era * 146097
  let yearOfEra := (dayOfEra - dayOfEra / 1460 + dayOfEra / 36524 - dayOfEra / 146096) / 365
  let dayOfYear := (dayOfEra - (365 * yearOfEra + yearOfEra / 4 - yearOfEra / 100)).toNat
  let monthFromMarch := (5 * dayOfYear + 2) / 153
  let day := dayOfYear - (153 * monthFromMarch + 2) / 5 + 1
  let month := if monthFromMarch < 10 then monthFromMarch + 3 else monthFromMarch - 9
  (yearOfEra + era * 400 + (if month ≤ 2 then 1 else 0), month, day)

/-- The years that a date can have. -/
def minYear : Int := -262143

/-- The years that a date can have. -/
def maxYear : Int := 262142

/-! ## Writing -/

/-- A number with at least so many digits. -/
def padded (width n : Nat) : List Char :=
  let digits := Nat.toDigits 10 n
  List.replicate (width - digits.length) '0' ++ digits

/-- A year; outside of four digits it has a sign. -/
def yearText (year : Int) : List Char :=
  if 0 ≤ year && year ≤ 9999 then padded 4 year.toNat
  else (if year < 0 then '-' else '+') :: padded 4 year.natAbs

/-- A fraction of a second, as short as three, six or nine digits allow. -/
def fractionText (nanos : Nat) : List Char :=
  if nanos = 0 then []
  else if nanos % 1000000 = 0 then '.' :: padded 3 (nanos / 1000000)
  else if nanos % 1000 = 0 then '.' :: padded 6 (nanos / 1000)
  else '.' :: padded 9 nanos

/-- The written form. -/
def text (t : Instant) : List Char :=
  let (year, month, day) := dateOf (t.seconds.fdiv 86400)
  let time := (t.seconds.fmod 86400).toNat
  let inserted := if t.nanos < 1000000000 then 0 else 1
  yearText year ++ '-' :: (padded 2 month ++ '-' :: (padded 2 day ++ 'T' :: (padded 2 (time / 3600)
    ++ ':' :: (padded 2 (time / 60 % 60) ++ ':' :: (padded 2 (time % 60 + inserted)
    ++ (fractionText (t.nanos - inserted * 1000000000) ++ ['Z']))))))

/-! ## Reading -/

/-- A part of a text that reads as something, and what follows it. -/
abbrev Part (α : Type) := List Char → Option (α × List Char)

/-- A number of one digit up to `width` digits, after blanks. -/
def number (width : Nat) : Part Nat := fun text =>
  let text := Text.trimStart text
  let digits := (text.takeWhile Decimal.isDigit).take width
  (Decimal.digits? digits).map fun n => (n, text.drop digits.length)

/-- A year: four digits, or any number of them behind a sign. -/
def year : Part Int := fun text =>
  match Text.trimStart text with
  | '-' :: rest => (signed rest).map fun (n, rest) => (-(n : Int), rest)
  | '+' :: rest => (signed rest).map fun (n, rest) => ((n : Int), rest)
  | rest => (number 4 rest).map fun (n, rest) => ((n : Int), rest)
where
  /-- The digits behind a sign stand directly behind it. -/
  signed : Part Nat := fun text =>
    (Decimal.digits? (text.takeWhile Decimal.isDigit)).map fun n =>
      (n, text.dropWhile Decimal.isDigit)

/-- A separator, after blanks. -/
def separator (c : Char) : Part Unit := fun text =>
  match Text.trimStart text with
  | d :: rest => if d = c then some ((), rest) else none
  | [] => none

/-- The fraction of a second, in billionths; digits behind the ninth are dropped. -/
def fraction : Part Nat := fun text =>
  match text with
  | '.' :: rest =>
    let digits := rest.takeWhile Decimal.isDigit
    (Decimal.digits? digits).map fun _ =>
      (Decimal.natOfDigits ((digits ++ List.replicate 9 '0').take 9), rest.dropWhile Decimal.isDigit)
  | _ => some (0, text)

/-- Two digits. -/
def twoDigits : Part Nat := fun text =>
  (Decimal.digits? (text.take 2)).bind fun n =>
    if 2 ≤ text.length then some (n, text.drop 2) else none

/-- An offset from universal time, in seconds. -/
def offset : Part Int := fun text =>
  match text with
  | 'Z' :: rest => some (0, rest)
  | 'z' :: rest => some (0, rest)
  | c :: rest =>
    if (text.take 3).map Char.toUpper = ['U', 'T', 'C'] then some (0, text.drop 3)
    else if c = '+' || c = '-' || c = '−' then
      (twoDigits rest).bind fun (hours, rest) =>
        (twoDigits (rest.dropWhile fun d => d = ':' || Text.isBlank d)).bind fun (minutes, rest) =>
          let seconds : Int := (hours * 3600 + minutes * 60 : Nat)
          if minutes < 60 && seconds < 86400 then
            some (if c = '+' then seconds else -seconds, rest)
          else none
    else none
  | [] => none

/-- The character between date and time. -/
def dateEnd : Part Unit
  | 'T' :: rest => some ((), rest)
  | 't' :: rest => some ((), rest)
  | ' ' :: rest => some ((), rest)
  | _ => none

/-- The moment that a text spells. -/
def ofText? (text : List Char) : Option Instant := do
  let (year, text) ← year text
  let (_, text) ← separator '-' text
  let (month, text) ← number 2 text
  let (_, text) ← separator '-' text
  let (day, text) ← number 2 text
  let (_, text) ← dateEnd text
  let (hour, text) ← number 2 text
  let (_, text) ← separator ':' text
  let (minute, text) ← number 2 text
  let (_, text) ← separator ':' text
  let (second, text) ← number 2 text
  let (nanos, text) ← fraction text
  let (offset, text) ← offset (Text.trimStart text)
  guard (Text.allBlank text)
  guard (minYear ≤ year && year ≤ maxYear)
  guard (1 ≤ month && month ≤ 12 && 1 ≤ day && day ≤ daysInMonth year month)
  guard (hour < 24 && minute < 60 && second ≤ 60)
  let inserted := if second = 60 then 1 else 0
  let time : Int := (hour * 3600 + minute * 60 + (second - inserted) : Nat)
  let seconds := daysOf year month day * 86400 + time - offset
  let reached := (dateOf (seconds.fdiv 86400)).1
  guard (minYear ≤ reached && reached ≤ maxYear)
  return ⟨seconds, nanos + inserted * 1000000000⟩

end Instant

end Autograder
