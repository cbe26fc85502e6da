import Compliance.Property
import Compliance.Text.Blank
import Compliance.Text.Pieces

/-!
# Times

A time is a date and a time of day, both of the zero meridian.  It is written
with as many digits of the second's fraction as are needed of none, three, six
or nine.

Reading is lenient: white space may stand around the parts, numbers need no
leading zeros, a year with a sign may be long, a blank may stand between date
and time of day, and the time may be that of another meridian.
-/

namespace Compliance

/-- A point in time. In a leap second `second` is 60. -/
structure Timestamp where
  year : Int
  month : Nat
  day : Nat
  hour : Nat
  minute : Nat
  second : Nat
  nanosecond : Nat
deriving Repr, DecidableEq, Inhabited

namespace Timestamp

/-! ## The calendar -/

/-- Whether a year has a leap day. -/
def isLeapYear (year : Int) : Bool := (year % 4 = 0 && year % 100 ≠ 0) || year % 400 = 0

/-- The number of days of a month. -/
def daysInMonth (year : Int) (month : Nat) : Nat :=
  match month with
  | 2 => if isLeapYear year then 29 else 28
  | 4 | 6 | 9 | 11 => 30
  | _ => 31

/-- The first and the last year of the calendar. -/
def firstYear : Int := -262143

@[inherit_doc firstYear]
def lastYear : Int := 262142

/-- The number of nanoseconds of a second. -/
def nanosecondsOfSecond : Nat := 1000000000

/-- Whether the parts make up a time of the calendar. -/
def isValid (time : Timestamp) : Bool :=
  firstYear ≤ time.year && time.year ≤ lastYear && 1 ≤ time.month && time.month ≤ 12 &&
    1 ≤ time.day && time.day ≤ daysInMonth time.year time.month &&
    time.hour < 24 && time.minute < 60 && time.second ≤ 60 && time.nanosecond < nanosecondsOfSecond

/-- The same time of the next day. -/
def nextDay (time : Timestamp) : Timestamp :=
  if time.day < daysInMonth time.year time.month then { time with day := time.day + 1 }
  else if time.month < 12 then { time with month := time.month + 1, day := 1 }
  else { time with year := time.year + 1, month := 1, day := 1 }

/-- The same time of the day before. -/
def previousDay (time : Timestamp) : Timestamp :=
  if 1 < time.day then { time with day := time.day - 1 }
  else if 1 < time.month then
    { time with month := time.month - 1, day := daysInMonth time.year (time.month - 1) }
  else { time with year := time.year - 1, month := 12, day := 31 }

/-- The time of the zero meridian when it is `time` some minutes, less than a day, to the east. -/
def shifted (time : Timestamp) (minutes : Int) : Timestamp :=
  let total : Int := time.hour * 60 + time.minute - minutes
  let moved :=
    if total < 0 then time.previousDay else if 1440 ≤ total then time.nextDay else time
  let ofDay := (total % 1440).toNat
  { moved with hour := ofDay / 60, minute := ofDay % 60 }

/-- The date that is some days after the first of March of the year 0: the years are counted from
March, so that the leap day comes last, in cycles of four hundred. -/
def ofMarchDays (days : Int) : Timestamp :=
  let day := (days % 146097).toNat
  let year := (day - day / 1460 + day / 36524 - day / 146096) / 365
  let dayOfYear := day - (365 * year + year / 4 - year / 100)
  let month := (5 * dayOfYear + 2) / 153
  { year := 400 * (days / 146097) + year + (if month < 10 then 0 else 1)
    month := if month < 10 then month + 3 else month - 9
    day := dayOfYear - (153 * month + 2) / 5 + 1
    hour := 0, minute := 0, second := 0, nanosecond := 0 }

/-- The time that is some nanoseconds after the beginning of the year 1970. -/
def ofNanoseconds (count : Int) : Timestamp :=
  let seconds := count / nanosecondsOfSecond
  let ofDay := (seconds % 86400).toNat
  { ofMarchDays (seconds / 86400 + 719468) with
    hour := ofDay / 3600
    minute := ofDay / 60 % 60
    second := ofDay % 60
    nanosecond := (count % nanosecondsOfSecond).toNat }

/-! ## Writing -/

/-- A year with four digits, or with a sign where these do not do. -/
def yearText (year : Int) : List Char :=
  if 0 ≤ year ∧ year ≤ 9999 then padded 4 year.toNat
  else (if year < 0 then '-' else '+') :: padded 4 year.natAbs

/-- The fraction of a second, if there is one. -/
def fractionText (nanosecond : Nat) : List Char :=
  if nanosecond = 0 then []
  else if nanosecond % Nat.pow 10 6 = 0 then '.' :: padded 3 (nanosecond / Nat.pow 10 6)
  else if nanosecond % Nat.pow 10 3 = 0 then '.' :: padded 6 (nanosecond / Nat.pow 10 3)
  else '.' :: padded 9 nanosecond

/-- The characters of a time. -/
def chars (time : Timestamp) : List Char :=
  yearText time.year ++ '-' :: padded 2 time.month ++ '-' :: padded 2 time.day ++
    'T' :: padded 2 time.hour ++ ':' :: padded 2 time.minute ++ ':' :: padded 2 time.second ++
    fractionText time.nanosecond ++ ['Z']

/-- The text of a time. -/
def text (time : Timestamp) : String := String.ofList time.chars

/-! ## Reading -/

/-- Whether the character is a decimal digit. -/
def isDigit (c : Char) : Bool := '0' ≤ c && c ≤ '9'

/-- The value of decimal digits. -/
def valueOf (digits : List Char) : Nat :=
  digits.foldl (fun value c => value * 10 + (c.toNat - 48)) 0

/-- A number of at most `width` digits, with white space before it. -/
def number? (width : Nat) (text : List Char) : Option (Nat × List Char) :=
  let text := Text.trimStart text
  let digits := (text.takeWhile isDigit).take width
  if digits.isEmpty then none else some (valueOf digits, text.drop digits.length)

/-- A number that is between two bounds. -/
def numberWithin? (low high : Nat) (text : List Char) : Option (Nat × List Char) := do
  let (value, rest) ← number? 2 text
  if low ≤ value && value ≤ high then return (value, rest) else none

/-- A year of at most four digits, or of any length with a sign. -/
def year? (text : List Char) : Option (Int × List Char) :=
  let signed (sign : Int) (rest : List Char) : Option (Int × List Char) :=
    let digits := rest.takeWhile isDigit
    if digits.isEmpty then none else some (sign * valueOf digits, rest.drop digits.length)
  match Text.trimStart text with
  | '-' :: rest => signed (-1) rest
  | '+' :: rest => signed 1 rest
  | text => (number? 4 text).map fun (value, rest) => ((value : Int), rest)

/-- The text after a character, with white space before it. -/
def afterChar? (c : Char) (text : List Char) : Option (List Char) :=
  Text.after? [c] (Text.trimStart text)

/-- The nanoseconds of a fraction, if there is one; digits after the ninth do not count. -/
def fraction? (text : List Char) : Option (Nat × List Char) :=
  match text with
  | '.' :: rest =>
    let digits := rest.takeWhile isDigit
    if digits.isEmpty then none
    else
      let kept := digits.take 9
      some (valueOf kept * Nat.pow 10 (9 - kept.length), rest.drop digits.length)
  | _ => some (0, text)

/-- How many minutes to the east of the zero meridian a time is told. -/
def offset? (text : List Char) : Option (Int × List Char) :=
  match text with
  | 'Z' :: rest => some (0, rest)
  | 'z' :: rest => some (0, rest)
  | sign :: tens :: ones :: rest =>
    if sign = '+' || sign = '-' || sign = '−' then
      if isDigit tens && isDigit ones then
        match rest.dropWhile fun c => c = ':' || Text.isBlank c with
        | minuteTens :: minuteOnes :: rest =>
          if '0' ≤ minuteTens && minuteTens ≤ '5' && isDigit minuteOnes then
            let minutes : Int := valueOf [tens, ones] * 60 + valueOf [minuteTens, minuteOnes]
            if minutes < 1440 then some (if sign = '+' then minutes else -minutes, rest) else none
          else none
        | _ => none
      else none
    else if [sign, tens, ones].map Char.toUpper = ['U', 'T', 'C'] then some (0, rest)
    else none
  | _ => none

/-- The time that characters stand for. -/
def ofChars? (text : List Char) : Option Timestamp := do
  let (year, rest) ← year? text
  let (month, rest) ← numberWithin? 1 12 (← afterChar? '-' rest)
  let (day, rest) ← numberWithin? 1 31 (← afterChar? '-' rest)
  let rest ← match rest with
    | c :: rest => if c = 'T' || c = 't' || c = ' ' then some rest else none
    | [] => none
  let (hour, rest) ← numberWithin? 0 23 rest
  let (minute, rest) ← numberWithin? 0 59 (← afterChar? ':' rest)
  let (second, rest) ← numberWithin? 0 60 (← afterChar? ':' rest)
  let (nanosecond, rest) ← fraction? rest
  let (offset, rest) ← offset? (Text.trimStart rest)
  let time : Timestamp := { year, month, day, hour, minute, second, nanosecond }
  let moved := time.shifted offset
  if Text.trimStart rest = [] && time.isValid && moved.isValid then return moved else none

/-- The time that a text stands for. -/
def parse (text : String) : Option Timestamp := ofChars? text.toList

end Timestamp

end Compliance
