import Dashboards.Text.Blank
import Dashboards.Text.Digits

/-!
# Timestamps

A moment in Coordinated Universal Time, by calendar date and time of day, to the nanosecond. The
second of the day's last minutes may be 60, a leap second.

* `Date` with `Date.next` and `Date.previous` : the Gregorian calendar;
* `Timestamp` : a date and a time of day;
* `Timestamp.text` : the written form, with no, three, six or nine digits behind the second, the
  fewest that are exact, and `Z` or `+00:00` for the zone;
* `Timestamp.parse?` : a lenient reading of such a form, in any zone;
* `Timestamp.ofUnix` : the moment some seconds after the start of 1970.
-/

namespace Dashboards

/-! ## Dates -/

structure Date where
  year : Int
  month : Nat
  day : Nat
  deriving DecidableEq, Repr, Inhabited

namespace Date

def isLeapYear (year : Int) : Bool := year % 4 = 0 && (year % 100 ≠ 0 || year % 400 = 0)

def monthLength (year : Int) (month : Nat) : Nat :=
  if month = 2 then if isLeapYear year then 29 else 28
  else if month = 4 || month = 6 || month = 9 || month = 11 then 30
  else 31

/-- The years that the calendar covers. -/
def firstYear : Int := -262143

def lastYear : Int := 262142

def isValid (d : Date) : Bool :=
  firstYear ≤ d.year && d.year ≤ lastYear && 1 ≤ d.month && d.month ≤ 12 && 1 ≤ d.day &&
    d.day ≤ monthLength d.year d.month

def next (d : Date) : Date :=
  if d.day < monthLength d.year d.month then { d with day := d.day + 1 }
  else if d.month < 12 then ⟨d.year, d.month + 1, 1⟩
  else ⟨d.year + 1, 1, 1⟩

def previous (d : Date) : Date :=
  if 1 < d.day then { d with day := d.day - 1 }
  else if 1 < d.month then ⟨d.year, d.month - 1, monthLength d.year (d.month - 1)⟩
  else ⟨d.year - 1, 12, 31⟩

/-- The date a number of days after 1 January 1970. Years are counted from March, so that a leap day
ends its year, and in spans of 400 years of 146097 days each. -/
def ofDays (days : Int) : Date :=
  let n := days + 719468
  let span := n / 146097
  let d := (n % 146097).toNat
  let y := (d - d / 1460 + d / 36524 - d / 146096) / 365
  let dayOfYear := d - (365 * y + y / 4 - y / 100)
  let m := (5 * dayOfYear + 2) / 153
  let day := dayOfYear - (153 * m + 2) / 5 + 1
  let month := if m < 10 then m + 3 else m - 9
  let year := (y : Int) + span * 400
  ⟨if month ≤ 2 then year + 1 else year, month, day⟩

end Date

/-! ## Moments -/

structure Timestamp where
  date : Date
  hour : Nat
  minute : Nat
  second : Nat
  nanosecond : Nat
  deriving DecidableEq, Repr, Inhabited

namespace Timestamp

open Text (trimStart isWhiteSpace padded digitsValue)

def isValid (t : Timestamp) : Bool :=
  t.date.isValid && t.hour ≤ 23 && t.minute ≤ 59 && t.second ≤ 60 && t.nanosecond ≤ 999999999

/-- The moment a number of seconds, and nanoseconds more, after the start of 1970. -/
def ofUnix (seconds : Int) (nanosecond : Nat) : Timestamp :=
  let s := (seconds % 86400).toNat
  ⟨Date.ofDays (seconds / 86400), s / 3600, s / 60 % 60, s % 60, nanosecond⟩

/-! ## Writing -/

/-- Years of four digits stand alone, others carry their sign. -/
def yearText (year : Int) : List Char :=
  if 0 ≤ year && year ≤ 9999 then padded 4 year.natAbs
  else (if year < 0 then '-' else '+') :: padded 4 year.natAbs

def fractionText (nanosecond : Nat) : List Char :=
  if nanosecond = 0 then []
  else if nanosecond % 1000000 = 0 then '.' :: padded 3 (nanosecond / 1000000)
  else if nanosecond % 1000 = 0 then '.' :: padded 6 (nanosecond / 1000)
  else '.' :: padded 9 nanosecond

/-- Date and time of day, without a zone. -/
def localText (t : Timestamp) : List Char :=
  yearText t.date.year ++ '-' :: (padded 2 t.date.month ++ '-' :: (padded 2 t.date.day ++ 'T' ::
    (padded 2 t.hour ++ ':' :: (padded 2 t.minute ++ ':' :: (padded 2 t.second ++
      fractionText t.nanosecond)))))

/-- The written form with `Z` for the zone. -/
def text (t : Timestamp) : String := String.ofList (t.localText ++ ['Z'])

/-- The written form with the zone as an offset. -/
def offsetText (t : Timestamp) : String :=
  String.ofList (t.localText ++ ['+', '0', '0', ':', '0', '0'])

/-! ## Reading -/

/-- The number that the leading digits form, at most `width` of them and at least one. -/
def digits? (width : Nat) (s : List Char) : Option (Nat × List Char) :=
  let ds := (s.take width).takeWhile Char.isDigit
  if ds.isEmpty then none else some (digitsValue ds, s.drop ds.length)

/-- A number of one or two digits, behind white space. -/
def pair? (s : List Char) : Option (Nat × List Char) := digits? 2 (trimStart s)

def allDigits? (s : List Char) : Option (Nat × List Char) := digits? s.length s

/-- A year has up to four digits, or a sign and any number of them. -/
def year? (s : List Char) : Option (Int × List Char) :=
  match trimStart s with
  | '-' :: s => (allDigits? s).map fun (n, s) => (-(n : Int), s)
  | '+' :: s => (allDigits? s).map fun (n, s) => ((n : Int), s)
  | s => (digits? 4 s).map fun (n, s) => ((n : Int), s)

/-- The given character, behind white space. -/
def mark? (c : Char) (s : List Char) : Option (List Char) :=
  match trimStart s with
  | d :: s => if d = c then some s else none
  | [] => none

/-- Nanoseconds behind a point, if there is one; digits past the ninth do not count. -/
def fraction? (s : List Char) : Option (Nat × List Char) :=
  match s with
  | '.' :: s =>
    let ds := s.takeWhile Char.isDigit
    if ds.isEmpty then none
    else
      let kept := ds.take 9
      some (digitsValue (kept ++ List.replicate (9 - kept.length) '0'), s.drop ds.length)
  | s => some (0, s)

def isUtcName : List Char → Bool
  | [u, t, c] => u.toUpper = 'U' && t.toUpper = 'T' && c.toUpper = 'C'
  | _ => false

/-- Two digits each for hours and minutes, with colons or white space between them or nothing. -/
def offsetMinutes? (s : List Char) : Option (Nat × List Char) :=
  match s with
  | a :: b :: s =>
    match s.dropWhile fun c => c = ':' || isWhiteSpace c with
    | c :: d :: s =>
      if a.isDigit && b.isDigit && '0' ≤ c && c ≤ '5' && d.isDigit then
        some (digitsValue [a, b] * 60 + digitsValue [c, d], s)
      else none
    | _ => none
  | _ => none

/-- A zone's offset to the east, in minutes. -/
def zone? (s : List Char) : Option (Int × List Char) :=
  let s := trimStart s
  if isUtcName (s.take 3) then some (0, s.drop 3)
  else
    match s with
    | 'Z' :: s => some (0, s)
    | 'z' :: s => some (0, s)
    | '+' :: s => (offsetMinutes? s).map fun (n, s) => ((n : Int), s)
    | '-' :: s => (offsetMinutes? s).map fun (n, s) => (-(n : Int), s)
    | '−' :: s => (offsetMinutes? s).map fun (n, s) => (-(n : Int), s)
    | _ => none

/-- The same moment, given in a zone with this offset to the east, in Coordinated Universal Time. -/
def inUtc (t : Timestamp) (offset : Int) : Timestamp :=
  let minutes : Int := t.hour * 60 + t.minute - offset
  let date :=
    if minutes < 0 then t.date.previous
    else if 1440 ≤ minutes then t.date.next
    else t.date
  let m := (minutes % 1440).toNat
  { t with date := date, hour := m / 60, minute := m % 60 }

def date? (s : List Char) : Option (Date × List Char) := do
  let (year, s) ← year? s
  let s ← mark? '-' s
  let (month, s) ← pair? s
  let s ← mark? '-' s
  let (day, s) ← pair? s
  return (⟨year, month, day⟩, s)

/-- The mark between date and time of day: a letter T or a space. -/
def separator? : List Char → Option (List Char)
  | c :: s => if c = 'T' || c = 't' || c = ' ' then some s else none
  | [] => none

/-- A date and a time of day, to be read in the zone that follows. -/
def moment? (s : List Char) : Option (Timestamp × List Char) := do
  let (date, s) ← date? s
  let s ← separator? s
  let (hour, s) ← pair? s
  let s ← mark? ':' s
  let (minute, s) ← pair? s
  let s ← mark? ':' s
  let (second, s) ← pair? s
  let (nanosecond, s) ← fraction? s
  return (⟨date, hour, minute, second, nanosecond⟩, s)

/-- Reads a date, a time of day with seconds and a zone. Numbers may lack leading zeros, white space
may stand between the parts, and the offset is less than a day. -/
def parse? (s : String) : Option Timestamp := do
  let (t, s) ← moment? s.toList
  let (offset, s) ← zone? s
  guard (trimStart s).isEmpty
  guard (t.isValid && offset.natAbs < 1440)
  let t := t.inUtc offset
  guard t.isValid
  return t

end Timestamp

end Dashboards
