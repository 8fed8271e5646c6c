import NotebookKernel.Host.Basic

/-! # Days of the calendar and time stamps

A day is a year, a month and a day of the Gregorian calendar, or the number of days since the first of
January 1970. A moment in universal time is written as date, time and offset,
`2025-01-02T03:04:05.123+00:00`; the fraction has the fewest of 0, 3, 6 or 9 digits that are exact. -/

namespace NotebookKernel.Instant

/-- A day of the Gregorian calendar. -/
structure Date where
  year : Int
  month : Nat
  day : Nat
  deriving DecidableEq, Repr

/-- The day that is so many days after the first of January 1970. Years are counted from March, so
that the leap day comes last, and in eras of 400 years. -/
def dateOfDays (days : Int) : Date :=
  let shifted := days + 719468
  let era := shifted / 146097
  let dayOfEra := (shifted - era * 146097).toNat
  let yearOfEra := (dayOfEra - dayOfEra / 1460 + dayOfEra / 36524 - dayOfEra / 146096) / 365
  let dayOfYear := dayOfEra - (365 * yearOfEra + yearOfEra / 4 - yearOfEra / 100)
  let monthFromMarch := (5 * dayOfYear + 2) / 153
  let month := if monthFromMarch < 10 then monthFromMarch + 3 else monthFromMarch - 9
  { year := yearOfEra + era * 400 + (if month ≤ 2 then 1 else 0)
    month
    day := dayOfYear - (153 * monthFromMarch + 2) / 5 + 1 }

def isLeap (year : Int) : Bool := year % 4 == 0 && (year % 100 != 0 || year % 400 == 0)

/-- How many days of a year there are before a month of it. -/
def daysBefore (year : Int) (month : Nat) : Nat :=
  [0, 31, 59, 90, 120, 151, 181, 212, 243, 273, 304, 334].getD (month - 1) 0 +
    if 2 < month && isLeap year then 1 else 0

/-- How many days after the first of January 1970 a day is. -/
def daysOf (year : Int) (month day : Nat) : Int :=
  let y := year - 1
  y * 365 + y / 4 - y / 100 + y / 400 - 719162 + daysBefore year month + (day - 1 : Int)

/-- The day of the week, from Sunday on. -/
def weekdayOfDays (days : Int) : Nat := ((days + 4) % 7).toNat

/-- How many days a month has. -/
def daysInMonth (year : Int) (month : Nat) : Nat :=
  [31, 28, 31, 30, 31, 30, 31, 31, 30, 31, 30, 31].getD (month - 1) 0 +
    if month == 2 && isLeap year then 1 else 0

/-- The day that is so many months after the first of a month, and then so many days. -/
def daysAfter (year : Int) (months days : Int) : Int :=
  daysOf (year + months / 12) ((months % 12).toNat + 1) 1 + days

/-- A number with zeros in front, up to a width. -/
def padded (width n : Nat) : String :=
  let digits := Nat.toDigits 10 n
  String.ofList (List.replicate (width - digits.length) '0' ++ digits)

/-- The fraction of a second, behind a point unless it is zero. -/
def fraction (nanos : Nat) : String :=
  if nanos = 0 then ""
  else if nanos % 1000000 = 0 then "." ++ padded 3 (nanos / 1000000)
  else if nanos % 1000 = 0 then "." ++ padded 6 (nanos / 1000)
  else "." ++ padded 9 nanos

/-- The time stamp of a moment in the years 0 to 9999. -/
def timestamp (i : Instant) : String :=
  let days := i.seconds / 86400
  let second := (i.seconds - days * 86400).toNat
  let date := dateOfDays days
  padded 4 date.year.toNat ++ "-" ++ padded 2 date.month ++ "-" ++ padded 2 date.day ++ "T"
    ++ padded 2 (second / 3600) ++ ":" ++ padded 2 (second / 60 % 60) ++ ":"
    ++ padded 2 (second % 60) ++ fraction i.nanos ++ "+00:00"

end NotebookKernel.Instant
