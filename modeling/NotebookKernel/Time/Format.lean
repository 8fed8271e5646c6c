import NotebookKernel.Time.Calendar
import NotebookKernel.Time.Zone

/-! # Times in a format

A format is a text with directives, each of which stands for a part of a moment as clocks show it. A
directive is a letter behind a percent sign, with flags, a width and a modifier between them. -/

namespace NotebookKernel.Instant

/-- A moment taken apart. -/
structure Moment where
  seconds : Int
  nanos : Nat
  offset : Offset
  date : Date
  hour : Nat
  minute : Nat
  second : Nat
  /-- The day of the week, from Sunday on. -/
  weekday : Nat
  /-- The day of the year, from zero on. -/
  yearDay : Nat

/-- A moment as the clocks of a zone show it. -/
def momentIn (z : Zone) (i : Instant) : Moment :=
  let offset := z.offsetAt i.seconds
  let shown := i.seconds + offset.seconds
  let days := shown / 86400
  let second := (shown - days * 86400).toNat
  let date := dateOfDays days
  { seconds := i.seconds, nanos := i.nanos, offset, date, hour := second / 3600
    minute := second / 60 % 60, second := second % 60, weekday := weekdayOfDays days
    yearDay := daysBefore date.year date.month + date.day - 1 }

def weekdayNames : List String :=
  ["Sunday", "Monday", "Tuesday", "Wednesday", "Thursday", "Friday", "Saturday"]

def monthNames : List String := ["January", "February", "March", "April", "May", "June", "July",
  "August", "September", "October", "November", "December"]

/-- The year and the number of the week that has most of its days in that year. Weeks begin on
Monday. -/
def Moment.isoWeek (m : Moment) : Int × Nat :=
  let weekday := (m.weekday + 6) % 7
  let weeksOf (year : Int) : Nat :=
    let first := ((daysOf year 1 1 + 3) % 7).toNat
    if first == 3 || (first == 2 && isLeap year) then 53 else 52
  let week : Int := ((m.yearDay : Int) - weekday + 10) / 7
  if week < 1 then (m.date.year - 1, weeksOf (m.date.year - 1))
  else if (weeksOf m.date.year : Int) < week then (m.date.year + 1, 1)
  else (m.date.year, week.toNat)

/-- What stands between the percent sign and the letter of a directive. -/
structure Flags where
  /-- What a number is filled up with, if it is not what its letter says. A plus sign stands for zeros
  behind a sign. -/
  padding : Option Char := none
  upper : Bool := false
  /-- Whether letters change between capitals and small ones. -/
  swaps : Bool := false
  width : Option Nat := none
  modifier : Option Char := none
  colons : Nat := 0

namespace Flags

def fill (c : Char) (width : Nat) (text : List Char) : List Char :=
  List.replicate (width - text.length) c ++ text

/-- The digits of a number behind its sign, filled up to the width, or to the usual one. -/
def digits (f : Flags) (usual : Nat) (padding : Char) (sign shown : List Char) : List Char :=
  let text := sign ++ shown
  let width := f.width.getD usual
  match f.padding.getD padding with
  | '-' => text
  | '_' => fill ' ' width text
  | _ => sign ++ fill '0' (width - sign.length) shown

def number (f : Flags) (usual : Nat) (padding : Char) (n : Int) : List Char :=
  f.digits usual padding (if n < 0 then ['-'] else []) (Nat.toDigits 10 n.natAbs)

/-- A year, which has a plus sign if it needs more digits than usual. -/
def year (f : Flags) (usual : Nat) (n : Int) : List Char :=
  let most := if usual == 2 then 99 else 9999
  let isLong := most < n || f.width.any (usual < ·)
  let sign := if n < 0 then ['-'] else if f.padding == some '+' && isLong then ['+'] else []
  f.digits usual '0' sign (Nat.toDigits 10 n.natAbs)

/-- Fills text up to the width. -/
def filled (f : Flags) (cs : List Char) : List Char :=
  match f.padding with
  | some '-' => cs
  | some '0' | some '+' => fill '0' (f.width.getD 0) cs
  | _ => fill ' ' (f.width.getD 0) cs

def word (f : Flags) (text : String) : List Char :=
  f.filled (text.toList.map fun c => if f.upper then c.toUpper else c)

/-- A name, all of which is in capitals if letters change. -/
def name (f : Flags) (text : String) : List Char :=
  f.filled (text.toList.map fun c => if f.upper || f.swaps then c.toUpper else c)

/-- A fraction of a second, cut to the width. Zeros at its end are what it is filled up with. -/
def fraction (f : Flags) (nanos : Nat) : List Char :=
  let width := f.width.getD 9
  let kept := (padded 9 nanos).toList.take width
  let short := (kept.reverse.dropWhile (· == '0')).reverse
  let short := if short.isEmpty then ['0'] else short
  let rest := width - short.length
  match f.padding with
  | some '_' => short ++ List.replicate rest ' '
  | some '-' => if f.width.isNone then padded 9 nanos |>.toList else short
  | _ => short ++ List.replicate rest '0'

/-- How far clocks are ahead, with as many colons as asked for, or as few as can be for three. -/
def offset (f : Flags) (o : Offset) : List Char :=
  let size := o.seconds.natAbs
  let hours := size / 3600
  let minutes := size / 60 % 60
  let seconds := size % 60
  let sign := [if o.seconds < 0 then '-' else '+']
  let two (n : Nat) : List Char := (padded 2 n).toList
  let plain (n : Nat) : List Char := Nat.toDigits 10 n
  let short := f.digits 3 '0' sign (plain hours)
  let middle := f.digits 6 '0' sign (plain hours ++ ':' :: two minutes)
  let long := f.digits 9 '0' sign (plain hours ++ ':' :: two minutes ++ ':' :: two seconds)
  match f.colons with
  | 0 => f.digits 5 '0' sign (plain (hours * 100 + minutes))
  | 1 => middle
  | 2 => long
  | _ => if seconds != 0 then long else if minutes != 0 then middle else short

end Flags

/-- Reads the flags, the width and the modifier of a directive. -/
def readFlags (f : Flags) : List Char → Flags × List Char
  | [] => (f, [])
  | c :: rest =>
    match c with
    | '_' | '-' | '0' | '+' => readFlags { f with padding := some c } rest
    | '^' => readFlags { f with upper := true } rest
    | '#' => readFlags { f with swaps := true } rest
    | c =>
      let digits := (c :: rest).takeWhile Char.isDigit
      let width := if digits.isEmpty then none
        else some (digits.foldl (fun n d => 10 * n + (d.toNat - '0'.toNat)) 0)
      let rest := (c :: rest).drop digits.length
      let modifier := rest.head?.filter fun c => c == 'E' || c == 'O'
      let rest := if modifier.isSome then rest.tail else rest
      let colons := if (rest.dropWhile (· == ':')).head? == some 'z' then
          (rest.takeWhile (· == ':')).length else 0
      ({ f with width, modifier, colons }, rest.drop colons)

/-- Whether a modifier may stand in front of a letter. -/
def allows (modifier : Option Char) (letter : Char) : Bool :=
  match modifier with
  | some 'E' => ['c', 'C', 'x', 'X', 'y', 'Y', 'z'].contains letter
  | some _ => not (['%', 'c', 'x', 'X', 'Y', 'D', 'F'].contains letter)
  | none => true

/-- What a letter stands for, unless it is no directive. -/
def directive? (m : Moment) (f : Flags) (letter : Char) : Option (List Char) :=
  let d := m.date
  let number (usual : Nat) (n : Int) : Option (List Char) := some (f.number usual '0' n)
  let spaced (n : Nat) : Option (List Char) := some (f.number 2 '_' n)
  let two (n : Nat) : String := padded 2 n
  let clock := two m.hour ++ ":" ++ two m.minute ++ ":" ++ two m.second
  let hour12 := if m.hour % 12 == 0 then 12 else m.hour % 12
  let weekday := weekdayNames.getD m.weekday ""
  let month := monthNames.getD (d.month - 1) ""
  let short (name : String) : String := String.ofList (name.toList.take 3)
  let half := if m.hour < 12 then "AM" else "PM"
  let word (text : String) : Option (List Char) := some (f.word text)
  let small (text : String) : Option (List Char) :=
    some (f.filled (text.toList.map Char.toLower))
  let (isoYear, isoWeek) := m.isoWeek
  if !allows f.modifier letter || 3 < f.colons then none
  else match letter with
  | '%' => if f.width.isSome || f.padding.isSome || f.modifier.isSome then none else some ['%']
  | 'n' => some (f.filled ['\n'])
  | 't' => some (f.filled ['\t'])
  | 'a' => some (f.name (short weekday))
  | 'A' => some (f.name weekday)
  | 'b' | 'h' => some (f.name (short month))
  | 'B' => some (f.name month)
  | 'c' => word (short weekday ++ " " ++ short month ++ " " ++
      String.ofList (({} : Flags).number 2 '_' d.day) ++ " " ++ clock ++ " " ++ toString d.year)
  | 'C' => some (f.year 2 (d.year / 100))
  | 'd' => number 2 d.day
  | 'D' | 'x' => word (two d.month ++ "/" ++ two d.day ++ "/" ++ two (d.year % 100).toNat)
  | 'e' => spaced d.day
  | 'F' =>
    let isPlain := f.padding.isNone && f.width.isNone
    let year := if isPlain then ({ padding := some '+', width := some 4 } : Flags)
      else { padding := f.padding, width := some (f.width.getD 0 - 6) }
    some (year.year 4 d.year ++ ("-" ++ two d.month ++ "-" ++ two d.day).toList)
  | 'g' => number 2 (isoYear % 100)
  | 'G' => some (f.year 4 isoYear)
  | 'H' => number 2 m.hour
  | 'I' => number 2 hour12
  | 'j' => number 3 (m.yearDay + 1 : Nat)
  | 'k' => spaced m.hour
  | 'l' => spaced hour12
  | 'm' => number 2 d.month
  | 'M' => number 2 m.minute
  | 'N' => some (f.fraction m.nanos)
  | 'p' => if f.swaps then small half else word half
  | 'P' => small half
  | 'q' => number 1 ((d.month + 2) / 3 : Nat)
  | 'r' => word (two hour12 ++ ":" ++ two m.minute ++ ":" ++ two m.second ++ " " ++ half)
  | 'R' => word (two m.hour ++ ":" ++ two m.minute)
  | 's' => number 1 m.seconds
  | 'S' => number 2 m.second
  | 'T' | 'X' => word clock
  | 'u' => number 1 (if m.weekday == 0 then 7 else m.weekday : Nat)
  | 'U' => number 2 ((m.yearDay + 7 - m.weekday) / 7 : Nat)
  | 'V' => number 2 isoWeek
  | 'w' => number 1 m.weekday
  | 'W' => number 2 ((m.yearDay + 7 - (m.weekday + 6) % 7) / 7 : Nat)
  | 'y' => number 2 (d.year % 100)
  | 'Y' => some (f.year 4 d.year)
  | 'z' => some (f.offset m.offset)
  | 'Z' =>
    let name := String.ofList m.offset.name
    if f.swaps then small name else word name
  | _ => none

/-- A moment in a format. The fuel bounds the number of directives. -/
def format (m : Moment) : Nat → List Char → List Char
  | 0, text => text
  | fuel + 1, text =>
    let plain := text.takeWhile (· != '%')
    match text.drop plain.length with
    | [] => plain
    | mark :: rest =>
      let (flags, behind) := readFlags {} rest
      let raw (behind : List Char) : List Char :=
        flags.filled (mark :: rest.take (rest.length - behind.length))
      match behind with
      | [] => plain ++ raw []
      | letter :: behind =>
        plain ++ (directive? m flags letter).getD (raw behind) ++ format m fuel behind

/-- A moment as a format says. -/
def formatted (i : Instant) (text : String) (z : Zone := .universal) : List Char :=
  format (i.momentIn z) (text.length + 1) text.toList

end NotebookKernel.Instant
