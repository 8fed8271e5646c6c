import NotebookKernel.Time.Calendar

/-! # What clocks show

A zone has a standard time and may have another time for a part of the year. The days on which clocks
are changed are told by a month, a week of it and a day of the week. -/

namespace NotebookKernel

/-- How far clocks are ahead of universal time, and what that time is called. -/
structure Offset where
  name : List Char
  seconds : Int

/-- When clocks are changed: on a day of the week in a week of a month, of which the fifth is the
last, so many seconds after midnight. -/
structure ClockChange where
  month : Nat
  week : Nat
  weekday : Nat
  seconds : Int := 7200

structure Zone where
  standard : Offset
  /-- The other time, when it begins and when it ends. -/
  daylight : Option (Offset × ClockChange × ClockChange) := none

namespace ClockChange

open Instant

/-- The moment of a change in a year, as clocks show it before the change. -/
def inYear (c : ClockChange) (year : Int) : Int :=
  let first := daysOf year c.month 1
  let skipped := (c.weekday + 7 - weekdayOfDays first) % 7
  let day := skipped + 7 * (c.week - 1)
  let day := if daysInMonth year c.month ≤ day then day - 7 else day
  (first + day) * 86400 + c.seconds

end ClockChange

namespace Zone

def universal : Zone := { standard := ⟨"UTC".toList, 0⟩ }

/-- The time that is in force at a moment. -/
def offsetAt (z : Zone) (seconds : Int) : Offset :=
  match z.daylight with
  | none => z.standard
  | some (daylight, start, finish) =>
    let year := (Instant.dateOfDays ((seconds + z.standard.seconds) / 86400)).year
    let start := start.inYear year - z.standard.seconds
    let finish := finish.inYear year - daylight.seconds
    let inForce :=
      if start < finish then start ≤ seconds && seconds < finish
      else !(finish ≤ seconds && seconds < start)
    if inForce then daylight else z.standard

/-- The moment at which clocks show a time, unless they leave it out. -/
def secondsOf? (z : Zone) (shown : Int) : Option Int :=
  let offsets := z.standard :: (z.daylight.map (·.1)).toList
  let candidates := offsets.map fun o => shown - o.seconds
  candidates.find? fun seconds => seconds + (z.offsetAt seconds).seconds == shown

/-! ## Zones by their text -/

/-- Takes a number of at most so many digits. -/
def number? (most : Nat) (cs : List Char) : Option (Nat × List Char) :=
  let digits := (cs.takeWhile Char.isDigit).take most
  if digits.isEmpty then none
  else some (digits.foldl (fun n d => 10 * n + (d.toNat - '0'.toNat)) 0, cs.drop digits.length)

/-- Takes hours, minutes and seconds, with a sign. -/
def clock? (cs : List Char) : Option (Int × List Char) :=
  let (negative, cs) := match cs with
    | '-' :: rest => (true, rest)
    | '+' :: rest => (false, rest)
    | cs => (false, cs)
  (number? 3 cs).map fun (hours, rest) =>
    let part (cs : List Char) : Nat × List Char :=
      match cs with
      | ':' :: more => (number? 2 more).getD (0, cs)
      | cs => (0, cs)
    let (minutes, rest) := part rest
    let (seconds, rest) := part rest
    let total : Int := hours * 3600 + minutes * 60 + seconds
    (if negative then -total else total, rest)

/-- Takes the name of a time, which has three letters at least or stands in angle brackets. -/
def name? (cs : List Char) : Option (List Char × List Char) :=
  match cs with
  | '<' :: rest =>
    let name := rest.takeWhile (· != '>')
    if 3 ≤ name.length && name.length < rest.length then some (name, rest.drop (name.length + 1))
    else none
  | cs =>
    let name := cs.takeWhile Char.isAlpha
    if 3 ≤ name.length then some (name, cs.drop name.length) else none

/-- Takes a change of clocks, behind a comma. -/
def change? (cs : List Char) : Option (ClockChange × List Char) := do
  let ',' :: 'M' :: rest := cs | none
  let (month, rest) ← number? 2 rest
  let '.' :: rest := rest | none
  let (week, rest) ← number? 1 rest
  let '.' :: rest := rest | none
  let (weekday, rest) ← number? 1 rest
  if month < 1 || 12 < month || week < 1 || 5 < week || 6 < weekday then none
  match rest with
  | '/' :: rest =>
    let (seconds, rest) ← clock? rest
    some ({ month, week, weekday, seconds }, rest)
  | rest => some ({ month, week, weekday }, rest)

/-- Reads a zone that is written with the difference of universal time from it. A text that is none
names universal time in its own way. -/
def read (cs : List Char) : Zone :=
  match name? cs with
  | none => { standard := ⟨[], 0⟩ }
  | some (name, rest) =>
    match clock? rest with
    | none => { standard := ⟨name, 0⟩ }
    | some (behind, rest) =>
      let standard : Offset := ⟨name, -behind⟩
      match name? rest with
      | none => { standard }
      | some (name, rest) =>
        let (ahead, rest) := match clock? rest with
          | some (behind, rest) => (-behind, rest)
          | none => (standard.seconds + 3600, rest)
        let changes := do
          let (start, rest) ← change? rest
          let (finish, _) ← change? rest
          some (start, finish)
        let (start, finish) := changes.getD (⟨3, 2, 0, 7200⟩, ⟨11, 1, 0, 7200⟩)
        { standard, daylight := some (⟨name, ahead⟩, start, finish) }

/-- Places and what is known of their clocks. -/
def places : List (String × String) :=
  let places (text : String) (names : List String) : List (String × String) :=
    names.map fun name => (name, text)
  places "UTC0" ["UTC", "Etc/UTC", "UCT", "Universal", "Zulu", "Etc/UCT", "Etc/Universal", "Etc/Zulu"]
    ++ places "GMT0" ["GMT", "Etc/GMT", "Greenwich", "Etc/Greenwich", "Africa/Abidjan", "Africa/Accra",
      "Atlantic/Reykjavik"]
    ++ places "EST5EDT" ["EST5EDT", "America/New_York", "America/Detroit", "America/Toronto",
      "US/Eastern"]
    ++ places "CST6CDT" ["CST6CDT", "America/Chicago", "US/Central"]
    ++ places "MST7MDT" ["MST7MDT", "America/Denver", "US/Mountain"]
    ++ places "PST8PDT" ["PST8PDT", "America/Los_Angeles", "America/Vancouver", "US/Pacific"]
    ++ places "EST5" ["EST", "America/Jamaica", "America/Panama"]
    ++ places "MST7" ["MST", "America/Phoenix"]
    ++ places "HST10" ["HST", "Pacific/Honolulu"]
    ++ places "<-03>3" ["America/Sao_Paulo", "America/Argentina/Buenos_Aires", "America/Buenos_Aires"]
    ++ places "<-05>5" ["America/Bogota", "America/Lima"]
    ++ places "GMT0BST,M3.5.0/1,M10.5.0" ["Europe/London"]
    ++ places "GMT0IST,M3.5.0/1,M10.5.0" ["Europe/Dublin"]
    ++ places "WET0WEST,M3.5.0/1,M10.5.0" ["WET", "Europe/Lisbon"]
    ++ places "CET-1CEST,M3.5.0,M10.5.0/3" ["CET", "Europe/Amsterdam", "Europe/Berlin",
      "Europe/Brussels", "Europe/Budapest", "Europe/Copenhagen", "Europe/Madrid", "Europe/Oslo",
      "Europe/Paris", "Europe/Prague", "Europe/Rome", "Europe/Stockholm", "Europe/Vienna",
      "Europe/Warsaw", "Europe/Zurich"]
    ++ places "EET-2EEST,M3.5.0/3,M10.5.0/4" ["EET", "Europe/Athens", "Europe/Bucharest",
      "Europe/Helsinki", "Europe/Kiev", "Europe/Kyiv", "Europe/Sofia"]
    ++ places "MSK-3" ["Europe/Moscow"]
    ++ places "<+03>-3" ["Asia/Riyadh", "Europe/Istanbul"]
    ++ places "<+04>-4" ["Asia/Dubai"]
    ++ places "PKT-5" ["Asia/Karachi"]
    ++ places "IST-5:30" ["Asia/Kolkata", "Asia/Calcutta"]
    ++ places "<+0545>-5:45" ["Asia/Kathmandu", "Asia/Katmandu"]
    ++ places "<+06>-6" ["Asia/Dhaka"]
    ++ places "<+07>-7" ["Asia/Bangkok", "Asia/Ho_Chi_Minh"]
    ++ places "CST-8" ["Asia/Shanghai", "Asia/Taipei"]
    ++ places "HKT-8" ["Asia/Hong_Kong"]
    ++ places "<+08>-8" ["Asia/Singapore"]
    ++ places "AWST-8" ["Australia/Perth"]
    ++ places "JST-9" ["Asia/Tokyo", "Japan"]
    ++ places "KST-9" ["Asia/Seoul"]
    ++ places "AEST-10" ["Australia/Brisbane"]
    ++ places "AEST-10AEDT,M10.1.0,M4.1.0/3" ["Australia/Sydney", "Australia/Melbourne"]
    ++ places "NZST-12NZDT,M9.5.0,M4.1.0/3" ["Pacific/Auckland"]
    ++ places "EAT-3" ["Africa/Nairobi"]
    ++ places "SAST-2" ["Africa/Johannesburg"]
    ++ places "WAT-1" ["Africa/Lagos"]

/-- The zone that the environment names. -/
def named (text : List Char) : Zone :=
  let text := match text with
    | ':' :: rest => rest
    | text => text
  if text.isEmpty then universal
  else match places.find? fun (name, _) => name.toList == text with
    | some (_, rule) => read rule.toList
    | none => read text

end Zone

end NotebookKernel
