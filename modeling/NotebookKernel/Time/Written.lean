import NotebookKernel.Time.Zone

/-! # Moments as people write them

A moment is written with a day, a time of day, a zone and steps away from it, in many forms and nearly
any order: `2024-01-15 10:30`, `Jan 15, 2024 3pm UTC`, `next month`, `@1700000000`. What is left out is
taken from the present. -/

namespace NotebookKernel.Instant.Written

/-! ## Words -/

/-- What a step away from a moment is counted in. -/
inductive Span where
  | year
  | month
  | day
  | hour
  | minute
  | second

/-- What a word means. -/
inductive Meaning where
  | afternoon (isIt : Bool)
  | month (n : Nat)
  | weekday (n : Nat)
  /-- A span, or a number of them. -/
  | span (s : Span) (count : Int)
  /-- A number of days from the present one. -/
  | shift (days : Int)
  | ordinal (n : Int)
  | ago (sign : Int)
  /-- A zone, by the seconds its clocks are ahead. -/
  | zone (ahead : Int)
  /-- A zone whose clocks are an hour further ahead. -/
  | summerZone (ahead : Int)
  | ownZone
  | summer
  /-- The letter that stands between a day and a time. -/
  | divider

/-- A part of a text. Where a number has no sign the sign is none, and else it says whether it is
negative. -/
inductive Piece where
  | number (negative : Option Bool) (value : Nat) (digits : Nat)
  /-- A number of nanoseconds that was written with a fraction. -/
  | decimal (signed : Bool) (nanos : Int)
  | word (m : Meaning)
  | mark (c : Char)

def monthsAndDays : List (String × Meaning) :=
  ["JANUARY", "FEBRUARY", "MARCH", "APRIL", "MAY", "JUNE", "JULY", "AUGUST", "SEPTEMBER"].zipIdx.map
      (fun (name, i) => (name, .month (i + 1)))
    ++ [("SEPT", .month 9), ("OCTOBER", .month 10), ("NOVEMBER", .month 11), ("DECEMBER", .month 12),
      ("SUNDAY", .weekday 0), ("MONDAY", .weekday 1), ("TUESDAY", .weekday 2), ("TUES", .weekday 2),
      ("WEDNESDAY", .weekday 3), ("WEDNES", .weekday 3), ("THURSDAY", .weekday 4),
      ("THUR", .weekday 4), ("THURS", .weekday 4), ("FRIDAY", .weekday 5), ("SATURDAY", .weekday 6)]

def spans : List (String × Meaning) := [
  ("YEAR", .span .year 1), ("MONTH", .span .month 1), ("FORTNIGHT", .span .day 14),
  ("WEEK", .span .day 7), ("DAY", .span .day 1), ("HOUR", .span .hour 1), ("MINUTE", .span .minute 1),
  ("MIN", .span .minute 1), ("SECOND", .span .second 1), ("SEC", .span .second 1)]

def relations : List (String × Meaning) := [
  ("TOMORROW", .shift 1), ("YESTERDAY", .shift (-1)), ("TODAY", .shift 0), ("NOW", .shift 0),
  ("LAST", .ordinal (-1)), ("THIS", .ordinal 0), ("NEXT", .ordinal 1), ("FIRST", .ordinal 1),
  ("THIRD", .ordinal 3), ("FOURTH", .ordinal 4), ("FIFTH", .ordinal 5), ("SIXTH", .ordinal 6),
  ("SEVENTH", .ordinal 7), ("EIGHTH", .ordinal 8), ("NINTH", .ordinal 9), ("TENTH", .ordinal 10),
  ("ELEVENTH", .ordinal 11), ("TWELFTH", .ordinal 12), ("AGO", .ago (-1)), ("HENCE", .ago 1)]

/-- Zones by their names, with the minutes that their clocks are ahead in standard time. -/
def zones : List (String × Meaning) :=
  let standard (name : String) (minutes : Int) : String × Meaning := (name, .zone (minutes * 60))
  let summer (name : String) (minutes : Int) : String × Meaning := (name, .summerZone (minutes * 60))
  [standard "WET" 0, summer "WEST" 0, summer "BST" 0, standard "ART" (-180), standard "BRT" (-180),
    summer "BRST" (-180), standard "NST" (-210), summer "NDT" (-210), standard "AST" (-240),
    summer "ADT" (-240), standard "CLT" (-240), summer "CLST" (-240), standard "EST" (-300),
    summer "EDT" (-300), standard "CST" (-360), summer "CDT" (-360), standard "MST" (-420),
    summer "MDT" (-420), standard "PST" (-480), summer "PDT" (-480), standard "AKST" (-540),
    summer "AKDT" (-540), standard "HST" (-600), standard "HAST" (-600), summer "HADT" (-600),
    standard "SST" (-720), standard "WAT" 60, standard "CET" 60, summer "CEST" 60, standard "MET" 60,
    standard "MEZ" 60, summer "MEST" 60, summer "MESZ" 60, standard "EET" 120, summer "EEST" 120,
    standard "CAT" 120, standard "SAST" 120, standard "EAT" 180, standard "MSK" 180, summer "MSD" 180,
    standard "IST" 330, standard "SGT" 480, standard "KST" 540, standard "JST" 540,
    standard "GST" 600, standard "NZST" 720, summer "NZDT" 720]

/-- The zone of a letter. -/
def letterZone? (c : Char) : Option Meaning :=
  let hours (n : Int) : Option Meaning := some (.zone (n * 3600))
  let i : Int := (c.toNat : Int)
  if c == 'T' then some .divider
  else if c == 'Z' then hours 0
  else if 'A' ≤ c && c ≤ 'I' then hours (i - 64)
  else if 'K' ≤ c && c ≤ 'M' then hours (i - 65)
  else if 'N' ≤ c && c ≤ 'Y' then hours (77 - i)
  else if c == 'J' then some .ownZone
  else none

/-- What a word in capitals means. -/
def meaning? (own : List (List Char)) (word : List Char) : Option Meaning :=
  let text := String.ofList word
  let zone? (word : List Char) : Option Meaning :=
    if ["GMT", "UT", "UTC"].any (·.toList == word) then some (.zone 0)
    else if own.any (·.map Char.toUpper == word) then some .ownZone
    else zones.lookup (String.ofList word)
  let isShort := word.length == 3 || (word.length == 4 && word.getLast? == some '.')
  let month? := (monthsAndDays.find? fun (name, _) =>
    if isShort then name.toList.take 3 == word.take 3 else name == text).map (·.2)
  let plural? := if word.getLast? == some 'S' then spans.lookup (String.ofList word.dropLast) else none
  if ["AM", "A.M."].contains text then some (.afternoon false)
  else if ["PM", "P.M."].contains text then some (.afternoon true)
  else month?.or <| (zone? word).or <| (if text == "DST" then some .summer else none).or <|
    (spans.lookup text).or <| plural?.or <| (relations.lookup text).or <|
    (match word with
      | [c] => letterZone? c
      | _ => none).or <|
    if word.contains '.' then zone? (word.filter (· != '.')) else none

/-- Leaves out a remark in parentheses, which may have others in it. -/
def overRemark : Nat → List Char → List Char
  | _, [] => []
  | depth, c :: rest =>
    let depth := if c == '(' then depth + 1 else if c == ')' then depth - 1 else depth
    if depth == 0 then rest else overRemark depth rest

/-- The value of digits, and how many nanoseconds a fraction behind them is. Further digits are cut
off, downwards. -/
def nanosOf (negative : Bool) (whole fraction : List Char) : Int :=
  let value (digits : List Char) : Nat :=
    digits.foldl (fun n d => 10 * n + (d.toNat - '0'.toNat)) 0
  let kept := fraction.take 9
  let nanos := value whole * 1000000000 + value (kept ++ List.replicate (9 - kept.length) '0')
  if !negative then (nanos : Int)
  else if (fraction.drop 9).any (· != '0') then -((nanos : Int) + 1)
  else -(nanos : Int)

/-- Whether blanks may stand between the parts of a text. -/
def isSpacing (c : Char) : Bool := c == ' ' || ('\t' ≤ c && c ≤ '\r')

/-- Takes a text apart. The fuel bounds the number of its parts. -/
def pieces? (own : List (List Char)) : Nat → List Char → Option (List Piece)
  | 0, _ => none
  | fuel + 1, cs =>
    match cs.dropWhile isSpacing with
    | [] => some []
    | c :: rest =>
      let isSign := c == '-' || c == '+'
      let behind := if isSign then rest.dropWhile isSpacing else c :: rest
      if c.isDigit || isSign then
        let digits := behind.takeWhile Char.isDigit
        -- A sign that no number follows means nothing.
        if digits.isEmpty then pieces? own fuel behind
        else if 18 < (digits.dropWhile (· == '0')).length then none
        else
          let rest := behind.drop digits.length
          let number : Piece := .number (if isSign then some (c == '-') else none)
            (digits.foldl (fun n d => 10 * n + (d.toNat - '0'.toNat)) 0) digits.length
          match rest with
          | point :: d :: more =>
            if (point == '.' || point == ',') && d.isDigit then
              let fraction := (d :: more).takeWhile Char.isDigit
              let piece : Piece := .decimal isSign (nanosOf (c == '-') digits fraction)
              (pieces? own fuel ((d :: more).drop fraction.length)).map (piece :: ·)
            else (pieces? own fuel rest).map (number :: ·)
          | rest => (pieces? own fuel rest).map (number :: ·)
      else if c.isAlpha then
        let word := c :: rest.takeWhile fun c => c.isAlpha || c == '.'
        match meaning? own (word.map Char.toUpper) with
        | none => none
        | some m => (pieces? own fuel (rest.drop (word.length - 1))).map (.word m :: ·)
      else if c == '(' then pieces? own fuel (overRemark 1 rest)
      else (pieces? own fuel rest).map (.mark c :: ·)

/-! ## What is written -/

/-- How far a moment is away from another one. -/
structure Distance where
  years : Int := 0
  months : Int := 0
  days : Int := 0
  nanos : Int := 0

/-- A number of nanoseconds of one second. -/
def billion : Int := 1000000000

def Distance.plus (d : Distance) (s : Span) (count : Int) : Distance :=
  match s with
  | .year => { d with years := d.years + count }
  | .month => { d with months := d.months + count }
  | .day => { d with days := d.days + count }
  | .hour => { d with nanos := d.nanos + count * 3600 * billion }
  | .minute => { d with nanos := d.nanos + count * 60 * billion }
  | .second => { d with nanos := d.nanos + count * billion }

/-- A year as it was written. One of two digits is near the present. -/
structure Year where
  value : Int
  digits : Nat

def Year.toInt (y : Year) : Int :=
  if y.value < 0 then -y.value
  else if y.digits == 2 then y.value + (if y.value < 69 then 2000 else 1900)
  else y.value

/-- What has been read. -/
structure Reading where
  year : Year
  month : Int
  day : Int
  hour : Int
  minute : Int
  nanos : Int
  /-- Whether the hour is one of twelve, and of the afternoon. -/
  afternoon : Option Bool := none
  ahead : Int := 0
  distance : Distance := {}
  weekday : Nat := 0
  ordinal : Int := 0
  dates : Nat := 0
  days : Nat := 0
  times : Nat := 0
  zones : Nat := 0
  summers : Nat := 0
  isRelative : Bool := false

namespace Reading

def step (r : Reading) (s : Span) (count : Int) : Reading :=
  { r with distance := r.distance.plus s count, isRelative := true }

def onDay (r : Reading) (month day : Int) : Reading :=
  { r with month, day, dates := r.dates + 1 }

def inYear (r : Reading) (year : Int) (digits : Nat) : Reading := { r with year := ⟨year, digits⟩ }

def atTime (r : Reading) (hour minute nanos : Int) (afternoon : Option Bool) : Reading :=
  { r with hour, minute, nanos, afternoon, times := r.times + 1 }

/-- Notes a zone that is told by hours, or by hours and minutes. -/
def inZone? (r : Reading) (base : Int) (negative : Bool) (value digits : Nat)
    (minutes : Option Nat) : Option Reading :=
  let value := if digits ≤ 2 && minutes.isNone then value * 100 else value
  let size := match minutes with
    | none => value / 100 * 60 + value % 100
    | some minutes => value * 60 + minutes
  if 24 * 60 < size then none
  else some { r with
    ahead := base + (if negative then -(size : Int) else size) * 60, zones := r.zones + 1 }

/-- Notes a number that stands for itself: a year, a whole date or a time of day. -/
def plainNumber (r : Reading) (value digits : Nat) : Reading :=
  if r.dates != 0 && r.year.digits == 0 && !r.isRelative && (r.times != 0 || 2 < digits) then
    r.inYear value digits
  else if 4 < digits then
    (r.onDay (value / 100 % 100 : Nat) (value % 100 : Nat)).inYear (value / 10000 : Nat) (digits - 4)
  else if digits ≤ 2 then r.atTime value 0 0 none
  else r.atTime (value / 100 : Nat) (value % 100 : Nat) 0 none

end Reading

/-- Takes minutes behind a colon. -/
def minutes : List Piece → Option Nat × List Piece
  | .mark ':' :: .number none n _ :: rest => (some n, rest)
  | rest => (none, rest)

/-- Whether a list of pieces begins with minutes that are none. -/
def lacksMinutes : List Piece → Bool
  | .mark ':' :: .number none _ _ :: _ => false
  | .mark ':' :: _ => true
  | _ => false

/-- Takes a zone that is told by its hours, if there is one. -/
def zoneBehind? (r : Reading) : List Piece → Option (Reading × List Piece)
  | .number (some negative) value digits :: rest =>
    if lacksMinutes rest then none
    else
      let (minutes, rest) := minutes rest
      (r.inZone? 0 negative value digits minutes).map fun r => (r, rest)
  | rest => some (r, rest)

/-- Takes what follows the hour of a time of day and a colon. -/
def timeBehind? (r : Reading) (hour : Nat) (mayBeHalf : Bool) :
    List Piece → Option (Reading × List Piece)
  | .number none minute _ :: rest =>
    let finish (nanos : Int) (rest : List Piece) : Option (Reading × List Piece) :=
      match rest, mayBeHalf with
      | .word (.afternoon isIt) :: rest, true => some (r.atTime hour minute nanos (some isIt), rest)
      | rest, _ => zoneBehind? (r.atTime hour minute nanos none) rest
    match rest with
    | .mark ':' :: .number none second _ :: rest => finish (second * billion) rest
    | .mark ':' :: .decimal false nanos :: rest => finish nanos rest
    | .mark ':' :: _ => none
    | rest => finish 0 rest
  | _ => none

/-- Takes a date and what belongs to it behind a number without a sign and one with it. -/
def dateBehind? (r : Reading) (year : Nat) (digits : Nat) (month day : Int) (rest : List Piece) :
    Option (Reading × List Piece) :=
  let r := (r.onDay month day).inYear year digits
  match rest with
  | .word .divider :: .number none hour _ :: .mark ':' :: rest => timeBehind? r hour false rest
  | .word .divider :: .number none hour _ :: .number (some negative) n digits :: rest =>
    zoneBehind? (r.atTime hour 0 0 none) (.number (some negative) n digits :: rest)
  | .word .divider :: _ => none
  | rest => some (r, rest)

/-- The value of a number with a sign. -/
def signed (negative : Bool) (value : Nat) : Int := if negative then -(value : Int) else value

/-- Takes a number of spans, which may be in the past. -/
def steps (r : Reading) (s : Span) (count : Int) : List Piece → Reading × List Piece
  | .word (.ago sign) :: rest => (r.step s (sign * count), rest)
  | rest => (r.step s count, rest)

/-- Takes a number of nanoseconds, which may be in the past. -/
def nanoSteps (r : Reading) (nanos : Int) (rest : List Piece) : Reading × List Piece :=
  let r := { r with isRelative := true }
  let add (n : Int) : Reading := { r with distance.nanos := r.distance.nanos + n }
  match rest with
  | .word (.ago sign) :: rest => (add (sign * nanos), rest)
  | rest => (add nanos, rest)

/-- Takes what a number without a sign begins. -/
def numberItem? (r : Reading) (n digits : Nat) : List Piece → Option (Reading × List Piece)
  | .word (.afternoon isIt) :: rest => some (r.atTime n 0 0 (some isIt), rest)
  | .mark ':' :: rest => timeBehind? r n true rest
  | .mark '/' :: .number none b _ :: .mark '/' :: .number none c digitsOfC :: rest =>
    if 4 ≤ digits then some ((r.onDay b c).inYear n digits, rest)
    else some ((r.onDay n b).inYear c digitsOfC, rest)
  | .mark '/' :: .number none _ _ :: .mark '/' :: _ => none
  | .mark '/' :: .number none b _ :: rest => some (r.onDay n b, rest)
  | .mark '/' :: _ => none
  | .word (.month m) :: .number (some negative) y digits :: rest =>
    some ((r.onDay m n).inYear (-(signed negative y)) digits, rest)
  | .word (.month m) :: .number none y digits :: rest => some ((r.onDay m n).inYear y digits, rest)
  | .word (.month m) :: rest => some (r.onDay m n, rest)
  | .number (some a) b _ :: .number (some c) d _ :: rest =>
    dateBehind? r n digits (-(signed a b)) (-(signed c d)) rest
  | .number (some negative) b _ :: .word (.span s each) :: rest =>
    some ((r.plainNumber n digits).step s (signed negative b * each), rest)
  | .number (some negative) b d :: rest =>
    zoneBehind? (r.atTime n 0 0 none) (.number (some negative) b d :: rest)
  | .decimal true nanos :: .word (.span .second _) :: rest =>
    let r := { r.plainNumber n digits with isRelative := true }
    some ({ r with distance.nanos := r.distance.nanos + nanos }, rest)
  | .word (.weekday d) :: rest =>
    some ({ r with weekday := d, ordinal := n, days := r.days + 1 }, rest)
  | .word (.span s each) :: rest => some (steps r s (n * each) rest)
  | rest => some (r.plainNumber n digits, rest)

/-- Takes what follows the name of a zone. -/
def zoneItem? (r : Reading) (ahead : Int) : List Piece → Option (Reading × List Piece)
  | .number (some negative) n _ :: .word (.span s each) :: rest =>
    some ({ r with ahead, zones := r.zones + 1 }.step s (signed negative n * each), rest)
  | .number (some negative) n digits :: rest =>
    if lacksMinutes rest then none
    else
      let (minutes, rest) := minutes rest
      (r.inZone? ahead negative n digits minutes).map fun r => (r, rest)
  | .word .summer :: rest => some ({ r with ahead := ahead + 3600, zones := r.zones + 1 }, rest)
  | rest => some ({ r with ahead, zones := r.zones + 1 }, rest)

/-- Takes one statement about a moment. -/
def item? (r : Reading) : List Piece → Option (Reading × List Piece)
  | .number none n digits :: rest => numberItem? r n digits rest
  | .number (some negative) n _ :: .word (.span s each) :: rest =>
    some (steps r s (signed negative n * each) rest)
  | .decimal _ nanos :: .word (.span .second _) :: rest => some (nanoSteps r nanos rest)
  | .word m :: rest =>
    match m, rest with
    | .month m, .number (some a) day _ :: .number (some b) year digits :: rest =>
      some ((r.onDay m (-(signed a day))).inYear (-(signed b year)) digits, rest)
    | .month m, .number none day _ :: .mark ',' :: .number none year digits :: rest =>
      some ((r.onDay m day).inYear year digits, rest)
    | .month _, .number none _ _ :: .mark ',' :: _ => none
    | .month m, .number none day _ :: rest => some (r.onDay m day, rest)
    | .weekday d, rest =>
      let rest := match rest with
        | .mark ',' :: rest => rest
        | rest => rest
      some ({ r with weekday := d, ordinal := 0, days := r.days + 1 }, rest)
    | .ordinal n, .word (.weekday d) :: rest =>
      some ({ r with weekday := d, ordinal := n, days := r.days + 1 }, rest)
    | .ordinal n, .word (.span s each) :: rest => some (steps r s (n * each) rest)
    | .span s each, rest => some (steps r s each rest)
    | .shift days, rest => some (r.step .day days, rest)
    | .zone ahead, rest => zoneItem? r ahead rest
    | .divider, rest => zoneItem? r (-7 * 3600) rest
    | .summerZone ahead, rest => some ({ r with ahead := ahead + 3600, zones := r.zones + 1 }, rest)
    | .ownZone, rest => some ({ r with summers := r.summers + 1 }, rest)
    | _, _ => none
  | _ => none

/-- Takes all statements. The fuel bounds their number. -/
def items? : Nat → Reading → List Piece → Option Reading
  | _, r, [] => some r
  | 0, _, _ => none
  | fuel + 1, r, pieces =>
    match item? r pieces with
    | none => none
    | some (r, rest) => items? fuel r rest

/-- The hour of the day, if there is such an hour. -/
def hourOf? (hour : Int) (afternoon : Option Bool) : Option Int :=
  match afternoon with
  | none => if 0 ≤ hour && hour < 24 then some hour else none
  | some isIt =>
    if hour < 1 || 12 < hour then none
    else some (hour % 12 + (if isIt then 12 else 0))

/-- The moment that is meant, if clocks and calendars have it. -/
def Reading.instant? (z : Zone) (r : Reading) : Option Instant := do
  if [r.times, r.dates, r.days, r.summers + r.zones].any (1 < ·) then none
  let keepsTime := r.times != 0 || (r.isRelative && r.dates == 0 && r.days == 0)
  let hour ← if keepsTime then hourOf? r.hour r.afternoon else some 0
  let minute := if keepsTime then r.minute else 0
  let nanos := if keepsTime then r.nanos else 0
  let year := r.year.toInt
  if r.month < 1 || 12 < r.month || r.day < 1 || (daysInMonth year r.month.toNat : Int) < r.day then none
  if 59 < minute || 59 < nanos / billion || 2147485547 < year then none
  let time := hour * 3600 + minute * 60 + nanos / billion
  let written := daysAfter year (r.month - 1) (r.day - 1)
  let secondsOf (day : Int) : Option Int :=
    if r.zones != 0 then some (day * 86400 + time - r.ahead) else z.secondsOf? (day * 86400 + time)
  let _ ← secondsOf written
  let weekday : Int := weekdayOfDays written
  let toWeekday : Int :=
    if r.days != 0 && r.dates == 0 then
      ((r.weekday : Int) - weekday + 7) % 7 +
        7 * (r.ordinal - (if 0 < r.ordinal && weekday != r.weekday then 1 else 0))
    else 0
  let d := r.distance
  let day := daysAfter (year + d.years) (r.month - 1 + d.months) (r.day - 1 + toWeekday + d.days)
  let seconds := (secondsOf day).getD (day * 86400 + time - z.standard.seconds)
  let total := seconds * billion + nanos % billion + d.nanos
  some ⟨total / billion, (total % billion).toNat⟩

end Written

/-- The moment that a text means, at some present moment. -/
def read? (z : Zone) (now : Instant) (text : List Char) : Option Instant :=
  let (z, text) := match text.dropWhile Written.isSpacing with
    | 'T' :: 'Z' :: '=' :: '"' :: rest =>
      let name := rest.takeWhile (· != '"')
      if name.length < rest.length then (Zone.named name, rest.drop (name.length + 1)) else (z, text)
    | _ => (z, text)
  let own := z.standard.name :: (z.daylight.map (·.1.name)).toList
  let pieces? (text : List Char) : Option (List Written.Piece) :=
    Written.pieces? own (text.length + 1) text
  match text.dropWhile Written.isSpacing with
  | '@' :: rest =>
    match pieces? rest with
    | some [.number negative n _] => some ⟨Written.signed (negative.getD false) n, 0⟩
    | some [.decimal _ nanos] => some ⟨nanos / Written.billion, (nanos % Written.billion).toNat⟩
    | _ => none
  | text =>
    let shown := now.seconds + (z.offsetAt now.seconds).seconds
    let date := dateOfDays (shown / 86400)
    let second := shown % 86400
    let present : Written.Reading := {
      year := ⟨date.year, 0⟩, month := date.month, day := date.day, hour := second / 3600
      minute := second / 60 % 60
      nanos := second % 60 * Written.billion + now.nanos }
    match pieces? text with
    | none => none
    | some pieces => (Written.items? (pieces.length + 1) present pieces).bind (·.instant? z)

end NotebookKernel.Instant
