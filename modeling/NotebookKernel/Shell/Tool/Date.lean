import NotebookKernel.Shell.Tool.Flow
import NotebookKernel.Time.Format
import NotebookKernel.Time.Written

/-! # The time of day

`date` shows the present moment, or one that it is told, in a format. -/

namespace NotebookKernel.Shell.Tool

open Run

/-- How exactly a moment is shown in the forms that have names. -/
def isoForms : List (String × String) := [
  ("hours", "%Y-%m-%dT%H%:z"), ("minutes", "%Y-%m-%dT%H:%M%:z"), ("date", "%Y-%m-%d"),
  ("seconds", "%Y-%m-%dT%H:%M:%S%:z"), ("ns", "%Y-%m-%dT%H:%M:%S,%N%:z")]

def spacedForms : List (String × String) := [
  ("date", "%Y-%m-%d"), ("seconds", "%Y-%m-%d %H:%M:%S%:z"), ("ns", "%Y-%m-%d %H:%M:%S.%N%:z")]

def formNames (forms : List (String × String)) : List (List String) := forms.map fun f => [f.1]

/-- The format that an option stands for. -/
def dateForm? (c : Choice) : Option String :=
  let named (forms : List (String × String)) : Option String :=
    (wordOf? (formNames forms) c.text).bind fun word => forms.lookup word
  match c.key with
  | "I" => if c.value.isNone then some "%Y-%m-%d" else named isoForms
  | "rfc-3339" => named spacedForms
  | "R" => some "%a, %d %b %Y %H:%M:%S %z"
  | _ => none

/-- The zone that the environment names. -/
def ownZone : Run Zone := do
  return match (← exports).lookup "TZ".toList with
    | some text => Zone.named text
    | none => .universal

def setDateForm : String := "%a %b %e %H:%M:%S %Z %Y"

/-- Reads a moment that is written as the clock is set: month, day, hour and minute, then the year if
there is one, and seconds behind a point. -/
def clockSetting? (z : Zone) (now : Instant) (text : Octets) : Option Instant :=
  let (digits, seconds) := match Text.Chars.splitOnce? '.' text with
    | some (digits, seconds) => (digits, some seconds)
    | none => (text, none)
  let pairs := (pieces 2 digits).map Octets.digitsValue?
  let second? := match seconds with
    | none => some 0
    | some s => if s.length == 2 then Octets.digitsValue? s else none
  match pairs.mapM id, second? with
  | some (month :: day :: hour :: minute :: year), some second =>
    let present := (now.momentIn z).date.year
    let year? : Option Int := match year with
      | [] => some present
      | [y] => some (if y < 69 then 2000 + y else 1900 + y)
      | [century, y] => some (century * 100 + y)
      | _ => none
    let fits := digits.length % 2 == 0 && 1 ≤ month && month ≤ 12 && 1 ≤ day && hour < 24 &&
      minute < 60 && second < 60
    match year?, fits with
    | some year, true =>
      if Instant.daysInMonth year month < day then none
      else (z.secondsOf? (Instant.daysOf year month day * 86400 + hour * 3600 + minute * 60 + second)).map
        fun seconds => ⟨seconds, 0⟩
    | _, _ => none
  | _, _ => none

/-- Shows moments as options and operands say. -/
def showDate (c : Called) : Run Nat := do
  let zone ← if c.has "u" then pure .universal else ownZone
  let now := (← world).machine.instant
  let refuse (text : Octets) (hinted : Bool) : Run Nat := refuseCall ⟨text, hinted, 1⟩
  let wrong (text : Octets) : Octets := "invalid date ".toList ++ quote text
  let told := [c.has "d", c.has "f", c.has "r"].countP id
  let form? := (c.choices.filterMap dateForm?).head?
  if 1 < (c.choices.filterMap dateForm?).length then
    return ← refuse "multiple output formats specified".toList false
  if 1 < told then
    return ← refuse "the options to specify dates for printing are mutually exclusive".toList true
  if told != 0 && c.has "s" then
    return ← refuse "the options to print and set the time may not be used together".toList true
  if let _ :: extra :: _ := c.operands then return ← extraOperand extra
  let (own, setting) : Option Octets × Option Octets := match c.operands with
    | ('+' :: own) :: _ => (some own, none)
    | operand :: _ => (none, some operand)
    | [] => (none, none)
  if own.isSome && form?.isSome then
    return ← refuse "multiple output formats specified".toList false
  if let some operand := setting then
    if told != 0 || c.has "s" then
      return ← refuse ("the argument ".toList ++ quote operand ++
        (" lacks a leading '+';\nwhen using an option to specify date(s), any non-option\n" ++
          "argument must be a format string beginning with '+'").toList) true
  let form := (own.map String.ofList).getD (form?.getD setDateForm)
  let put (i : Instant) : Run Unit := putLine (i.formatted form zone)
  match c.value? "f", c.value? "r" with
  | some file, _ =>
    match ← readWhole file with
    | .error why =>
      complainAbout (quoteName file) why
      return 1
    | .ok text =>
      let mut fine := true
      for line in linesOf false text do
        match Instant.read? zone now line with
        | some i => put i
        | none =>
          complainOf (wrong line)
          fine := false
      return status fine
  | _, some file =>
    match ← find file true with
    | .ok _ =>
      put now
      return 0
    | .error why =>
      complainAbout (quoteName file) why
      return 1
  | none, none =>
    let text := (c.value? "s").or <| (c.value? "d").or setting
    let moment := match text, setting with
      | none, _ => some now
      | some text, some _ => clockSetting? zone now text
      | some text, none => Instant.read? zone now text
    match moment with
    | none => refuse (wrong (text.getD [])) false
    | some i =>
      let sets := c.has "s" || setting.isSome
      if sets then complainOf "cannot set date: Operation not permitted".toList
      put i
      return status !sets

def date (arguments : List Octets) : Run Nat :=
  withOptions ("d,date= debug f,file= I,iso-8601? r,reference= R,rfc-email,rfc-822,rfc-2822 " ++
      "rfc-3339= s,set= u,utc,uct,universal") arguments
    showDate
    fun c =>
      if c.key == "I" && c.value.isSome && (dateForm? c).isNone then
        some (wrongWord c.text "--iso-8601" (formNames isoForms))
      else if c.key == "rfc-3339" && (dateForm? c).isNone then
        some (wrongWord c.text "--rfc-3339" (formNames spacedForms))
      else none

end NotebookKernel.Shell.Tool
