import NotebookKernel.Shell.Regex.Reader
import NotebookKernel.Shell.Tool.Basic

/-! # Numbered lines

`nl` numbers lines. Lines that hold nothing but delimiters divide its input into heads, bodies and
feet, and each of them has its own rule which lines count. -/

namespace NotebookKernel.Shell.Tool

open Run

/-- Which lines have a number. -/
inductive NumberStyle where
  | all
  | nonempty
  | none
  | matching (regex : Regex Probe)

inductive PageSection where
  | head
  | body
  | foot

/-- How lines are numbered. -/
structure Numbering where
  head : NumberStyle := .none
  body : NumberStyle := .nonempty
  foot : NumberStyle := .none
  delimiter : Octets := ['\\', ':']
  start : Int := 1
  increment : Int := 1
  /-- How many empty lines count as one. -/
  joined : Nat := 1
  /-- Whether numbers go on over the sections. -/
  keepsOn : Bool := false
  format : String := "rn"
  separator : Octets := ['\t']
  width : Nat := 6

/-- The place that numbering has come to. -/
structure NumberPlace where
  part : PageSection := .body
  next : Int
  /-- How many empty lines came together. -/
  empty : Nat := 0
  out : List Octets := []
  /-- Whether there was no number for a line. -/
  exhausted : Bool := false

namespace Numbering

def styleOf (n : Numbering) : PageSection → NumberStyle
  | .head => n.head
  | .body => n.body
  | .foot => n.foot

/-- The section that a line begins. -/
def section? (n : Numbering) (line : Octets) : Option PageSection :=
  let times (k : Nat) : Octets := (List.replicate k n.delimiter).flatten
  if n.delimiter.isEmpty then none
  else if line == times 3 then some .head
  else if line == times 2 then some .body
  else if line == times 1 then some .foot
  else none

def numberText (n : Numbering) (number : Int) : Octets :=
  let digits := Octets.ofInt number
  match n.format with
  | "ln" => padRight n.width digits
  | "rz" =>
    let sign := if number < 0 then ['-'] else []
    let bare := digits.drop sign.length
    sign ++ List.replicate (n.width - digits.length) '0' ++ bare
  | _ => padLeft n.width digits

def numbered (n : Numbering) (line : Octets) (place : NumberPlace) : NumberPlace :=
  if maxWord / 2 < place.next then { place with exhausted := true }
  else { place with
    next := place.next + n.increment
    out := (n.numberText place.next ++ n.separator ++ line ++ ['\n']) :: place.out }

def unnumbered (n : Numbering) (line : Octets) (place : NumberPlace) : NumberPlace :=
  let blank := List.replicate (n.width + n.separator.length) ' '
  { place with out := (blank ++ line ++ ['\n']) :: place.out }

/-- Shows a line. -/
def step (n : Numbering) (place : NumberPlace) (line : Octets) : NumberPlace :=
  if place.exhausted then place
  else match n.section? line with
    | some part =>
      { place with part, next := if n.keepsOn then place.next else n.start, out := ['\n'] :: place.out }
    | none =>
      match n.styleOf place.part with
      | .none => n.unnumbered line place
      | .nonempty => if line.isEmpty then n.unnumbered line place else n.numbered line place
      | .matching regex =>
        if (Placed.of false true regex line).occurs then n.numbered line place
        else n.unnumbered line place
      | .all =>
        if n.joined ≤ 1 then n.numbered line place
        else if !line.isEmpty || place.empty + 1 == n.joined then
          { n.numbered line place with empty := 0 }
        else { n.unnumbered line place with empty := place.empty + 1 }

end Numbering

/-- Reads which lines have a number. -/
def numberStyle? (text : Octets) : Option (Except Regex.Fault NumberStyle) :=
  match text with
  | 'a' :: _ => some (.ok .all)
  | 't' :: _ => some (.ok .nonempty)
  | 'n' :: _ => some (.ok .none)
  | 'p' :: expression =>
    some ((Regex.read ⟨false, true, false⟩ expression).map fun e => .matching e.regex)
  | _ => none

/-- Reads a number with a sign. -/
def signedAmount (text : Octets) : Amount × Bool :=
  match text.dropWhile isSpace with
  | '-' :: digits =>
    if (digits.headD ' ').isDigit then (Amount.ofText false digits, true) else (.invalid, true)
  | text => (Amount.ofText false text, false)

def signedOf (text : Octets) : Int :=
  let (amount, negative) := signedAmount text
  if negative then -(amount.get : Int) else amount.get

def checkNumberOption (c : Choice) : Option Refusal :=
  let signed (what : String) (least : Option Nat) (greatest : Nat) : Option Refusal :=
    let (amount, negative) := signedAmount c.text
    let amount : Amount := match amount with
      | .value n => if greatest < n then .tooLarge
        else if least.any fun least => negative || n < least then .tooSmall else .value n
      | .tooLarge => if negative && least.isSome then .tooSmall else .tooLarge
      | other => other
    amount.refusal? what c.text
  let style (what : String) : Option Refusal := match numberStyle? c.text with
    | some (.ok _) => none
    | some (.error fault) => some ⟨fault.message.toList, false, 1⟩
    | none => some ⟨("invalid " ++ what ++ " numbering style: ").toList ++ quote c.text, true, 1⟩
  match c.key with
  | "b" => style "body"
  | "h" => style "header"
  | "f" => style "footer"
  | "i" => signed "invalid line number increment" none (maxWord / 2)
  | "v" => signed "invalid starting line number" none (maxWord / 2)
  | "l" => signed "invalid line number of blank lines" (some 1) (maxWord / 2)
  | "w" => signed "invalid line number field width" (some 1) 2147483647
  | "n" =>
    if ["ln", "rn", "rz"].contains (String.ofList c.text) then none
    else some ⟨"invalid line numbering format: ".toList ++ quote c.text, true, 1⟩
  | _ => none

def numbering (o : Called) : Numbering :=
  let n : Numbering := {}
  let style (key : String) (otherwise : NumberStyle) : NumberStyle :=
    match (o.value? key).bind numberStyle? with
    | some (.ok style) => style
    | _ => otherwise
  let number (key : String) (otherwise : Int) : Int := ((o.value? key).map signedOf).getD otherwise
  { head := style "h" n.head, body := style "b" n.body, foot := style "f" n.foot
    delimiter := match o.value? "d" with
      | none => n.delimiter
      | some [c] => [c, ':']
      | some text => text
    start := number "v" n.start, increment := number "i" n.increment
    joined := (number "l" n.joined).toNat, keepsOn := o.has "p"
    format := ((o.value? "n").map String.ofList).getD n.format
    separator := (o.value? "s").getD n.separator, width := (number "w" n.width).toNat }

def nl (arguments : List Octets) : Run Nat :=
  withOptions "b,body-numbering= d,section-delimiter= f,footer-numbering= h,header-numbering=
    i,line-increment= l,join-blank-lines= n,number-format= p,no-renumber s,number-separator=
    v,starting-line-number= w,number-width=" arguments (fun o => do
    let n := numbering o
    let mut place : NumberPlace := { next := n.start }
    let mut fine := true
    for file in orInput o.operands do
      match ← readWhole file with
      | .error e =>
        complainAbout (quoteName file) e
        fine := false
      | .ok text =>
        place := (Octets.lines text).foldl n.step place
        put place.out.reverse.flatten
        place := { place with out := [] }
    if place.exhausted then return ← refuseCall ⟨"line number overflow".toList, false, 1⟩
    return status fine) checkNumberOption

end NotebookKernel.Shell.Tool
