import NotebookKernel.Shell.Layout
import NotebookKernel.Shell.Printing

/-! # Formats of the shell

A format is printed with its escapes and directives replaced, and again as long as there are arguments
left for it. -/

namespace NotebookKernel.Shell.Printf

/-- What was printed so far. -/
structure Progress where
  output : Octets := []
  complaints : List Octets := []
  arguments : List Octets
  consumed : Bool := false
  /-- No more is to be printed. -/
  ended : Bool := false
  /-- The format itself is wrong. -/
  malformed : Bool := false

namespace Progress

def put (p : Progress) (text : Octets) : Progress := { p with output := p.output ++ text }

def complain (p : Progress) (text : Octets) : Progress :=
  { p with complaints := p.complaints ++ [text] }

/-- The next argument, if there is one. -/
def take (p : Progress) : Option Octets × Progress :=
  match p.arguments with
  | [] => (none, p)
  | a :: rest => (some a, { p with arguments := rest, consumed := true })

/-- Complains about an argument that is no number, or not as a whole. -/
def check (p : Progress) (argument rest : Octets) (outOfRange : Bool) : Progress :=
  if !rest.isEmpty then
    p.complain (argument ++ (if rest.length == argument.length then ": expected numeric value"
      else ": not completely converted").toList)
  else if outOfRange then p.complain (argument ++ ": Numerical result out of range".toList)
  else p

/-- Takes an argument as an integer of 64 bits. -/
def takeInteger (p : Progress) (signed : Bool) : Int × Progress :=
  match p.take with
  | (none, p) => (0, p)
  | (some text, p) =>
    if text.head? == some '"' || text.head? == some '\'' then
      (((text[1]?).map fun c => (c.toNat : Int)).getD 0, p)
    else
      let (n, rest) := (Arithmetic.leading? none text).getD (0, text)
      let size : Int := (Nat.pow 2 64 : Nat)
      let clamped := if signed then max Arithmetic.least (min Arithmetic.greatest n)
        else if n ≤ -size || size ≤ n then size - 1
        else n
      (clamped, p.check text rest (clamped != n))

/-- Takes an argument as a floating-point number. -/
def takeFloating (p : Progress) : Floating × Progress :=
  match p.take with
  | (none, p) => (.zero, p)
  | (some text, p) =>
    if text.head? == some '"' || text.head? == some '\'' then
      (Floating.ofInt .double (((text[1]?).map fun c => (c.toNat : Int)).getD 0), p)
    else match Floating.read? text with
      | none => (.zero, p.check text text false)
      | some (written, rest) =>
        let (x, outOfRange) := written.toFloating .double
        (x, p.check text rest outOfRange)

end Progress

/-- A width or precision, which may be the next argument. -/
def readSize (text : Octets) (p : Progress) : Option Int × Octets × Progress :=
  match text with
  | '*' :: rest =>
    let (n, p) := p.takeInteger true
    (some (n.bmod (Nat.pow 2 32)), rest, p)
  | text =>
    let digits := text.takeWhile Char.isDigit
    ((Octets.digitsValue? digits).map Int.ofNat, text.drop digits.length, p)

/-- Prints by the directive that follows a percent sign. -/
def direct (directive : Octets) (p : Progress) : Octets × Progress :=
  let flags := directive.takeWhile Layout.isFlag
  let (width, text, p) := readSize (directive.drop flags.length) p
  let (precision, text, p) := match text with
    | '.' :: rest =>
      let (n, rest, p) := readSize rest p
      (some (n.getD 0), rest, p)
    | text => (none, text, p)
  let layout := Layout.ofParts flags (width.getD 0) precision
  match text with
  | [] => ([], { p.complain "missing format character".toList with ended := true, malformed := true })
  | c :: rest =>
    if c == 'd' || c == 'i' then
      let (n, p) := p.takeInteger true
      (rest, p.put (layout.signed n))
    else if ['o', 'u', 'x', 'X'].contains c then
      let (n, p) := p.takeInteger false
      (rest, p.put (layout.unsigned c (n.emod (Nat.pow 2 64)).toNat))
    else if "aAeEfFgG".toList.contains c then
      let (x, p) := p.takeFloating
      (rest, p.put (layout.floating .double c x))
    else if c == 'c' then
      let (a, p) := p.take
      (rest, p.put (layout.pad [((a.getD []).head?).getD (Char.ofNat 0)]))
    else if c == 's' then
      let (a, p) := p.take
      (rest, p.put (layout.text (a.getD [])))
    else if c == 'b' then
      let (a, p) := p.take
      let (text, ended) := Escape.expand ((a.getD []).length + 1) (a.getD [])
      (rest, { p.put (layout.text text) with ended })
    else
      let shown := '%' :: directive.take (directive.length - rest.length)
      ([], { p.complain (shown ++ ": invalid directive".toList) with ended := true, malformed := true })

/-- Goes through a format once. The fuel bounds its length. -/
def pass (fuel : Nat) (format : Octets) (p : Progress) : Progress :=
  match fuel, format with
  | 0, _ => p
  | _, [] => p
  | fuel + 1, c :: rest =>
    if p.ended then p
    else if c == '\\' then
      let (c, rest) := Escape.read rest
      pass fuel rest (p.put [c])
    else if c == '%' then
      match rest with
      | '%' :: rest => pass fuel rest (p.put ['%'])
      | rest =>
        let (rest, p) := direct rest p
        pass fuel rest p
    else pass fuel rest (p.put [c])

/-- Goes through a format until the arguments are used up. -/
def passes (format : Octets) : Nat → Progress → Progress
  | 0, p => p
  | fuel + 1, p =>
    let p := pass (format.length + 1) format p
    if p.ended || p.arguments.isEmpty || !p.consumed then p else passes format fuel p

/-- What `printf` prints, and what it complains about. -/
def run (format : Octets) (arguments : List Octets) : Progress :=
  passes format (arguments.length + 1) { arguments }

end NotebookKernel.Shell.Printf
