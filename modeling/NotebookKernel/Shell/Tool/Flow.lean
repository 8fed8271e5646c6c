import NotebookKernel.Shell.Regex.Reader
import NotebookKernel.Shell.Tool.Words

/-! # Programs that pass text on

They copy their input as a whole or in part, forwards or backwards. -/

namespace NotebookKernel.Shell.Tool

open Run

/-! ## Copying -/

/-- What is shown of characters that cannot be seen. -/
structure Showing where
  controls : Bool
  tabs : Bool
  ends : Bool

/-- A byte as it is shown: `^` stands for the control key and `M-` for the highest bit. -/
def Showing.shown (s : Showing) (c : Char) : Octets :=
  let low (n : Nat) : Octets :=
    if n < 32 then ['^', Char.ofNat (n + 64)] else if n == 127 then ['^', '?'] else [Char.ofNat n]
  if c == '\t' then if s.tabs then ['^', 'I'] else [c]
  else if !s.controls || c == '\n' then [c]
  else if c.toNat < 128 then low c.toNat
  else 'M' :: '-' :: low (c.toNat - 128)

/-- Which lines get a number. -/
inductive Numbered where
  | noLines
  | allLines
  | lines

/-- How a copy of a text differs from it. -/
structure Copying where
  showing : Showing
  numbered : Numbered
  /-- Of neighbouring empty lines only the first is kept. -/
  squeezing : Bool

/-- How far a copy has come: the lines with a number so far, and how many line feeds came last. -/
structure CopyPlace where
  number : Nat := 0
  feeds : Nat := 1

namespace Copying

def isPlain (c : Copying) : Bool :=
  !c.showing.controls && !c.showing.tabs && !c.showing.ends && !c.squeezing &&
    match c.numbered with
    | .noLines => true
    | _ => false

def numberText (n : Nat) : Octets := padLeft 6 (Octets.ofNat n) ++ ['\t']

/-- Copies text from some place on. What comes out is in reverse. -/
def go (c : Copying) (place : CopyPlace) (out : Octets) : Octets → CopyPlace × Octets
  | [] => (place, out)
  | '\n' :: rest =>
    if c.squeezing && 2 ≤ place.feeds then go c place out rest
    else
      let (place, out) := match c.numbered, place.feeds with
        | .allLines, _ + 1 =>
          let number := place.number + 1
          ({ place with number }, (numberText number).reverse ++ out)
        | _, _ => (place, out)
      let out := if c.showing.ends then '$' :: out else out
      go c { place with feeds := min 2 (place.feeds + 1) } ('\n' :: out) rest
  | char :: rest =>
    let (place, out) := match c.numbered, place.feeds with
      | .noLines, _ => (place, out)
      | _, 0 => (place, out)
      | _, _ + 1 =>
        let number := place.number + 1
        ({ place with number }, (numberText number).reverse ++ out)
    let shown :=
      if c.showing.ends && !c.showing.controls && char == '\r' && rest.head? == some '\n' then
        ['^', 'M']
      else c.showing.shown char
    go c { place with feeds := 0 } (shown.reverse ++ out) rest

end Copying

/-- The place and the offset at which the standard output goes on in a file. -/
def outputPlace? : Run (Option (Location × Nat)) := do
  match ← stream? 1 with
  | some (.file n) =>
    match ← openFile? n with
    | some f =>
      let length := match (← tree).get? f.place with
        | some (.file content _) => content.length
        | _ => 0
      return some (f.place, if f.appends then length else f.offset)
    | none => return none
  | _ => return none

def cat (arguments : List Octets) : Run Nat :=
  withOptions "b,number-nonblank n,number s,squeeze-blank v,show-nonprinting E,show-ends T,show-tabs
    A,show-all e t u" arguments fun o => do
    if (← stream? 1).isNone then
      complainAbout "standard output".toList .badDescriptor
      return 1
    let copying : Copying := {
      showing := {
        controls := ["A", "e", "t", "v"].any o.has
        tabs := ["A", "t", "T"].any o.has
        ends := ["A", "e", "E"].any o.has }
      numbered := if o.has "b" then .lines else if o.has "n" then .allLines else .noLines
      squeezing := o.has "s" }
    let mut place : CopyPlace := {}
    let mut fine := true
    for file in orInput o.operands do
      let isOutput : Bool ← match ← outputPlace?, ← find file true with
        | some (output, offset), .ok (input, _) => pure (output == input && 0 < offset && file != ['-'])
        | _, _ => pure false
      if isOutput then
        complainOf (quoteName file ++ ": input file is output file".toList)
        fine := false
      else match ← readInput file with
        | .error e =>
          complainAbout (quoteName file) e
          fine := false
        | .ok s =>
          if copying.isPlain then put s.content
          else
            let (next, out) := copying.go place [] s.content
            place := next
            put out.reverse
          if !s.endless.isEmpty then
            writeEndless 1 (if copying.isPlain then s.endless
              else (copying.go place [] s.endless).2.reverse)
    return status fine

/-- Gives a file its content, which is put after the old one or in its place. -/
def fill (file : Octets) (appending : Bool) (content : Octets) : Run (Except OsError Unit) := do
  match deviceDescriptor? file with
  | some n => write n content
  | none =>
    let p ← process
    let t ← tree
    let old := match t.find true p.directory (pathOf file) with
      | .ok (_, .file old _) => if appending then old else []
      | _ => []
    match t.writeFile p.directory (pathOf file) (old ++ Octets.toBytes content)
        (Mode.masked 0o666 p.umask) with
    | .ok t =>
      setTree t
      return .ok ()
    | .error e => return .error e

/-- What `tee` may do when something cannot be written. -/
def faultModes : List (List String) := [["warn"], ["warn-nopipe"], ["exit"], ["exit-nopipe"]]

def tee (arguments : List Octets) : Run Nat :=
  withOptions "a,append i,ignore-interrupts output-error? p" arguments (fun o => do
    let mut fine := true
    let source ← readInput ['-']
    let s := match source with
      | .ok s => s
      | .error _ => ⟨[], [], 0⟩
    for file in o.operands do
      match ← fill file (o.has "a") s.content with
      | .ok () => pure ()
      | .error e =>
        complainAbout (quoteName file) e
        fine := false
    match ← write 1 s.content with
    | .ok () => pure ()
    | .error e =>
      complainAbout "'standard output'".toList e
      fine := false
    match source with
    | .ok _ => pure ()
    | .error e =>
      complainAbout "read error".toList e
      fine := false
    if !s.endless.isEmpty then writeEndless 1 s.endless
    return status fine)
    fun c => match c.key, c.value with
      | "output-error", some word =>
        if (wordOf? faultModes word).isSome then none
        else some (wrongWord word "--output-error" faultModes)
      | _, _ => none

def yes (arguments : List Octets) : Run Nat :=
  withOptions "" arguments (fun o => do
    let words := if o.operands.isEmpty then [['y']] else o.operands
    writeEndless 1 (List.intercalate [' '] words ++ ['\n'])
    return 0) (fun _ => none) true

/-! ## Parts -/

/-- Which part of a text is shown. -/
structure Part where
  /-- Whether it is counted in bytes, and not in lines. -/
  bytes : Bool := false
  count : Nat := 10
  /-- Whether the count says what is left out. -/
  opposite : Bool := false
  quiet : Option Bool := none
  zeros : Bool := false
  follows : Bool := false

namespace Part

/-- The lines of a text with their ends. -/
def chunks (p : Part) (text : Octets) : List Octets :=
  if p.zeros then
    let parts := Text.Chars.splitOn (· == Char.ofNat 0) text
    let ended := parts.dropLast.map (· ++ [Char.ofNat 0])
    match parts.getLast? with
    | some [] | none => ended
    | some rest => ended ++ [rest]
  else Text.Chars.splitInclusive text

/-- The first bytes or lines. -/
def start (p : Part) (text : Octets) : Octets :=
  if p.bytes then text.take (if p.opposite then text.length - p.count else p.count)
  else
    let lines := p.chunks text
    (lines.take (if p.opposite then lines.length - p.count else p.count)).flatten

/-- The last bytes or lines. -/
def ending (p : Part) (text : Octets) : Octets :=
  if p.bytes then text.drop (if p.opposite then p.count - 1 else text.length - p.count)
  else
    let lines := p.chunks text
    (lines.drop (if p.opposite then p.count - 1 else lines.length - p.count)).flatten

/-- The name of a file over its part. -/
def heading (p : Part) (first : Bool) (count : Nat) (file : Octets) : Octets :=
  if p.quiet.getD (count < 2) then []
  else (if first then [] else ['\n']) ++ "==> ".toList ++
    (if file == ['-'] then "standard input".toList else file) ++ " <==\n".toList

def counting (p : Part) : String := if p.bytes then "bytes" else "lines"

/-- Reads a count behind an option. -/
def check (c : Choice) : Option Refusal :=
  if c.key == "n" || c.key == "c" then
    let text := if c.text.head? == some '-' then c.text.tail else c.text
    (Amount.ofText true text).refusal?
      ("invalid number of " ++ if c.key == "c" then "bytes" else "lines") text
  else none

/-- Takes an option of those that both ends of a text have in common. -/
def choose (sign : Char) (p : Part) (c : Choice) : Part :=
  match c.key with
  | "n" | "c" => { p with
      bytes := c.key == "c"
      count := (Amount.ofText true (if c.text.head? == some '-' then c.text.tail else c.text)).get
      opposite := c.text.head? == some sign || (sign == '+' && p.opposite) }
  | "q" => { p with quiet := some true }
  | "v" => { p with quiet := some false }
  | "z" => { p with zeros := true }
  | "f" | "F" | "follow" => { p with follows := true }
  | _ => p

end Part

/-- Takes a letter behind a count that stands alone. The unit of the count comes second. -/
def countLetter (found : Part × Octets) (c : Char) : Except Char (Part × Octets) :=
  let (p, unit) := found
  match c with
  | 'c' => .ok ({ p with bytes := true }, [])
  | 'b' | 'k' | 'm' => .ok ({ p with bytes := true }, [c])
  | 'l' => .ok ({ p with bytes := false }, unit)
  | 'q' => .ok ({ p with quiet := some true }, unit)
  | 'v' => .ok ({ p with quiet := some false }, unit)
  | 'z' => .ok ({ p with zeros := true }, unit)
  | c => .error c

/-- A count that stands alone behind a dash as the first word, with letters after it. -/
def headCount? (word : Octets) : Option (Except Char (Part × Octets)) :=
  match word with
  | '-' :: d :: more =>
    if !d.isDigit then none
    else
      let digits := (d :: more).takeWhile Char.isDigit
      let letters := (d :: more).drop digits.length
      some ((letters.foldlM countLetter ({}, [])).map fun (p, unit) => (p, digits ++ unit))
  | _ => none

/-- Leaves to others what a program did not need of its standard input. A pipe is read in blocks. -/
def leaveUnread (s : Source) (used : Nat) : Run Unit := do
  match ← stream? 0 with
  | some (.file _) => setSource 0 { s with content := s.content.drop used }
  | _ => setSource 0 { s with content := s.content.drop ((used + 8191) / 8192 * 8192) }

/-- Shows the starts of files. -/
def putStarts (p : Part) (files : List Octets) : Run Nat := do
  let mut fine := true
  let mut first := true
  for file in files do
    let held ← if file == ['-'] then source 0 else readInput file
    match held with
    | .error e =>
      if e == .isADirectory || file == ['-'] then
        put (p.heading first files.length file)
        first := false
      complainOfReading file e
      fine := false
    | .ok s =>
      put (p.heading first files.length file)
      first := false
      let text ← if s.endless.isEmpty then pure s.content
        else if p.opposite then wholeOf s
        else pure (firstBytes s (if p.bytes then p.count else s.content.length + 4096 * (p.count + 1)))
      let shown := p.start text
      put shown
      if file == ['-'] then leaveUnread s shown.length
  return status fine

def head (arguments : List Octets) : Run Nat := do
  let run (start : Part) (arguments : List Octets) : Run Nat :=
    withOptions "c,bytes= n,lines= presume-input-pipe q,quiet,silent v,verbose z,zero-terminated
      0 1 2 3 4 5 6 7 8 9" arguments
      (fun o => putStarts (o.choices.foldl (Part.choose '-') start) (orInput o.operands))
      fun c =>
        if c.key.toList.all Char.isDigit then
          some ⟨("invalid trailing option -- " ++ c.key).toList, true, 1⟩
        else Part.check c
  match arguments.head?.bind headCount? with
  | none => run {} arguments
  | some (.error c) => refuseCall ⟨"invalid trailing option -- ".toList ++ [c], true, 1⟩
  | some (.ok (p, text)) =>
    let amount := Amount.ofText true text
    match amount.refusal? ("invalid number of " ++ p.counting) text with
    | some refusal => refuseCall refusal
    | none => run { p with count := amount.get } arguments.tail

/-- Shows the ends of files. -/
def putEnds (p : Part) (files : List Octets) : Run Nat := do
  let mut fine := true
  let mut first := true
  for file in files do
    match ← readWhole file with
    | .error e =>
      if e == .isADirectory then
        put (p.heading first files.length file)
        first := false
      if file == ['-'] then complainAbout "cannot fstat 'standard input'".toList e
      else complainOfReading file e
      fine := false
    | .ok text =>
      put (p.heading first files.length file)
      first := false
      put (p.ending text)
  if p.follows && files != [['-']] then
    if (← files.anyM fun file => return (← find file true).isOk) then
      sleepUntil ((← world).deadline + 1)
    complainOf "no files remaining".toList
  return status fine

/-- How files may be followed. -/
def followModes : List (List String) := [["descriptor"], ["name"]]

/-- A count that stands alone behind a sign, with a unit and a wish to go on waiting. -/
def tailCount? (arguments : List Octets) : Option (Part × Octets × List Octets) :=
  let isOption (word : Octets) : Bool := word.head? == some '-' && 1 < word.length
  match arguments with
  | [] => none
  | word :: rest =>
    let fits := match rest with
      | [] => true
      | [file] => !isOption file || file == "--".toList
      | [dashes, _] => dashes == "--".toList
      | _ => false
    match word with
    | sign :: text =>
      if !fits || (sign != '+' && sign != '-') then none
      else if sign == '-' && (text.isEmpty || text == ['c']) then none
      else
        let digits := text.takeWhile Char.isDigit
        let after := text.drop digits.length
        let (bytes, times, after) := match after with
          | 'b' :: after => (true, 512, after)
          | 'c' :: after => (true, 1, after)
          | 'l' :: after => (false, 1, after)
          | after => (false, 1, after)
        let (follows, after) := match after with
          | 'f' :: after => (true, after)
          | after => (false, after)
        if !after.isEmpty then none
        else some ({
          bytes, follows, opposite := sign == '+'
          count := ((Octets.digitsValue? digits).getD 10) * times }, word,
          rest.filter (· != "--".toList))
    | [] => none

def checkTailOption (c : Choice) : Option Refusal :=
  let number (what : String) : Option Refusal :=
    if (Octets.digitsValue? c.text).isSome then none
    else some ⟨("invalid " ++ what ++ ": ").toList ++ quote c.text, false, 1⟩
  match c.key with
  | "pid" => number "PID"
  | "max-unchanged-stats" => number "maximum number of unchanged stats between opens"
  | "s" =>
    if (duration? c.text).isSome && !(c.text.getLast?.any (['s', 'm', 'h', 'd'].contains ·)) then none
    else some ⟨"invalid number of seconds: ".toList ++ quote c.text, false, 1⟩
  | "follow" =>
    match c.value with
    | none => none
    | some word =>
      if (wordOf? followModes word).isSome then none
      else some (wrongWord word "--follow" followModes)
  | key =>
    if key.toList.all Char.isDigit then
      some ⟨("option used in invalid context -- " ++ key).toList, false, 1⟩
    else Part.check c

def tail (arguments : List Octets) : Run Nat := do
  match tailCount? arguments with
  | some (p, _, files) => putEnds p (orInput files)
  | none =>
    withOptions "c,bytes= f F follow? n,lines= max-unchanged-stats= pid= q,quiet,silent retry
      s,sleep-interval= v,verbose z,zero-terminated 0 1 2 3 4 5 6 7 8 9" arguments (fun o => do
        let p := o.choices.foldl (Part.choose '+') {}
        let ignored (what : String) : Octets :=
          ("warning: " ++ what ++ " is useful only when following").toList
        if o.has "retry" && !p.follows then complainOf (ignored "--retry ignored; --retry")
        if o.has "pid" && !p.follows then complainOf (ignored "PID ignored; --pid=PID")
        putEnds p (orInput o.operands)) checkTailOption

/-! ## Backwards -/

/-- The records of a text from the last to the first. Each ends in the separator, which is looked for
from the end of the text on. The text and the separator are turned around. -/
def recordsEnding (separator current : Octets) (skip : Nat) : Octets → List Octets
  | [] => [current]
  | c :: rest =>
    if skip == 0 && separator.isPrefixOf (c :: rest) then
      current :: recordsEnding separator [c] (separator.length - 1) rest
    else recordsEnding separator (c :: current) (skip - 1) rest

/-- The records of a text from the last to the first. Each begins with the separator. -/
def recordsBeginning (separator current : Octets) (skip : Nat) : Octets → List Octets
  | [] => [current]
  | c :: rest =>
    let starts := skip == 0 && separator.isPrefixOf (c :: rest)
    let left := if starts then separator.length - 1 else skip - 1
    if (starts || skip != 0) && left == 0 then
      (c :: current) :: recordsBeginning separator [] 0 rest
    else recordsBeginning separator (c :: current) left rest

/-- The records of a text up to a place, from the last to the first. The separator is an expression,
which is looked for from another place down. The fuel bounds the number of records. -/
def recordsByRegex (before : Bool) (regex : Regex Probe) (text : Octets) :
    Nat → (below stop : Nat) → List Octets
  | 0, _, stop => [text.take stop]
  | fuel + 1, below, stop =>
    let placed := Placed.of false true regex (text.take below)
    match (List.range below).reverse.find? fun i => placed.endsFrom i != 0 with
    | none => [text.take stop]
    | some i =>
      let place := if before then i else Nat.log2 (placed.endsFrom i)
      (text.take stop).drop place :: recordsByRegex before regex text fuel i place

def tac (arguments : List Octets) : Run Nat :=
  withOptions "b,before r,regex s,separator=" arguments fun o => do
    let separator := (o.value? "s").getD ['\n']
    if o.has "r" && separator.isEmpty then
      complainOf "separator cannot be empty".toList
      return 1
    let separator := if separator.isEmpty then [Char.ofNat 0] else separator
    let byRegex : Except Regex.Fault (Option (Regex Probe)) :=
      if o.has "r" then (Regex.read ⟨false, false, false⟩ separator).map fun e => some e.regex else .ok none
    match byRegex with
    | .error fault =>
      complainOf fault.message.toList
      return 1
    | .ok regex =>
      let records (text : Octets) : List Octets :=
        match regex with
        | some regex => recordsByRegex (o.has "b") regex text (text.length + 1) text.length text.length
        | none =>
          if o.has "b" then recordsBeginning separator.reverse [] 0 text.reverse
          else recordsEnding separator.reverse [] 0 text.reverse
      let mut shown : List Octets := []
      let mut fine := true
      for file in orInput o.operands do
        match ← readWhole file with
        | .ok text => shown := (records text).flatten :: shown
        | .error e =>
          fine := false
          match e with
          | .isADirectory => complainAbout (quoteName file ++ ": read error".toList) .invalidArgument
          | e =>
            if file == ['-'] then complainAbout "'standard input': read error".toList e
            else complainAbout ("failed to open ".toList ++ quoteAlways file ++
              " for reading".toList) e
      put shown.reverse.flatten
      return status fine

/-- Turns every line around. -/
def rev (arguments : List Octets) : Run Nat :=
  withOptions "0,zero h,help V,version" arguments fun o => do
    let zeros := o.has "0"
    let turned (text : Octets) : Octets :=
      List.intercalate [lineEnd zeros] ((linesOf zeros text).map List.reverse) ++
        if text.getLast? == some (lineEnd zeros) then [lineEnd zeros] else []
    let mut shown : List Octets := []
    let mut fine := true
    for file in orInput o.operands do
      match ← readWhole file with
      | .ok text => shown := turned text :: shown
      | .error e =>
        fine := false
        complainAbout (if e == .isADirectory then file else "cannot open ".toList ++ file) e
    put shown.reverse.flatten
    return status fine

end NotebookKernel.Shell.Tool
