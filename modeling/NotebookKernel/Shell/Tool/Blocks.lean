import NotebookKernel.Shell.Tool.Flow

/-! # Copying in blocks

`dd` copies a part of a file in blocks of a size and may convert it on the way. `split` cuts a file into
several ones. -/

namespace NotebookKernel.Shell.Tool

open Run

/-! ## Block copies -/

/-- How far to go, in blocks or in bytes. -/
structure Reach where
  count : Nat
  inBytes : Bool := false

def Reach.bytes (r : Reach) (size : Nat) : Nat := if r.inBytes then r.count else r.count * size

structure BlockCopy where
  input : Option Octets := none
  output : Option Octets := none
  readSize : Nat := 512
  writeSize : Nat := 512
  /-- Whether blocks are written as they were read. -/
  isDirect : Bool := false
  lineSize : Nat := 0
  count : Option Reach := none
  skip : Reach := ⟨0, false⟩
  seek : Reach := ⟨0, false⟩
  conversions : List String := []
  inputFlags : List String := []
  outputFlags : List String := []
  status : String := ""

/-- Reads a number, which may have a unit and may be a product. A `B` at its end makes it one of
bytes. -/
def reachOf? (text : Octets) : Option Reach :=
  let factor? (text : Octets) : Option Reach :=
    let digits := text.takeWhile Char.isDigit
    let unit := text.drop digits.length
    (Octets.digitsValue? digits).bind fun n =>
      match unit with
      | ['c'] => some ⟨n, false⟩
      | ['w'] => some ⟨2 * n, false⟩
      | ['B'] => some ⟨n, true⟩
      | unit => (unitOf? unit).map fun times => ⟨n * times, false⟩
  ((Text.Chars.splitOn (· == 'x') text).mapM factor?).map fun factors =>
    ⟨(factors.map (·.count)).foldl (· * ·) 1, factors.any (·.inBytes)⟩

def blockConversions : List String := ["ascii", "ebcdic", "ibm", "block", "unblock", "lcase", "ucase",
  "sparse", "swab", "noerror", "nocreat", "excl", "notrunc", "sync", "fdatasync", "fsync"]

def blockFlags : List String := ["append", "binary", "cio", "direct", "directory", "dsync", "noatime",
  "nocache", "noctty", "nofollow", "nolinks", "nonblock", "sync", "text", "fullblock", "count_bytes",
  "skip_bytes", "seek_bytes"]

/-- Takes an operand up. -/
def BlockCopy.operand (b : BlockCopy) (text : Octets) : Except Refusal BlockCopy :=
  let (name, value) := (Text.Chars.splitOnce? '=' text).getD (text, [])
  let number (least : Nat) : Except Refusal Reach :=
    match reachOf? value with
    | some r =>
      if maxWord < r.count then
        .error ⟨"invalid number: ".toList ++ quote value ++
          ": Value too large for defined data type".toList, false, 1⟩
      else if r.count < least then .error ⟨"invalid number: ".toList ++ quote value, false, 1⟩
      else .ok r
    | none => .error ⟨"invalid number: ".toList ++ quote value, false, 1⟩
  let words (known : List String) (what : String) : Except Refusal (List String) :=
    (Text.Chars.splitOn (· == ',') value).mapM fun word =>
      if known.any (·.toList == word) then .ok (String.ofList word)
      else .error ⟨("invalid " ++ what ++ ": ").toList ++ quote word, true, 1⟩
  if !text.contains '=' then .error ⟨"unrecognized operand ".toList ++ quote text, true, 1⟩
  else match String.ofList name with
    | "if" => .ok { b with input := some value }
    | "of" => .ok { b with output := some value }
    | "ibs" => (number 1).map fun r => { b with readSize := r.count }
    | "obs" => (number 1).map fun r => { b with writeSize := r.count }
    | "bs" => (number 1).map fun r =>
        { b with readSize := r.count, writeSize := r.count, isDirect := true }
    | "cbs" => (number 1).map fun r => { b with lineSize := r.count }
    | "count" => (number 0).map fun r => { b with count := some r }
    | "skip" | "iseek" => (number 0).map fun r => { b with skip := r }
    | "seek" | "oseek" => (number 0).map fun r => { b with seek := r }
    | "conv" => (words blockConversions "conversion").map fun w =>
        { b with conversions := b.conversions ++ w }
    | "iflag" => (words blockFlags "input flag").map fun w =>
        { b with inputFlags := b.inputFlags ++ w }
    | "oflag" => (words blockFlags "output flag").map fun w =>
        { b with outputFlags := b.outputFlags ++ w }
    | "status" => (words ["none", "noxfer", "progress"] "status level").map fun w =>
        { b with status := w.headD "" }
    | _ => .error ⟨"unrecognized operand ".toList ++ quote text, true, 1⟩

namespace BlockCopy

def converts (b : BlockCopy) (name : String) : Bool := b.conversions.contains name

/-- Changes the bytes of two neighbours over and over. -/
def swapped : Octets → Octets
  | a :: b :: rest => b :: a :: swapped rest
  | rest => rest

/-- Lines as records of one length, and how many of them were cut. -/
def toRecords (size : Nat) (text : Octets) : Octets × Nat :=
  let lines := Octets.lines text
  (lines.flatMap fun line => padRight size (line.take size), lines.countP (size < ·.length))

/-- Records of one length as lines, without the blanks at their ends. -/
def fromRecords (size : Nat) (text : Octets) : Octets :=
  (pieces size text).flatMap fun record => (record.reverse.dropWhile (· == ' ')).reverse ++ ['\n']

/-- What becomes of the bytes that were read, and how many lines were cut. -/
def converted (b : BlockCopy) (text : Octets) : Octets × Nat :=
  let isRecords := b.converts "block" || b.converts "unblock"
  let missing := (b.readSize - text.length % b.readSize) % b.readSize
  let text := if b.converts "sync" then
      text ++ List.replicate missing (if isRecords then ' ' else Char.ofNat 0)
    else text
  let text := if b.converts "ucase" then text.map Char.toUpper
    else if b.converts "lcase" then text.map Char.toLower
    else text
  let text := if b.converts "swab" then swapped text else text
  if b.lineSize == 0 then (text, 0)
  else if b.converts "block" then toRecords b.lineSize text
  else if b.converts "unblock" then (fromRecords b.lineSize text, 0)
  else (text, 0)

/-- What a file holds after text was written to it from some place on. -/
def overlaid (old : Octets) (start : Nat) (text : Octets) : Octets :=
  let before := old.take start
  before ++ List.replicate (start - before.length) (Char.ofNat 0) ++ text ++
    old.drop (start + text.length)

/-- Says why an output cannot be opened, if it cannot. -/
def openFault? (b : BlockCopy) (file : Octets) : Run (Option OsError) := do
  let found ← find file true
  return if b.converts "excl" && found.isOk then some .alreadyExists
    else if b.converts "nocreat" then (match found with
      | .error why => some why
      | .ok _ => none)
    else none

/-- Tells how many blocks were copied. -/
def putCounts (b : BlockCopy) (read written : Nat × Nat) (cut bytes : Nat) : Run Unit := do
  if b.status == "none" then return ()
  let line (n : Nat × Nat) (end_ : String) : Run Unit :=
    complain (Octets.ofNat n.1 ++ '+' :: Octets.ofNat n.2 ++ end_.toList)
  line read " records in"
  line written " records out"
  if cut != 0 then
    complain (Octets.ofNat cut ++ (if cut == 1 then " truncated record" else " truncated records").toList)
  if b.status != "noxfer" then
    let unit := if bytes == 1 then " byte" else " bytes"
    complain (Octets.ofNat bytes ++ (unit ++ " copied, 0.0001 s, 0.0 kB/s").toList)

/-- Copies. -/
def run (b : BlockCopy) : Run Nat := do
  let inputName := b.input.getD "standard input".toList
  let outputName := quoteAlways (b.output.getD "standard output".toList)
  let refuse (what : String) (name : Octets) (why : OsError) : Run Nat := do
    complainOf (what.toList ++ ' ' :: name ++ ": ".toList ++ reason why)
    return 1
  let isDirectory : Bool ← match b.input with
    | some file => do
      match ← find file true with
      | .ok (_, .directory ..) => pure true
      | _ => pure false
    | none => pure false
  if let some file := b.input then
    if !isDirectory then
      if let .error why ← readInput file then return ← refuse "failed to open" (quoteAlways file) why
  let seek := b.seek.bytes (if b.outputFlags.contains "seek_bytes" then 1 else b.writeSize)
  -- What the output holds when the copy begins.
  let old : Octets ← match b.output with
    | none => pure []
    | some file => do
      if let some why ← b.openFault? file then
        return ← refuse "failed to open" outputName why
      let held : Octets ← match ← find file true with
        | .ok (_, .file bytes _) => pure (Octets.ofBytes bytes)
        | _ => pure []
      let kept := if b.converts "notrunc" then held else overlaid (held.take seek) seek []
      match ← fill file false kept with
      | .ok () => pure kept
      | .error .noSpace => pure kept
      | .error why => return ← refuse "failed to open" outputName why
  if isDirectory then
    complainOf ("error reading ".toList ++ quoteAlways inputName ++ ": Is a directory".toList)
    b.putCounts (0, 0) (0, 0) 0 0
    return 1
  let held ← match b.input with
    | some file => readInput file
    | none => source 0
  match held with
  | .error why => refuse "error reading" (quoteAlways inputName) why
  | .ok s =>
    let isPipe : Bool ← match b.input, ← stream? 0 with
      | none, some (.file _) => pure false
      | none, _ => pure true
      | some _, _ => pure false
    let skip := b.skip.bytes (if b.inputFlags.contains "skip_bytes" then 1 else b.readSize)
    let reach := if isPipe && !b.skip.inBytes then
        (s.content.length + b.readSize - 1) / b.readSize * b.readSize
      else s.content.length
    if s.endless.isEmpty && reach < skip && b.status != "none" then
      complainOf (quoteName inputName ++ ": cannot skip to specified offset".toList)
    let limit := b.count.map fun r =>
      r.bytes (if b.inputFlags.contains "count_bytes" then 1 else b.readSize)
    let rest : Source := { s with content := (firstBytes s (max skip s.content.length)).drop skip }
    let text ← match limit with
      | some limit => pure (firstBytes rest limit)
      | none => wholeOf rest
    if b.input.isNone then setSource 0 { s with content := rest.content.drop text.length }
    let (out, cut) := b.converted text
    let read := (text.length / b.readSize, min 1 (text.length % b.readSize))
    let written := if b.isDirect && b.lineSize == 0 then
        (if b.converts "sync" then (read.1 + read.2, 0) else read)
      else (out.length / b.writeSize, min 1 (out.length % b.writeSize))
    let done : Except OsError Unit ← match b.output with
      | none => write 1 out
      | some file =>
        let start := if b.outputFlags.contains "append" then old.length else seek
        if out.isEmpty then pure (.ok ()) else fill file false (overlaid old start out)
    match done with
    | .ok () =>
      b.putCounts read written cut out.length
      return 0
    | .error why =>
      let _ ← refuse "error writing" outputName why
      b.putCounts (min 1 read.1, if read.1 == 0 then read.2 else 0) (0, 0) cut 0
      return 1

end BlockCopy

def dd (arguments : List Octets) : Run Nat :=
  withOptions "" arguments fun c => do
    match c.operands.foldlM BlockCopy.operand {} with
    | .error refusal => refuseCall refusal
    | .ok b =>
      let clashes (names : List String) : Bool := 1 < names.countP b.converts
      let clash? : Option String :=
        if clashes ["ascii", "ebcdic", "ibm"] then
          some "cannot combine any two of \x7bascii,ebcdic,ibm\x7d"
        else if clashes ["block", "unblock"] then some "cannot combine block and unblock"
        else if clashes ["lcase", "ucase"] then some "cannot combine lcase and ucase"
        else if clashes ["excl", "nocreat"] then some "cannot combine excl and nocreat"
        else none
      match clash? with
      | some text => refuseCall ⟨text.toList, false, 1⟩
      | none => b.run

/-! ## Pieces in files -/

/-- How a text is cut. -/
inductive Cut where
  | lines (count : Nat)
  | bytes (count : Nat)
  /-- As many whole lines as there is room for. -/
  | lineBytes (count : Nat)
  | parts (count : Nat)
  | lineParts (count : Nat)
  /-- Each line goes to the next part, and after the last to the first. -/
  | dealtParts (count : Nat)

/-- Lines, each of which ends in a byte. -/
def endedBy (mark : Char) (text : Octets) : List Octets :=
  match text with
  | [] => []
  | c :: rest =>
    if c == mark then [c] :: endedBy mark rest
    else match endedBy mark rest with
      | [] => [[c]]
      | line :: lines => (c :: line) :: lines

/-- Puts lines together as long as there is room. A line that is too long is cut. -/
def fillUp (size : Nat) (room : Nat) (part : Octets) : List Octets → List Octets
  | [] => if part.isEmpty then [] else [part]
  | line :: lines =>
    if line.length ≤ room then fillUp size (room - line.length) (part ++ line) lines
    else
      let done := if part.isEmpty then [] else [part]
      let whole := pieces size line
      let last := whole.getLast?.getD []
      done ++ whole.dropLast ++ fillUp size (size - last.length) last lines

/-- The pieces of a text. -/
def Cut.pieces (c : Cut) (mark : Char) (text : Octets) : List Octets :=
  let lines := endedBy mark text
  match c with
  | .lines n => (Tool.pieces n lines).map List.flatten
  | .bytes n => Tool.pieces n text
  | .lineBytes n => fillUp n n [] lines
  | .parts n =>
    let size := max 1 (text.length / n)
    (List.range n).map fun i =>
      let rest := text.drop (i * size)
      if i + 1 == n then rest else rest.take size
  | .lineParts n =>
    let size := max 1 (text.length / n)
    let starts := (lines.foldl (fun (found, start) line =>
      ((min (n - 1) (start / size), line) :: found, start + line.length)) ([], 0)).1.reverse
    (List.range n).map fun i => (starts.filter (·.1 == i)).flatMap (·.2)
  | .dealtParts n =>
    (List.range n).map fun i => (lines.zipIdx.filter (·.2 % n == i)).flatMap (·.1)

/-- The names of pieces. -/
structure PieceNames where
  start : Octets
  ending : Octets
  digits : Octets
  length : Nat
  /-- Whether names become longer as there are more of them. -/
  grows : Bool
  first : Nat

/-- The digits of a number, in a base, up to a length. -/
def PieceNames.suffix (p : PieceNames) (length n : Nat) : Octets :=
  (List.range length).reverse.map fun place =>
    p.digits.getD (n / Nat.pow p.digits.length place % p.digits.length) '?'

/-- The name of a piece, unless there are no more names. Where names grow, the last digit comes only in
front of longer ones. -/
def PieceNames.name? (p : PieceNames) (n : Nat) : Option Octets :=
  let base := p.digits.length
  let rec grown (fuel length n : Nat) (before : Octets) : Octets :=
    match fuel with
    | 0 => before
    | fuel + 1 =>
      let count := (base - 1) * Nat.pow base (length - 1)
      if n < count then before ++ p.suffix length n
      else grown fuel length.succ (n - count) (before ++ [p.digits.getLast?.getD '?'])
  let n := n + p.first
  if p.grows then some (p.start ++ grown 64 p.length n [] ++ p.ending)
  else if n < Nat.pow base p.length then some (p.start ++ p.suffix p.length n ++ p.ending)
  else none

/-- What the letter of an option cuts, as it is called in a complaint. -/
def cutKinds : List (String × String) :=
  [("l", "lines"), ("b", "bytes"), ("C", "lines"), ("n", "chunks")]

/-- Reads how to cut, and which of the parts is wanted if it is only one. -/
def readCut (key : String) (text : Octets) : Except Refusal (Cut × Option Nat) :=
  let what := (cutKinds.lookup key).getD "lines"
  let refuse (text : Octets) : Except Refusal (Cut × Option Nat) :=
    .error ⟨("invalid number of " ++ what ++ ": ").toList ++ quote text, false, 1⟩
  let number (text : Octets) (next : Nat → Except Refusal (Cut × Option Nat)) :
      Except Refusal (Cut × Option Nat) :=
    match Amount.ofText true text with
    | .value 0 => refuse text
    | .value n => next n
    | .tooLarge => next maxWord
    | _ => refuse text
  match key with
  | "l" => number text fun n => .ok (.lines n, none)
  | "b" => number text fun n => .ok (.bytes n, none)
  | "C" => number text fun n => .ok (.lineBytes n, none)
  | _ =>
    let (make, body) : (Nat → Cut) × Octets := match text with
      | 'l' :: '/' :: rest => (.lineParts, rest)
      | 'r' :: '/' :: rest => (.dealtParts, rest)
      | rest => (.parts, rest)
    match Text.Chars.splitOnce? '/' body with
    | none => number body fun n => .ok (make n, none)
    | some (k, n) => number n fun n =>
        match Amount.ofText true k with
        | .value k =>
          if k == 0 || n < k then .error ⟨"invalid chunk number: ".toList ++ quote body, false, 1⟩
          else .ok (make n, some (k - 1))
        | _ => .error ⟨"invalid chunk number: ".toList ++ quote body, false, 1⟩

/-- Takes numbers that stand for a count of lines by themselves. -/
def withLineCounts (arguments : List Octets) : List Octets :=
  arguments.map fun word => match word with
    | '-' :: c :: rest => if c.isDigit then '-' :: 'l' :: c :: rest else word
    | word => word

def split (arguments : List Octets) : Run Nat :=
  withOptions "a,suffix-length= additional-suffix= b,bytes= C,line-bytes= d e,elide-empty-files
      x l,lines= n,number= t,separator= u,unbuffered verbose numeric-suffixes? hex-suffixes?"
    (withLineCounts arguments) fun c => do
  let cuts := c.choices.filter fun choice => cutKinds.any (·.1 == choice.key)
  let suffixLength := (c.value? "a").map (Amount.ofText true)
  if let some (some refusal) := (c.value? "a").map fun text =>
      (Amount.ofText true text).refusal? "invalid suffix length" text then
    return ← refuseCall refusal
  if 1 < cuts.length then
    return ← refuseCall ⟨"cannot split in more than one way".toList, true, 1⟩
  let cut? := match cuts with
    | choice :: _ => readCut choice.key choice.text
    | [] => .ok (.lines 1000, none)
  match cut?, c.operands with
  | .error refusal, _ => refuseCall refusal
  | .ok _, _ :: _ :: extra :: _ => extraOperand extra
  | .ok (cut, wanted), operands =>
    let file := operands.headD ['-']
    let style := c.last? ["d", "x", "numeric-suffixes", "hex-suffixes"]
    let digits := match style.map (·.key) with
      | some "d" | some "numeric-suffixes" => "0123456789".toList
      | some _ => "0123456789abcdef".toList
      | none => "abcdefghijklmnopqrstuvwxyz".toList
    let first := (style.bind (·.value)).bind Octets.digitsValue?
    let given := (suffixLength.map (·.get)).getD 0
    let count := match cut with
      | .parts n | .lineParts n | .dealtParts n => some n
      | _ => none
    let needed := match count with
      | some n => (Nat.toDigits digits.length (n - 1)).length
      | none => 2
    let names : PieceNames := {
      start := operands.getD 1 ['x'], ending := (c.value? "additional-suffix").getD [], digits
      length := if given == 0 then max 2 needed else given
      grows := given == 0 && count.isNone && first.isNone
      first := first.getD 0 }
    let mark := match c.value? "t" with
      | some ['\\', '0'] => Char.ofNat 0
      | some (c :: _) => c
      | _ => '\n'
    match ← readWhole file with
    | .error why =>
      if why == .isADirectory then complainAbout (quoteName file) why
      else complainOf ("cannot open ".toList ++ quoteAlways file ++ " for reading: ".toList ++ reason why)
      return 1
    | .ok text =>
      let parts := cut.pieces mark text
      match wanted with
      | some k =>
        put (parts.getD k [])
        return 0
      | none =>
        let parts := if c.has "e" then parts.filter fun part => !part.isEmpty else parts
        for (part, n) in parts.zipIdx do
          match names.name? n with
          | none =>
            complainOf "output file suffixes exhausted".toList
            return 1
          | some name =>
            if c.has "verbose" then putLine ("creating file ".toList ++ quoteAlways name)
            match ← fill name false part with
            | .ok () => pure ()
            | .error why =>
              complainAbout (quoteName name) why
              return 1
        return 0

end NotebookKernel.Shell.Tool
