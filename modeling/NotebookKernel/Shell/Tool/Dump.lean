import NotebookKernel.Number.FloatText
import NotebookKernel.Shell.Printing
import NotebookKernel.Shell.Tool.Basic

/-! # Files in numbers

`od` shows the bytes of its input in blocks, each behind the place where it begins. A block is shown
once for every type of field: as numbers of some size or as names of characters. -/

namespace NotebookKernel.Shell.Tool

open Run

/-- What the bytes of a field are taken for. -/
inductive FieldKind where
  | signed
  | unsigned
  | octal
  | hex
  | floating
  | named
  | character

/-- A type of fields. -/
structure Field where
  kind : FieldKind
  /-- The size of a field in bytes. -/
  size : Nat
  /-- Whether a block has its characters behind it. -/
  trailed : Bool := false

namespace Field

/-- The number of digits of the greatest number that has so many bytes. -/
def digitsOf (base size : Nat) : Nat := (Nat.toDigits base (Nat.pow 256 size - 1)).length

def width (f : Field) : Nat :=
  match f.kind with
  | .signed => digitsOf 10 f.size - (if f.size == 8 then 1 else 0) + 1
  | .unsigned => digitsOf 10 f.size
  | .octal => digitsOf 8 f.size
  | .hex => 2 * f.size
  | .floating => if f.size == 4 then 15 else if f.size == 8 then 24 else 29
  | .named | .character => 3

def characterNames : List String :=
  ["nul", "soh", "stx", "etx", "eot", "enq", "ack", "bel", "bs", "ht", "nl", "vt", "ff", "cr",
    "so", "si", "dle", "dc1", "dc2", "dc3", "dc4", "nak", "syn", "etb", "can", "em", "sub", "esc",
    "fs", "gs", "rs", "us", "sp"]

/-- The name of a character, of which the highest bit is left out. -/
def nameOf (c : Char) : Octets :=
  let n := c.toNat % 128
  if n == 127 then "del".toList
  else match characterNames[n]? with
    | some name => name.toList
    | none => [Char.ofNat n]

/-- A character, or what stands for it behind a backslash, or its number. -/
def characterText (c : Char) : Octets :=
  if c == Char.ofNat 0 then ['\\', '0']
  else if isPrintable c then [c]
  else match controlLetter? c with
    | some letter => ['\\', letter]
    | none => octal c

/-- The format of numbers of a size, and how many digits of a decimal it always keeps. -/
def formatOf (size : Nat) : FloatFormat × Nat :=
  if size == 4 then ({ precision := 24, least := -149, bound := 128 }, 6)
  else if size == 8 then (.double, 15) else (.extended, 18)

/-- The number with so many bits for the exponent and the mantissa. -/
def floatingOf (size n : Nat) : Floating :=
  let (format, _) := formatOf size
  let kept := format.precision - 1
  let wide := size == 16
  let exponentBits := if size == 4 then 8 else if size == 8 then 11 else 15
  -- The widest format shows the first bit of a mantissa, which the others leave out.
  let stored := if wide then kept + 1 else kept
  let mantissa := n % Nat.pow 2 stored
  let exponent := n / Nat.pow 2 stored % Nat.pow 2 exponentBits
  let negative := (n / Nat.pow 2 (stored + exponentBits)) % 2 == 1
  if exponent == Nat.pow 2 exponentBits - 1 then
    if mantissa % Nat.pow 2 kept == 0 then .infinite negative else .undefined negative
  else if exponent == 0 then .finite negative mantissa format.least
  else if wide && mantissa < Nat.pow 2 kept then .undefined negative
  else .finite negative (if wide then mantissa else mantissa + Nat.pow 2 kept)
    (format.least + exponent - 1)

/-- A number with as few digits as tell it from all others of its format. -/
def floatingText (size n : Nat) : Octets :=
  let (format, safe) := formatOf size
  let x := floatingOf size n
  let text (digits : Nat) : Octets := x.text format 'g' { precision := some digits }
  let tells (digits : Nat) : Bool := match Floating.read? (text digits) with
    | some (written, _) =>
      let back := (written.toFloating format).1
      back.eq x || back.negate.eq x
    | none => false
  let least : Nat := match x with
    | .finite _ m _ => if m < Nat.pow 2 (format.precision - 1) then 1 else safe
    | _ => safe
  let enough := (List.range (safe + 4 - least)).find? fun i => tells (least + i)
  (if x.isNegative then ['-'] else []) ++ text (least + enough.getD 0)

/-- The number that bytes stand for, of which the lowest comes first. -/
def valueOf (bytes : Octets) : Nat := bytes.reverse.foldl (fun n c => 256 * n + c.toNat) 0

/-- A number in at least so many digits. -/
def digits (base width n : Nat) : Octets :=
  let shown := Nat.toDigits base n
  List.replicate (width - shown.length) '0' ++ shown

def text (f : Field) (bytes : Octets) : Octets :=
  let n := valueOf bytes
  match f.kind with
  | .signed => Octets.ofInt (if n < Nat.pow 2 (8 * f.size - 1) then n else n - Nat.pow 256 f.size)
  | .unsigned => Octets.ofNat n
  | .octal => digits 8 f.width n
  | .hex => digits 16 f.width n
  | .floating => floatingText f.size n
  | .named => nameOf (bytes.headD ' ')
  | .character => characterText (bytes.headD ' ')

end Field

/-! ## Types -/

/-- Reads the size of a number behind its letter. -/
def fieldSize (floats : Bool) (whole text : Octets) : Except Octets (Nat × Octets) :=
  let words := if floats then [('F', 4), ('D', 8), ('L', 16)]
    else [('C', 1), ('S', 2), ('I', 4), ('L', 8)]
  let sizes := if floats then [4, 8, 16] else [1, 2, 4, 8]
  match text.head?.bind fun c => words.lookup c with
  | some size => .ok (size, text.tail)
  | none =>
    let digits := text.takeWhile Char.isDigit
    match Octets.digitsValue? digits with
    | none => .ok (if floats then 8 else 4, text)
    | some size =>
      let wrong : Octets := "invalid type string ".toList ++ quote whole
      if maxWord < size then .error wrong
      else if sizes.contains size then .ok (size, text.drop digits.length)
      else .error (wrong ++ ";\nthis system doesn't provide a ".toList ++ Octets.ofNat size ++
        (if floats then "-byte floating point type" else "-byte integral type").toList)

/-- Reads the types of fields that a text lists. -/
def fieldsOf (whole : Octets) : Nat → Octets → Except Octets (List Field)
  | 0, _ | _, [] => .ok []
  | fuel + 1, c :: rest => do
    let kind : FieldKind ← match c with
      | 'd' => pure .signed
      | 'u' => pure .unsigned
      | 'o' => pure .octal
      | 'x' => pure .hex
      | 'f' => pure .floating
      | 'a' => pure .named
      | 'c' => pure .character
      | c => throw ("invalid character '".toList ++ c :: "' in type string ".toList ++ quote whole)
    let (size, rest) ← if c == 'a' || c == 'c' then pure (1, rest)
      else fieldSize (c == 'f') whole rest
    let trailed := rest.head? == some 'z'
    let more ← fieldsOf whole fuel (if trailed then rest.tail else rest)
    return { kind, size, trailed } :: more

/-- The types that letters of their own stand for. -/
def fieldLetters : List (String × String) :=
  [("a", "a"), ("b", "o1"), ("c", "c"), ("d", "u2"), ("D", "u4"), ("e", "fD"), ("f", "fF"),
    ("F", "fD"), ("h", "x2"), ("H", "x4"), ("i", "dI"), ("I", "dL"), ("l", "dL"), ("L", "dL"),
    ("o", "o2"), ("B", "o2"), ("O", "o4"), ("s", "d2"), ("x", "x2"), ("X", "x4")]

/-! ## Blocks -/

/-- How a file is shown. -/
structure Dump where
  fields : List Field
  /-- The base of addresses, if there are any. -/
  radix : Option Nat
  width : Nat
  /-- Whether blocks that are equal to the one before are left out. -/
  skipsEqual : Bool
  /-- Whether the highest byte of a number comes first. -/
  highFirst : Bool

namespace Dump

def address (d : Dump) (place : Nat) : Octets :=
  match d.radix with
  | some base => Field.digits base (if base == 16 then 6 else 7) place
  | none => []

/-- The blanks in front of the fields of a block, which reach to the end of the longest line. -/
def padding (d : Dump) (f : Field) : Nat :=
  let count (f : Field) : Nat := d.width / f.size
  let longest := (d.fields.map fun f => (f.width + 1) * count f).foldl max 0
  longest - f.width * count f

/-- The fields of one type in a block. -/
def line (d : Dump) (f : Field) (block : Octets) : Octets :=
  let count := d.width / f.size
  let missing := (d.width - block.length) / f.size
  let padding := d.padding f
  let filled := block ++ List.replicate (d.width - block.length) (Char.ofNat 0)
  let shown := ((pieces f.size filled).take (count - missing)).zipIdx.flatMap fun (bytes, i) =>
    let before := padding * (count - i) / count
    let after := padding * (count - i - 1) / count
    padLeft (before - after + f.width) (f.text (if d.highFirst then bytes.reverse else bytes))
  let trailer := if !f.trailed then []
    else List.replicate (missing * f.width + padding * missing / count) ' ' ++ "  >".toList ++
      block.map (fun c => if isPrintable c then c else '.') ++ ['<']
  shown ++ trailer

def block (d : Dump) (place : Nat) (block : Octets) : Octets :=
  let start := d.address place
  Octets.ofLines (d.fields.zipIdx.map fun (f, i) =>
    (if i == 0 then start else List.replicate start.length ' ') ++ d.line f block)

/-- Shows blocks, with the one before and whether that was left out. -/
def blocks (d : Dump) (place : Nat) (last : Option Octets) (starred : Bool) :
    List Octets → Octets
  | [] => []
  | block :: rest =>
    let next := place + block.length
    if d.skipsEqual && last == some block && block.length == d.width then
      (if starred then [] else "*\n".toList) ++ d.blocks next last true rest
    else d.block place block ++ d.blocks next (some block) false rest

def text (d : Dump) (place : Nat) (content : Octets) : Octets :=
  let last := d.address (place + content.length)
  d.blocks place none false (pieces d.width content) ++
    if last.isEmpty then [] else last ++ ['\n']

/-- The texts in a file that are long enough and end in a zero. -/
def strings (d : Dump) (least place : Nat) (current : Octets) : Octets → Octets
  | [] => []
  | c :: rest =>
    if isPrintable c then d.strings least (place + 1) (c :: current) rest
    else
      let found := current.reverse
      let start := d.address (place - found.length)
      (if c == Char.ofNat 0 && least ≤ found.length then
        start ++ (if start.isEmpty then [] else [' ']) ++ found ++ ['\n'] else []) ++
        d.strings least (place + 1) [] rest

end Dump

/-! ## Input -/

/-- Reads a number that may be in base 8 or 16 and may have a unit behind it. -/
def basedAmount (text : Octets) : Amount :=
  let text := text.dropWhile isSpace
  let text := if text.head? == some '+' then text.tail else text
  match text with
  | '0' :: x :: digits =>
    if x == 'x' || x == 'X' then
      let hex := Floating.digitsIn 16 digits
      if hex.isEmpty then .invalid
      else match unitOf? (digits.drop hex.length) with
        | some times => .value (Floating.valueIn 16 hex * times)
        | none => .invalid
    else
      let octal := text.takeWhile Escape.isOctal
      match unitOf? (text.drop octal.length) with
      | some times => .value (Floating.valueIn 8 octal * times)
      | none => .invalid
  | text => Amount.ofText true text

/-- Reads an offset as an operand, in octal digits unless it is marked as hexadecimal. -/
def offset? (text : Octets) : Option Nat :=
  let text := if text.head? == some '+' then text.tail else text
  let (base, digits) := match text with
    | '0' :: x :: rest => if x == 'x' || x == 'X' then (16, rest) else (8, text)
    | _ => (8, text)
  let used := Floating.digitsIn base digits
  let times : Option Nat := match digits.drop used.length with
    | [] => some 1
    | ['b'] => some 512
    | ['B'] => some 1024
    | _ => none
  if used.isEmpty then none else times.map (Floating.valueIn base used * ·)

/-- Reads files until there is enough. Says whether all could be read, and whether one could be
opened at all. -/
def gather (enough : Option Nat) (sofar : Octets) (fine opened : Bool) :
    List Octets → Run (Octets × Bool × Bool)
  | [] => return (sofar, fine, opened)
  | file :: rest => do
    if opened && enough.any (· ≤ sofar.length) then return (sofar, fine, opened)
    match ← readInput file with
    | .error e =>
      complainAbout (quoteName file) e
      gather enough sofar false (opened || e == .isADirectory) rest
    | .ok s =>
      let text ← match enough with
        | some n => pure (firstBytes s (n - sofar.length))
        | none => wholeOf s
      gather enough (sofar ++ text) fine true rest

def checkDumpOption (c : Choice) : Option Refusal :=
  let invalid (a : Amount) : Option Refusal := match a with
    | .value n => if c.key == "w" && n == 0 then
        some ⟨"invalid -w argument ".toList ++ quote c.text, false, 1⟩ else none
    | .tooLarge => some ⟨'-' :: c.key.toList ++ " argument ".toList ++ quote c.text ++
        " too large".toList, false, 1⟩
    | _ => some ⟨"invalid -".toList ++ c.key.toList ++ " argument ".toList ++ quote c.text, false,
        1⟩
  match c.key with
  | "j" | "N" | "S" => invalid (basedAmount c.text)
  | "w" => if c.value.isNone then none else invalid (Amount.ofText false c.text)
  | "t" => match fieldsOf c.text (c.text.length + 1) c.text with
    | .ok _ => none
    | .error why => some ⟨why, false, 1⟩
  | "A" =>
    if ['d', 'o', 'x', 'n'].contains (c.text.headD ' ') then none
    else some ⟨"invalid output address radix '".toList ++ c.text.headD (Char.ofNat 0) ::
      "'; it must be one character from [doxn]".toList, false, 1⟩
  | "endian" =>
    if (wordOf? [["little"], ["big"]] c.text).isSome then none
    else some (wrongWord c.text "--endian" [["little"], ["big"]])
  | _ => none

/-- The operands of a call, without an offset at the end. -/
def offsetOperand? (o : Called) : Option (Nat × List Octets) :=
  if ["A", "j", "N", "S", "strings", "t", "v", "w"].any o.has then none
  else
    let marked (word : Octets) (digits : Bool) : Bool :=
      word.head? == some '+' || o.has "traditional" || (digits && (word.headD ' ').isDigit)
    match o.operands with
    | [last] => if marked last false then (offset? last).map fun n => (n, []) else none
    | [file, last] => if marked last true then (offset? last).map fun n => (n, [file]) else none
    | _ => none

def od (arguments : List Octets) : Run Nat :=
  let letters := Text.concat (fieldLetters.map fun (letter, _) => " " ++ letter)
  withOptions ("A,address-radix= j,skip-bytes= N,read-bytes= S= strings? t,format=
    v,output-duplicates w,width? endian= traditional" ++ letters) arguments (fun o => do
    let chosen := o.choices.flatMap fun c =>
      let types := if c.key == "t" then c.text
        else ((fieldLetters.lookup c.key).getD "").toList
      (fieldsOf types (types.length + 1) types).toOption.getD []
    let fields := if chosen.isEmpty then [{ kind := .octal, size := 2 }] else chosen
    let unit := fields.foldl (fun n f => Nat.lcm n f.size) 1
    let asked := (o.last? ["w"]).map fun c => match c.value with
      | some text => (Amount.ofText false text).get
      | none => 32
    let width := match asked with
      | some n => if n % unit == 0 then n else unit
      | none => unit * max 1 (16 / unit)
    if let some n := asked then
      if n % unit != 0 then
        complainOf ("warning: invalid width ".toList ++ Octets.ofNat n ++ "; using ".toList ++
          Octets.ofNat unit ++ " instead".toList)
    let (skipped, files) := (offsetOperand? o).getD
      (((o.value? "j").map fun text => (basedAmount text).get).getD 0, o.operands)
    let limit := (o.value? "N").map fun text => skipped + (basedAmount text).get
    let (content, fine, opened) ← gather limit [] true false (orInput files)
    if !opened then return 1
    if content.length < skipped then
      return ← refuseCall ⟨"cannot skip past end of combined input".toList, false, 1⟩
    let d : Dump := {
      fields, width
      radix := match ((o.value? "A").getD ['o']).headD 'o' with
        | 'd' => some 10
        | 'x' => some 16
        | 'n' => none
        | _ => some 8
      skipsEqual := !o.has "v"
      highFirst := (o.value? "endian").bind (wordOf? [["little"], ["big"]]) == some "big" }
    let shown := content.drop skipped
    match o.last? ["S", "strings"] with
    | some c => put (d.strings ((c.value.map fun text => (basedAmount text).get).getD 3) skipped []
        shown)
    | none => put (d.text skipped shown)
    return status fine) checkDumpOption

end NotebookKernel.Shell.Tool
