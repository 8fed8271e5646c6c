import NotebookKernel.Shell.Tool.Basic

/-! # Programs that write bytes in letters

An encoding writes bytes as digits of a base that is a power of two. Digits stand in groups that
stand for whole bytes, and the last group is filled up. -/

namespace NotebookKernel.Shell.Tool

open Run

/-- How bytes are written in digits. -/
structure Encoding where
  digits : Octets
  /-- How many bits a digit stands for. -/
  bits : Nat
  /-- How many digits stand for whole bytes. -/
  group : Nat
  /-- Whether a last group that is not full still gives bytes when it is read. -/
  givesRest : Bool := true
  /-- Whether the lowest bits of a byte come first. -/
  lowFirst : Bool := false

namespace Encoding

/-- Digits in the order of the alphabet, and behind them those of the decimals. -/
def letters : Octets := "ABCDEFGHIJKLMNOPQRSTUVWXYZ".toList

def decimals : Octets := "0123456789".toList

def base64 : Encoding :=
  { digits := letters ++ letters.map Char.toLower ++ decimals ++ ['+', '/'], bits := 6, group := 4 }

def base64url : Encoding :=
  { base64 with digits := letters ++ letters.map Char.toLower ++ decimals ++ ['-', '_'] }

def base32 : Encoding :=
  { digits := letters ++ "234567".toList, bits := 5, group := 8, givesRest := false }

def base32hex : Encoding := { base32 with digits := decimals ++ letters.take 22 }

def base16 : Encoding := { digits := decimals ++ letters.take 6, bits := 4, group := 2 }

def base2 (lowFirst : Bool) : Encoding := { digits := ['0', '1'], bits := 1, group := 8, lowFirst }

/-- The bits of a byte. -/
def bitsOf (e : Encoding) (c : Char) : List Bool :=
  let bits := (List.range 8).map fun i => c.toNat.testBit i
  if e.lowFirst then bits else bits.reverse

def valueOf (bits : List Bool) : Nat := bits.foldl (fun n b => 2 * n + b.toNat) 0

def fillTo {α : Type} (length : Nat) (filling : α) (items : List α) : List α :=
  items ++ List.replicate (length - items.length) filling

/-- Writes the bytes of a group. -/
def writeGroup (e : Encoding) (bytes : Octets) : Octets :=
  let digit (bits : List Bool) : Char := e.digits.getD (valueOf (fillTo e.bits false bits)) '='
  fillTo e.group '=' ((pieces e.bits (bytes.flatMap e.bitsOf)).map digit)

def write (e : Encoding) (text : Octets) : Octets :=
  (pieces (e.group * e.bits / 8) text).flatMap e.writeGroup

def digitBits? (e : Encoding) (c : Char) : Option (List Bool) :=
  (e.digits.idxOf? c).map fun n => ((List.range e.bits).map n.testBit).reverse

/-- Reads a group, as far as it goes. Says whether all of it could be read. -/
def readGroup (e : Encoding) (group : Octets) : Octets × Bool :=
  let digits := group.takeWhile fun c => e.digits.contains c
  let bits := digits.flatMap fun c => (e.digitBits? c).getD []
  let whole := group.length == e.group
  let bytes := (pieces 8 (bits.take (bits.length / 8 * 8))).map fun byte =>
    Char.ofNat (valueOf (if e.lowFirst then byte.reverse else byte))
  -- The digits that are missing may stand for no more bits than a digit does.
  let fine := whole && (group.drop digits.length).all (· == '=') && bits.length % 8 < e.bits &&
    !bytes.isEmpty
  (if whole || e.givesRest then bytes else [], fine)

/-- Reads group by group up to the first one that is wrong. -/
def readGroups (e : Encoding) : List Octets → Octets × Bool
  | [] => ([], true)
  | group :: rest =>
    let (bytes, fine) := e.readGroup group
    if fine then
      let (more, fine) := readGroups e rest
      (bytes ++ more, fine)
    else (bytes, false)

/-- Reads a text, in which line feeds mean nothing. -/
def read (e : Encoding) (text : Octets) : Octets × Bool :=
  e.readGroups (pieces e.group (text.filter (· != '\n')))

/-- The text without what is no part of the encoding. -/
def only (e : Encoding) (text : Octets) : Octets :=
  text.filter fun c => c == '=' || e.digits.contains c

end Encoding

/-- Cuts a text into lines of a width, if there is one. -/
def wrap (width : Nat) (text : Octets) : Octets :=
  if width == 0 then text else Octets.ofLines (pieces width text)

/-- Writes or reads a file in an encoding. -/
def recode (e : Encoding) (o : Called) : Run Nat := do
  match o.operands with
  | _ :: extra :: _ => extraOperand extra
  | files =>
    let file := files.headD ['-']
    match ← readWhole file with
    | .error .isADirectory => refuseCall ⟨"read error: Is a directory".toList, false, 1⟩
    | .error fault =>
      complainAbout (quoteName file) fault
      return 1
    | .ok text =>
      if o.has "d" then
        let (bytes, fine) := e.read (if o.has "i" then e.only text else text)
        put bytes
        if !fine then complainOf "invalid input".toList
        return status fine
      else
        let width := match (o.value? "w").map (Amount.ofText false) with
          | none => 76
          | some (.value n) => n
          | some _ => 0
        put (wrap width (e.write text))
        return 0

/-- The options of all these programs. -/
def recodeOptions : String := "d,decode i,ignore-garbage w,wrap="

def checkWrap (c : Choice) : Option Refusal :=
  if c.key != "w" then none
  else match Amount.ofText false c.text with
    | .invalid => some ⟨"invalid wrap size: ".toList ++ quote c.text, false, 1⟩
    | _ => none

def encodeBase (e : Encoding) (arguments : List Octets) : Run Nat :=
  withOptions recodeOptions arguments (recode e) checkWrap

def encodings : List (String × Encoding) :=
  [("base64", .base64), ("base64url", .base64url), ("base32", .base32), ("base32hex", .base32hex),
    ("base16", .base16), ("base2msbf", .base2 false), ("base2lsbf", .base2 true)]

def basenc (arguments : List Octets) : Run Nat :=
  withOptions (recodeOptions ++ Text.concat (encodings.map fun (name, _) => " " ++ name)) arguments
    (fun o =>
      match (o.last? (encodings.map (·.1))).bind fun c => encodings.lookup c.key with
      | none => refuseCall ⟨"missing encoding type".toList, true, 1⟩
      | some e => recode e o) checkWrap

end NotebookKernel.Shell.Tool
