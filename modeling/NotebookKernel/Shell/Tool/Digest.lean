import NotebookKernel.Digest.Md5
import NotebookKernel.Digest.Sha512
import NotebookKernel.Shell.Tool.Basic
import NotebookKernel.Text.Base64
import NotebookKernel.Text.Utf8

/-! # Programs that sum up files

They show a digest of every file in a line with its name, and check files against such lines. -/

/-! ## Check sums

The cyclic redundancy check of POSIX over a message and its length, and two older sums. -/

namespace NotebookKernel.Crc

/-- Takes one bit out of the register. -/
def shiftBit (crc : UInt32) : UInt32 :=
  if crc &&& 0x80000000 != 0 then (crc <<< 1) ^^^ 0x04c11db7 else crc <<< 1

/-- Takes a byte into the register. -/
def step (crc : UInt32) (b : UInt8) : UInt32 :=
  (List.range 8).foldl (fun crc _ => shiftBit crc) (crc ^^^ (b.toUInt32 <<< 24))

/-- The bytes of a number without leading zeros, the lowest first. -/
def lengthBytes (n : Nat) : Bytes :=
  ((List.range 8).takeWhile fun i => Nat.pow 256 i ≤ n).map fun i => UInt8.ofNat (n / Nat.pow 256 i)

def check (message : Bytes) : UInt32 :=
  ~~~((message ++ lengthBytes message.length).foldl step 0)

/-- The sum of 16 bits that turns before every byte. -/
def turningSum (message : Bytes) : Nat :=
  message.foldl (fun sum b => (sum / 2 + sum % 2 * 32768 + b.toNat) % 65536) 0

/-- The sum of all bytes, folded to 16 bits. -/
def foldedSum (message : Bytes) : Nat :=
  let sum := message.foldl (fun sum b => (sum + b.toNat) % 4294967296) 0
  let once := sum % 65536 + sum / 65536
  once % 65536 + once / 65536

end NotebookKernel.Crc

namespace NotebookKernel.Shell.Tool

open Run

/-- A kind of digest, with its name in lines that say of which kind they are. -/
structure DigestKind where
  name : String
  /-- The length of a digest in bytes, of which some kinds leave the choice. -/
  length : Nat
  anyLength : Bool := false
  compute : Nat → Bytes → Bytes

namespace DigestKind

def md5 : DigestKind := { name := "MD5", length := 16, compute := fun _ => Md5.digest }
def sha1 : DigestKind := { name := "SHA1", length := 20, compute := fun _ => Sha1.digest }
def sha224 : DigestKind :=
  { name := "SHA224", length := 28, compute := fun _ => Sha256.digestShort }
def sha256 : DigestKind := { name := "SHA256", length := 32, compute := fun _ => Sha256.digest }
def sha384 : DigestKind :=
  { name := "SHA384", length := 48, compute := fun _ => Sha512.digestShort }
def sha512 : DigestKind := { name := "SHA512", length := 64, compute := fun _ => Sha512.digest }
def blake2b : DigestKind :=
  { name := "BLAKE2b", length := 64, anyLength := true, compute := Blake2b.digest }

def all : List (String × DigestKind) := [("md5", md5), ("sha1", sha1), ("sha224", sha224),
  ("sha256", sha256), ("sha384", sha384), ("sha512", sha512), ("blake2b", blake2b)]

end DigestKind

/-! ## Names in lines -/

/-- Whether a name has to be written with backslashes to fit into a line. -/
def breaksLine (name : Octets) : Bool := name.any ['\\', '\n', '\r'].contains

def inLine (name : Octets) : Octets :=
  name.flatMap fun c => match c with
    | '\\' => ['\\', '\\']
    | '\n' => ['\\', 'n']
    | '\r' => ['\\', 'r']
    | c => [c]

/-- The name that was written with backslashes. -/
def outOfLine? : Octets → Option Octets
  | [] => some []
  | '\\' :: c :: rest =>
    let char? : Option Char := match c with
      | '\\' => some '\\'
      | 'n' => some '\n'
      | 'r' => some '\r'
      | _ => none
    char?.bind fun char => (outOfLine? rest).map (char :: ·)
  | ['\\'] => none
  | c :: rest => (outOfLine? rest).map (c :: ·)

/-! ## Lines that are checked -/

/-- What a line says that is checked. -/
structure CheckLine where
  kind : DigestKind
  digest : Octets
  /-- The length of the digest in bytes. -/
  length : Nat
  name : Octets

def isHex (text : Octets) : Bool := !text.isEmpty && text.all fun c => (Hex.value? c).isSome

/-- Reads a line such as `MD5 (name) = digest`. -/
def taggedLine? (kinds : List DigestKind) (line : Octets) : Option CheckLine :=
  kinds.findSome? fun kind => do
    let rest ← Text.Chars.stripStart? kind.name.toList line
    let (bits, rest) ← match rest with
      | '-' :: more =>
        if !kind.anyLength then none
        else
          let digits := more.takeWhile Char.isDigit
          let n ← Octets.digitsValue? digits
          if n == 0 || n % 8 != 0 || 8 * kind.length < n then none
          else some (n, more.drop digits.length)
      | rest => some (8 * kind.length, rest)
    let rest := if rest.head? == some ' ' then rest.tail else rest
    let inside ← Text.Chars.stripStart? ['('] rest
    let backwards := inside.reverse
    let digest := (backwards.takeWhile (· != ')')).reverse
    let name := ((backwards.dropWhile (· != ')')).drop 1).reverse
    if digest.length == inside.length then none
    let bare := digest.dropWhile isBlank
    let hex ← Text.Chars.stripStart? ['='] bare
    let hex := hex.dropWhile isBlank
    if isHex hex && hex.length * 4 == bits then some ⟨kind, hex, bits / 8, name⟩ else none

/-- Reads a line such as `digest  name`. -/
def plainLine? (kind : DigestKind) (line : Octets) : Option CheckLine := do
  let hex := line.takeWhile fun c => (Hex.value? c).isSome
  let full := 2 * kind.length
  let fits := if kind.anyLength then hex.length != 0 && hex.length % 2 == 0 && hex.length ≤ full
    else hex.length == full
  if !fits then none
  match line.drop hex.length with
  | blank :: mark :: name =>
    if !isBlank blank then none
    let name := if mark == ' ' || mark == '*' then name else mark :: name
    if name.isEmpty then none else some ⟨kind, hex, hex.length / 2, name⟩
  | _ => none

/-- Reads a line with a digest of some kinds. A line that does not name its kind is of the one that
is given for such lines, if any is. -/
def checkLine? (kinds : List DigestKind) (untagged : Option DigestKind) (line : Octets) :
    Option CheckLine := do
  let line := line.dropWhile isBlank
  let escaped := line.head? == some '\\'
  let line := if escaped then line.tail else line
  let read ← (taggedLine? kinds line).orElse fun _ => untagged.bind (plainLine? · line)
  if escaped then (outOfLine? read.name).map fun name => { read with name } else some read

/-! ## Checking -/

/-- How much is told of a check. -/
structure Checking where
  kinds : List DigestKind
  untagged : Option DigestKind
  silent : Bool
  quiet : Bool
  warns : Bool
  strict : Bool
  ignoresMissing : Bool

/-- What came out of the lines so far. -/
structure Outcome where
  read : Nat := 0
  malformed : Nat := 0
  unreadable : Nat := 0
  wrong : Nat := 0
  right : Nat := 0

/-- Checks what a line says. -/
def checkOne (c : Checking) (line : CheckLine) (o : Outcome) : Run Outcome := do
  let o := { o with read := o.read + 1 }
  let shown := if breaksLine line.name then '\\' :: inLine line.name else line.name
  match ← readWhole line.name with
  | .error e =>
    if c.ignoresMissing && e == .notFound then return o
    complainAbout (quoteName line.name) e
    if !c.silent then putLine (shown ++ ": FAILED open or read".toList)
    return { o with unreadable := o.unreadable + 1 }
  | .ok content =>
    let found := (Hex.encode (line.kind.compute line.length (Octets.toBytes content))).toList
    if found == line.digest.map Char.toLower then
      if !c.silent && !c.quiet then putLine (shown ++ ": OK".toList)
      return { o with right := o.right + 1 }
    else
      if !c.silent then putLine (shown ++ ": FAILED".toList)
      return { o with wrong := o.wrong + 1 }

/-- Warns of a number of things, by a word for one and a word for several. -/
def warnOf (n : Nat) (one many : String) : Run Unit := do
  if n != 0 then
    let what := if n == 1 then one else many
    complainOf ("WARNING: ".toList ++ Octets.ofNat n ++ ' ' :: what.toList)

/-- Checks all that a file says. -/
def checkFile (c : Checking) (file : Octets) : Run Bool := do
  let title := if file == ['-'] then "standard input".toList else file
  match ← readWhole file with
  | .error e =>
    let why := if e == .isADirectory then "read error".toList else reason e
    complainOf (quoteName title ++ ": ".toList ++ why)
    return false
  | .ok content =>
    let mut o : Outcome := {}
    for (line, i) in (Octets.lines content).zipIdx do
      let line := if line.getLast? == some '\r' then line.dropLast else line
      if !line.isEmpty && line.head? != some '#' then
        let read := (checkLine? c.kinds c.untagged line).filter fun read =>
          file != ['-'] || read.name != ['-']
        match read with
        | some read => o ← checkOne c read o
        | none =>
          o := { o with malformed := o.malformed + 1 }
          if c.warns then
            let kind := (c.untagged.map (·.name)).getD "CRC"
            complainOf (quoteName title ++ ": ".toList ++ Octets.ofNat (i + 1) ++
              (": improperly formatted " ++ kind ++ " checksum line").toList)
    if o.read == 0 then
      complainOf (quoteName title ++ ": no properly formatted checksum lines found".toList)
      return false
    if !c.silent then
      warnOf o.malformed "line is improperly formatted" "lines are improperly formatted"
      warnOf o.unreadable "listed file could not be read" "listed files could not be read"
      warnOf o.wrong "computed checksum did NOT match" "computed checksums did NOT match"
      if c.ignoresMissing && o.right == 0 then
        complainOf (quoteName title ++ ": no file was verified".toList)
    return o.right != 0 && o.wrong == 0 && o.unreadable == 0 && (!c.strict || o.malformed == 0)

/-! ## Digests of files -/

/-- How digests are shown. -/
structure DigestStyle where
  kind : DigestKind
  length : Nat
  tagged : Bool
  binary : Bool
  base64 : Bool := false
  raw : Bool := false
  zeros : Bool

def DigestStyle.line (s : DigestStyle) (name : Octets) (content : Octets) : Octets :=
  let digest := s.kind.compute s.length (Octets.toBytes content)
  if s.raw then Octets.ofBytes digest
  else
    let shown := if s.base64 then (Base64.encode digest).toList else (Hex.encode digest).toList
    let escaped := !s.zeros && breaksLine name
    let written := if escaped then inLine name else name
    let kind := if s.length == s.kind.length then s.kind.name
      else s.kind.name ++ "-" ++ toString (8 * s.length)
    (if escaped then ['\\'] else []) ++
      (if s.tagged then (kind ++ " (").toList ++ written ++ ") = ".toList ++ shown
        else shown ++ [' ', if s.binary then '*' else ' '] ++ written) ++ [lineEnd s.zeros]

/-- Shows a line for every file. -/
def putDigests (files : List Octets) (line : Octets → Octets → Octets) : Run Nat := do
  let fine ← eachFile files fun file content => put (line file content)
  return status fine

/-- Which options go only with checking, and how they are called. -/
def checkOnly : List (String × String) := [("ignore-missing", "ignore-missing"),
  ("status", "status"), ("w", "warn"), ("quiet", "quiet"), ("strict", "strict")]

/-- Why options do not go together, if they do not. -/
def digestConflict? (o : Called) (tagged : Bool) : Option String :=
  if tagged && o.has "t" then some "--tag does not support --text mode"
  else if o.has "z" && o.has "c" then
    some "the --zero option is not supported when verifying checksums"
  else if o.has "tag" && o.has "c" then
    some "the --tag option is meaningless when verifying checksums"
  else if (o.has "b" || o.has "t") && o.has "c" then
    some "the --binary and --text options are meaningless when verifying checksums"
  else if o.has "c" then none
  else (checkOnly.find? fun (key, _) => o.has key).map fun (_, name) =>
    "the --" ++ name ++ " option is meaningful only when verifying checksums"

def checkingOf (o : Called) (kinds : List DigestKind) (untagged : Option DigestKind) : Checking :=
  { kinds, untagged, silent := o.has "status", quiet := o.has "quiet"
    warns := o.prevails "w" ["status"], strict := o.has "strict"
    ignoresMissing := o.has "ignore-missing" }

/-- Checks files, each of which lists others. -/
def checkFiles (c : Checking) (files : List Octets) : Run Nat := do
  let results ← files.mapM (checkFile c)
  return status (results.all id)

/-- Why a length in bits is not that of a digest. -/
def checkBits (kind : DigestKind) (text : Octets) : Run (Option Nat) := do
  let invalid (why : Octets) : Run (Option Nat) := do
    complainOf ("invalid length: ".toList ++ quote text)
    if !why.isEmpty then complainOf why
    return none
  match Octets.digitsValue? text with
  | none => invalid []
  | some n =>
    if 8 * kind.length < n then
      invalid ("maximum digest length for ".toList ++ quote kind.name.toList ++ " is ".toList ++
        Octets.ofNat (8 * kind.length) ++ " bits".toList)
    else if n % 8 != 0 then invalid "length is not a multiple of 8".toList
    else return some (if n == 0 then kind.length else n / 8)

/-- A program for one kind of digest. -/
def digest (kind : DigestKind) (arguments : List Octets) : Run Nat :=
  let table := "b,binary c,check ignore-missing quiet status strict tag t,text w,warn z,zero" ++
    if kind.anyLength then " l,length=" else ""
  withOptions table arguments fun o => do
    let length ← match o.value? "l" with
      | none => pure (some kind.length)
      | some text => checkBits kind text
    match length, digestConflict? o (o.has "tag" && !o.has "c") with
    | none, _ => return 1
    | some _, some why => refuseCall ⟨why.toList, true, 1⟩
    | some length, none =>
      let files := orInput o.operands
      if o.has "c" then return ← checkFiles (checkingOf o [kind] (some kind)) files
      let s : DigestStyle := {
        kind, length, tagged := o.has "tag", binary := o.prevails "b" ["t"], zeros := o.has "z" }
      putDigests files s.line

/-! ## Check sums -/

/-- A line with a sum and a number of blocks. -/
def sumLine (turning named : Bool) (name content : Octets) : Octets :=
  let bytes := Octets.toBytes content
  let blocks (size : Nat) : Octets := Octets.ofNat ((content.length + size - 1) / size)
  let sum := Octets.ofNat (if turning then Crc.turningSum bytes else Crc.foldedSum bytes)
  (if turning then List.replicate (5 - sum.length) '0' ++ sum ++ ' ' :: padLeft 5 (blocks 1024)
    else sum ++ ' ' :: blocks 512) ++ (if named then ' ' :: name else []) ++ ['\n']

def crcLine (named : Bool) (name content : Octets) : Octets :=
  Octets.ofNat (Crc.check (Octets.toBytes content)).toNat ++ ' ' :: Octets.ofNat content.length ++
    (if named then ' ' :: name else []) ++ ['\n']

def sum (arguments : List Octets) : Run Nat :=
  withOptions "r s,sysv" arguments fun o =>
    putDigests (orInput o.operands) (sumLine (!o.prevails "s" ["r"]) (!o.operands.isEmpty))

def algorithmNames : List (List String) :=
  [["bsd"], ["sysv"], ["crc"], ["md5"], ["sha1"], ["sha224"], ["sha256"], ["sha384"], ["sha512"],
    ["blake2b"], ["sm3"]]

def cksum (arguments : List Octets) : Run Nat :=
  withOptions "a,algorithm= base64 b,binary c,check debug ignore-missing l,length= quiet raw status
    strict t,text tag untagged w,warn z,zero" arguments (fun o => do
    let name := ((o.value? "a").bind (wordOf? algorithmNames)).getD "crc"
    let files := orInput o.operands
    let named := !o.operands.isEmpty
    if o.has "l" && name != "blake2b" then
      return ← refuseCall ⟨"--length is only supported with --algorithm=blake2b".toList, false,
        1⟩
    let tagged := o.prevails "tag" ["untagged"] || !o.has "untagged"
    if tagged && o.has "t" && !o.has "c" then
      return ← refuseCall ⟨"--text mode is only supported with --untagged".toList, true, 1⟩
    match digestConflict? o false with
    | some why => refuseCall ⟨why.toList, true, 1⟩
    | none =>
      let kinds := DigestKind.all.map (·.2)
      let kind := DigestKind.all.lookup name
      if o.has "c" then
        if o.has "a" && kind.isNone then
          return ← refuseCall ⟨("--check is not supported with " ++
            "--algorithm=\x7bbsd,sysv,crc\x7d").toList, false, 1⟩
        let checked := if kind.isSome then kind.toList else kinds
        return ← checkFiles (checkingOf o checked kind) files
      match kind with
      | some kind =>
        let length ← match o.value? "l" with
          | none => pure (some kind.length)
          | some text => checkBits kind text
        match length with
        | none => return 1
        | some length =>
          let s : DigestStyle := {
            kind, length, tagged, binary := !tagged && o.prevails "b" ["t"]
            base64 := o.has "base64", raw := o.has "raw", zeros := o.has "z" }
          putDigests files s.line
      | none =>
        if o.has "raw" then
          return ← putDigests files fun _ content =>
            let bytes := Octets.toBytes content
            Octets.ofBytes (match name with
              | "bsd" => Sha256.bigEndian 2 (Crc.turningSum bytes)
              | "sysv" => Sha256.bigEndian 2 (Crc.foldedSum bytes)
              | _ => Sha256.bigEndian 4 (Crc.check bytes).toNat)
        let line := match name with
          | "bsd" => sumLine true named
          | "sysv" => sumLine false named
          | _ => crcLine named
        putDigests files fun name content => (line name content).dropLast ++ [lineEnd (o.has "z")])
    fun c =>
      if c.key == "a" && (wordOf? algorithmNames c.text).isNone then
        some (wrongWord c.text "--algorithm" algorithmNames)
      else none

end NotebookKernel.Shell.Tool
