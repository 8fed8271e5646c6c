import NotebookKernel.Shell.Tool.Editing.Delimited

/-! # Reading scripts for editing

A script is given in pieces, which are arguments or files. What is wrong is told with the place that
was reached in the piece: how many bytes of an argument were read, or which line of a file. -/

namespace NotebookKernel.Shell.Tool.Editing

/-- A piece of a script: an expression of a number, or a file of a name. -/
structure Fragment where
  file : Option Octets := none
  number : Nat := 0
  text : Octets

/-- Names a place in a fragment by the text behind it. -/
def Fragment.placeBefore (f : Fragment) (rest : Octets) : Octets :=
  let before := f.text.take (f.text.length - rest.length)
  match f.file with
  | none => "-e expression #".toList ++ Octets.ofNat f.number ++ ", char ".toList ++
      Octets.ofNat before.length ++ ": ".toList
  | some name => "file ".toList ++ name ++ " line ".toList ++
      Octets.ofNat (before.count '\n' + 1) ++ ": ".toList

/-- How a fragment is read. -/
structure ReadingRules where
  fragment : Fragment
  extended : Bool := false
  /-- Whether nothing may be done to files or by other programs. -/
  sandboxed : Bool := false

/-- What was read of a script. -/
structure ScriptReading where
  rest : Octets := []
  /-- Whether a fragment was read before. -/
  begun : Bool := false
  script : Script := {}
  /-- The blocks that are open, as the numbers of their instructions and the places of their braces. -/
  blocks : List (Nat × Octets) := []
  /-- The files that are written to, the last first. -/
  files : List Octets := []

/-- Reading of a script, which may fail with a complaint. -/
abbrev Reader := ReaderT ReadingRules (EStateM Octets ScriptReading)

namespace Reader

def fail {α : Type} (message : String) : Reader α := throw message.toList

def peek : Reader (Option Char) := return (← get).rest.head?

def setRest (rest : Octets) : Reader Unit := modify fun r => { r with rest }

def next : Reader (Option Char) := do
  match (← get).rest with
  | [] => return none
  | c :: rest =>
    setRest rest
    return some c

def skipBlanks : Reader Unit := do setRest ((← get).rest.dropWhile isBlank)

/-- Reads a number, which is zero if there are no digits. -/
def number : Reader Nat := do
  let rest := (← get).rest
  let digits := rest.takeWhile Char.isDigit
  setRest (rest.drop digits.length)
  return (Octets.digitsValue? digits).getD 0

/-- Reads the rest of a line, and the line feed. -/
def restOfLine : Reader Octets := do
  let rest := (← get).rest
  let line := rest.takeWhile (· != '\n')
  setRest (rest.drop (line.length + 1))
  return line

/-- Reads what has to stand behind most instructions: their end. -/
def endOfInstruction : Reader Unit := do
  skipBlanks
  match ← peek with
  | some '\x7d' | some '#' | none => pure ()
  | some c =>
    let _ ← next
    if c != '\n' && c != ';' then fail "extra characters after command"

/-- Reads up to a delimiter. -/
def upTo (delimiter : Char) (isRegex : Bool) (fault : String) : Reader Octets := do
  let d := delimited delimiter isRegex .outside (← get).rest
  setRest d.rest
  if d.closed then return d.text else fail fault

/-- Reads an expression. -/
def sought (text : Octets) (folds lines : Bool) : Reader (Option Sought) := do
  if text.isEmpty then
    if folds || lines then fail "cannot specify modifiers on empty regexp"
    return none
  let dialect : Regex.Dialect := ⟨(← read).extended, false, false⟩
  match Regex.read dialect (withNamedBytes text.length text) with
  | .error fault => fail fault.message
  | .ok e =>
    -- Where lines count, only a line feed itself matches one.
    let inLine : Probe → Probe
      | .byte .anyByte => .byte (.oneOf true [('\n', '\n')])
      | .byte (.oneOf true ranges) => .byte (.oneOf true (('\n', '\n') :: ranges))
      | probe => probe
    return some ⟨if lines then e.regex.map inLine else e.regex, e.groups, folds, lines⟩

/-! ## Addresses -/

/-- Reads the letters behind the expression of an address. The fuel bounds their number. -/
def addressFlags : Nat → Bool → Bool → Reader (Bool × Bool)
  | 0, folds, lines => return (folds, lines)
  | fuel + 1, folds, lines => do
    skipBlanks
    match ← peek with
    | some 'I' =>
      let _ ← next
      addressFlags fuel true lines
    | some 'M' =>
      let _ ← next
      addressFlags fuel folds true
    | _ => return (folds, lines)

/-- Reads an address, or what may stand in the place of a second one. -/
def address? : Reader (Option RangeEnd) := do
  let matching (delimiter : Char) : Reader (Option RangeEnd) := do
    let text ← upTo delimiter true "unterminated address regex"
    let (folds, lines) ← addressFlags (← get).rest.length false false
    return some (.address (.matching (← sought text folds lines)))
  match ← peek with
  | some '/' =>
    let _ ← next
    matching '/'
  | some '\\' =>
    let _ ← next
    match ← next with
    | some delimiter => matching delimiter
    | none => fail "unterminated address regex"
  | some '$' =>
    let _ ← next
    return some (.address .last)
  | some '+' =>
    let _ ← next
    skipBlanks
    return some (.further (← number))
  | some '~' =>
    let _ ← next
    skipBlanks
    return some (.multiple (← number))
  | some c =>
    if !c.isDigit then return none
    let first ← number
    skipBlanks
    if (← peek) != some '~' then return some (.address (.line first))
    let _ ← next
    skipBlanks
    let step ← number
    return some (.address (if step == 0 then .line first else .every first step))
  | none => return none

/-- Reads for which lines an instruction is. -/
def selection : Reader Selection := do
  let first : Option Address ← match ← address? with
    | none => pure none
    | some (.address a) => pure (some a)
    | some _ => fail "invalid usage of +N or ~N as first address"
  let last : Option RangeEnd ← do
    if first.isNone then pure none
    else
      skipBlanks
      if (← peek) != some ',' then pure none
      else
        let _ ← next
        skipBlanks
        match ← address? with
        | some last =>
          skipBlanks
          pure (some last)
        | none =>
          let _ ← next
          fail "unexpected `,'"
  match first, last with
  | some (.line 0), some (.address (.matching _)) => pure ()
  | some (.line 0), _ =>
    -- The byte behind the addresses was looked at before.
    let _ ← next
    fail "invalid usage of line address 0"
  | _, _ => pure ()
  if (← peek) != some '!' then return { first, last }
  let _ ← next
  skipBlanks
  if (← peek) == some '!' then
    let _ ← next
    fail "multiple `!'s"
  return { first, last, negated := true }

/-! ## Instructions -/

/-- Reads a name up to the end of the line. -/
def fileName : Reader Octets := do
  skipBlanks
  let name ← restOfLine
  if name.isEmpty then fail "missing filename in r/R/w/W commands"
  return name

/-- Reads the name of a file that is written to. -/
def outputName : Reader Octets := do
  let name ← fileName
  modify fun r => { r with files := name :: r.files }
  return name

/-- Reads a label. -/
def label : Reader Octets := do
  skipBlanks
  let rest := (← get).rest
  let name := rest.takeWhile fun c => !(isSpace c || [';', '\x7d', '#'].contains c)
  setRest (rest.drop name.length)
  return name

/-- Refuses what the rules for the script do not allow. -/
def refuseInSandbox : Reader Unit := do
  if (← read).sandboxed then fail "e/r/w commands disabled in sandbox mode"

/-- Reads text up to the end of a line that does not end in a backslash. -/
def textLines : Reader Octets := do
  let rest := (← get).rest
  let rec stop : Octets → Nat
    | '\\' :: _ :: rest => stop rest + 2
    | '\n' :: _ => 0
    | _ :: rest => stop rest + 1
    | [] => 0
  let length := stop rest
  setRest (rest.drop (length + 1))
  return plainText length (rest.take length) ++ ['\n']

/-- Reads the text of an instruction that has some. -/
def text : Reader Octets := do
  skipBlanks
  match ← peek with
  | none => fail "expected \\ after `a', `c' or `i'"
  | some '\\' =>
    let _ ← next
    match ← peek with
    | none => return []
    | some '\n' =>
      let _ ← next
      textLines
    | some _ => textLines
  | some _ => textLines

/-- Reads what stands behind a replacement. The fuel bounds its length. -/
def substitutionFlags : Nat → Substitution → Bool → Bool → Reader (Substitution × Bool × Bool)
  | 0, s, folds, lines => return (s, folds, lines)
  | fuel + 1, s, folds, lines => do
    match ← peek with
    | some '\x7d' | some '#' | none => return (s, folds, lines)
    | some c =>
      let _ ← next
      match c with
      | 'i' | 'I' => substitutionFlags fuel s true lines
      | 'm' | 'M' => substitutionFlags fuel s folds true
      | 'e' =>
        refuseInSandbox
        substitutionFlags fuel { s with evaluates := true } folds lines
      | 'p' =>
        if s.shows || s.showsResult then fail "multiple `p' options to `s' command"
        substitutionFlags fuel
          { s with shows := !s.evaluates, showsResult := s.evaluates } folds lines
      | 'g' =>
        if s.further then fail "multiple `g' options to `s' command"
        substitutionFlags fuel { s with further := true } folds lines
      | 'w' =>
        refuseInSandbox
        return ({ s with file := some (← outputName) }, folds, lines)
      | '\n' | ';' => return (s, folds, lines)
      | c =>
        if isBlank c then substitutionFlags fuel s folds lines
        else if !c.isDigit then fail "unknown option to `s'"
        else
          if s.number.isSome then fail "multiple number options to `s' command"
          modify fun r => { r with rest := c :: r.rest }
          let n ← number
          if n == 0 then fail "number option to `s' command may not be zero"
          substitutionFlags fuel { s with number := some n } folds lines

def substitution : Reader Substitution := do
  let fault := "unterminated `s' command"
  let some delimiter ← next | fail fault
  let pattern ← upTo delimiter true fault
  let replacement ← upTo delimiter false fault
  let parts := replacementParts (replacement.length + 1) {} replacement
  let (s, folds, lines) ← substitutionFlags ((← get).rest.length + 1) { parts } false false
  let sought ← sought pattern folds lines
  if sought.any (·.groups < s.greatestGroup) then throw s.missingGroup
  return { s with sought }

def translation : Reader (List (Char × Char)) := do
  let fault := "unterminated `y' command"
  let some delimiter ← next | fail fault
  let old ← upTo delimiter false fault
  let new ← upTo delimiter false fault
  let old := plainText old.length old
  let new := plainText new.length new
  if old.length != new.length then fail "strings for `y' command are different lengths"
  endOfInstruction
  return old.zip new

/-- Reads a number that may stand behind an instruction. -/
def numberBehind : Reader (Option Nat) := do
  skipBlanks
  let n ← if (← peek).any Char.isDigit then pure (some (← number)) else pure none
  endOfInstruction
  return n

/-- Whether a version is one that scripts may ask for. -/
def knownVersion (version : Octets) : Bool :=
  let parts := (Text.Chars.splitOn (· == '.') version).map fun part =>
    (Octets.digitsValue? part).getD 0
  match parts with
  | major :: minor :: _ => major < 4 || (major == 4 && minor ≤ 9)
  | [major] => major ≤ 4
  | [] => true

/-- Reads what an instruction does, behind its first letter. -/
def action (letter : Char) (s : Selection) : Reader Action := do
  let plain (a : Action) : Reader Action := do
    endOfInstruction
    return a
  match letter with
  | '\x7b' =>
    let r ← get
    let f := (← read).fragment
    let place := if f.file.isSome then f.placeBefore r.rest else { f with text := [] }.placeBefore []
    set { r with blocks := (r.script.instructions.size, place) :: r.blocks }
    return .block 0
  | '\x7d' =>
    let r ← get
    match r.blocks with
    | [] => fail "unexpected `\x7d'"
    | (start, _) :: blocks =>
      if s.first.isSome then fail "`\x7d' doesn't want any addresses"
      let stop := r.script.instructions.size
      set { r with
        blocks
        script := { r.script with
          instructions := r.script.instructions.modify start fun i => { i with action := .block stop } } }
      plain .nothing
  | ':' =>
    if s.first.isSome then fail ": doesn't want any addresses"
    let name ← label
    if name.isEmpty then fail "\":\" lacks a label"
    modify fun r => { r with script := { r.script with
      labels := r.script.labels ++ [(name, r.script.instructions.size)] } }
    return .nothing
  | 'b' => return .jump (← label)
  | 't' => return .jumpIf true (← label)
  | 'T' => return .jumpIf false (← label)
  | 'a' => return .append (← text)
  | 'i' => return .insert (← text)
  | 'c' => return .change (← text)
  | 'e' =>
    refuseInSandbox
    skipBlanks
    match ← peek with
    | none => return .execute none
    | some '\n' =>
      let _ ← next
      return .execute none
    | some _ => return .execute (some (← text))
  | 'q' | 'Q' =>
    if s.last.isSome then fail "command only uses one address"
    return .quit (letter == 'q') ((← numberBehind).getD 0)
  | 'l' => return .list (← numberBehind)
  | 'r' =>
    refuseInSandbox
    return .insertFile (← fileName)
  | 'R' =>
    refuseInSandbox
    return .insertLineOf (← fileName)
  | 'w' =>
    refuseInSandbox
    return .write (← outputName)
  | 'W' =>
    refuseInSandbox
    return .writeLine (← outputName)
  | 's' => return .substitute (← substitution)
  | 'y' => return .translate (← translation)
  | 'v' =>
    let version ← label
    if !knownVersion version then fail "expected newer version of sed"
    return .nothing
  | '=' => plain .showNumber
  | 'd' => plain .delete
  | 'D' => plain .deleteLine
  | 'F' => plain .showName
  | 'g' => plain (.get false)
  | 'G' => plain (.get true)
  | 'h' => plain (.hold false)
  | 'H' => plain (.hold true)
  | 'n' => plain .next
  | 'N' => plain .nextToo
  | 'p' => plain .show
  | 'P' => plain .showLine
  | 'x' => plain .exchange
  | 'z' => plain .clear
  | c => throw ("unknown command: `".toList ++ [c, '\''])

/-- Reads instructions to the end of the fragment. The fuel bounds their number. -/
def instructions : Nat → Reader Unit
  | 0 => pure ()
  | fuel + 1 => do
    setRest ((← get).rest.dropWhile fun c => isSpace c || c == ';')
    if (← get).rest.isEmpty then return
    let s ← selection
    match ← next with
    | none => fail "missing command"
    | some '#' =>
      if s.first.isSome then fail "comments don't accept any addresses"
      let _ ← restOfLine
    | some letter =>
      let action ← action letter s
      modify fun r => { r with script := { r.script with
        instructions := r.script.instructions.push ⟨s, action⟩ } }
    instructions fuel

end Reader

/-- Reads a fragment behind others, up to its end or to what is wrong. -/
def ScriptReading.read (r : ScriptReading) (rules : ReadingRules) :
    ScriptReading × Option Octets :=
  let text := rules.fragment.text
  let silent := r.script.silent || (!r.begun && "#n".toList.isPrefixOf text)
  let r := { r with rest := text, begun := true, script := { r.script with silent } }
  match ((Reader.instructions (text.length + 1)).run rules).run r with
  | .ok _ r => (r, none)
  | .error message r => (r, some (rules.fragment.placeBefore r.rest ++ message))

end NotebookKernel.Shell.Tool.Editing
