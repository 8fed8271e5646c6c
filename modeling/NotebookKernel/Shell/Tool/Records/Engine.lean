import NotebookKernel.Shell.Tool.Flow
import NotebookKernel.Shell.Tool.Records.Search
import NotebookKernel.Shell.Tool.Records.Table

/-! # The state of a program over records

A running program has variables, arrays, the present record and what it has open. What it prints is kept
until it ends or runs another program. -/

namespace NotebookKernel.Shell.Tool.Records

open Run

/-- What a name stands for while the program runs. -/
inductive Slot where
  | value (v : Value)
  /-- The array of a number. -/
  | array (index : Nat)

/-- The present record. Its fields are found when they are asked for. -/
structure Record where
  text : Octets := []
  fields : Array Value := #[]
  isSplit : Bool := true

/-- An input that lines are read from by its name. -/
structure Input where
  name : Octets
  isCommand : Bool
  rest : Source
  /-- How the command came to its end. -/
  status : Nat := 0

/-- An output that is written to by its name. What was written last comes first. -/
structure Output where
  name : Octets
  isCommand : Bool
  kept : List Octets := []

/-- How far the files among the arguments were read. -/
inductive MainInput where
  /-- The next argument, and whether any file was named so far. -/
  | before (argument : Nat) (named : Bool)
  | within (rest : Source) (argument : Nat)
  | over

structure Engine where
  shared : Array Slot
  own : Array Slot := #[]
  arrays : Array Table
  record : Record := {}
  main : MainInput := .before 1 false
  inputs : List Input := []
  /-- What is open for writing, the last used first. -/
  outputs : List Output := []
  /-- The rules whose ranges are under way. -/
  ranges : List Nat := []
  /-- The expressions that were read so far. -/
  searches : List (Octets × Regex Probe) := []
  seed : Value := .number 0
  /-- What random numbers are made of, the last first. -/
  random : List Nat := []
  /-- What is to be written to the standard output, the last first. -/
  shown : List Octets := []
  /-- What was shown for the present record, the last first. -/
  recent : List Octets := []
  /-- How many pieces were shown. -/
  shownCount : Nat := 0
  /-- How much was done so far. -/
  work : Nat := 0

/-- Why a program does not go on with a record. -/
inductive Leave where
  | next
  | nextFile
  | exit (status : Option Nat)
  /-- The program is given up at once. -/
  | over (status : Nat)

structure Surroundings where
  program : Program
  runner : Runner

abbrev Act := ReaderT Surroundings (ExceptT Leave (StateT Engine Run))

namespace Act

def run' {α : Type} (act : Run α) : Act α := act

/-! ## Variables -/

def slotOf (p : Place) : Act Slot := do
  let e ← get
  return match p with
    | .shared i => e.shared.getD i (.value .unset)
    | .own i => e.own.getD i (.value .unset)

/-- The value of a variable that every program has, as it was last set. -/
def known (name : String) : Act Value := do
  match (← get).shared.getD (knownPlace name) (.value .unset) with
  | .value v => return v
  | .array _ => return .unset

def setKnown (name : String) (v : Value) : Act Unit := modify fun e =>
  { e with shared := e.shared.setIfInBounds (knownPlace name) (.value v) }

/-- The text of a variable that every program has. -/
def knownText (name : String) : Act Octets := do
  let v ← known name
  match v with
  | .number _ => return v.toText "%.6g".toList
  | v => return v.toText []

def textOf (v : Value) : Act Octets := do
  match v with
  | .number x => if Value.isWhole x then return Value.digitsOf x else
      return Value.numberText (← knownText "CONVFMT") x
  | v => return v.toText []

/-- The number of the array at a place. -/
def arrayAt (p : Place) : Act Nat := do
  match ← slotOf p with
  | .array i => return i
  | .value _ => return (← get).arrays.size

/-- Looks into an array or changes it. -/
def onTable {α : Type} (i : Nat) (f : Table → α × Table) : Act α := modifyGet fun e =>
  let t := e.arrays.getD i {}
  let e := { e with arrays := e.arrays.setIfInBounds i {} }
  let (a, t) := f t
  (a, { e with arrays := e.arrays.setIfInBounds i t })

/-! ## Output -/

/-- Complains in the name of the program. -/
def say (text : Octets) : Act Unit := run' (complainOf text)

/-- Shows something on the standard output. -/
def show' (text : Octets) : Act Unit :=
  modify fun e => { e with
    shown := text :: e.shown, recent := text :: e.recent, shownCount := e.shownCount + 1 }

/-- Writes what was shown so far. -/
def release : Act Unit := do
  let shown := (← get).shown.reverse.flatten
  modify fun e => { e with shown := [] }
  if !shown.isEmpty then run' (put shown)

/-- Says what is wrong, and ends the program. -/
def fail {α : Type} (text : Octets) : Act α := do
  say text
  throw (.over 2)

/-- Says what is wrong with the present record. -/
def failHere {α : Type} (text : Octets) : Act α := do
  let number (name : String) : Act Octets := do
    let v ← known name
    return ('=' :: (Value.digitsOf v.toNumber))
  let file ← knownText "FILENAME"
  let fnr ← number "FNR"
  let nr ← number "NR"
  fail ("run time error: ".toList ++ text ++ "\n\tFILENAME=\"".toList ++ file ++ "\" FNR".toList ++
    fnr ++ " NR".toList ++ nr)

/-- Writes to a file what was kept for it. -/
def writeKept (o : Output) : Act Unit := do
  let content := o.kept.reverse.flatten
  if !content.isEmpty then
    match ← run' (fill o.name true content) with
    | .ok () => pure ()
    | .error why =>
      fail ("close failed on file \"".toList ++ o.name ++ "\" (".toList ++ reason why ++ ")".toList)

/-- Writes everything that is kept for files and for the standard output. -/
def flushAll : Act Unit := do
  release
  let outputs := (← get).outputs
  modify fun e => { e with outputs := outputs.map fun o => if o.isCommand then o else { o with kept := [] } }
  for o in outputs do
    if !o.isCommand then writeKept o

/-- The status of a program that has ended, as it is told to the one that ran it. -/
def statusOf (ended : Except OsError Ended) : Nat :=
  match ended with
  | .ok (.exited status) => status
  | .ok (.killed signal) => 256 + signal
  | .error _ => 127

/-- Runs a command with its input and output as they are. -/
def runCommand (shell : String) (command : Octets) : Act Nat := do
  let runner := (← read).runner
  let ended ← run' (runner [shell.toList, "-c".toList, command])
  return statusOf ended

/-- Runs a command that reads what was kept for it. -/
def runKept (o : Output) : Act Nat := do
  let saved := (← run' process).descriptors
  let content := o.kept.reverse.flatten
  let input ← run' (addSource { content, endless := [], ready := 0 })
  run' (setStream 0 (some input))
  let status ← runCommand "/bin/sh" o.name
  run' (modifyProcess fun p => { p with descriptors := saved })
  return status

/-- Runs a command, and gives what it writes. -/
def commandSource (command : Octets) : Act (Source × Nat) := do
  let saved := (← run' process).descriptors
  let channel ← run' freshNumber
  run' (setStream 1 (some (.channel channel)))
  let status ← runCommand "/bin/sh" command
  run' (modifyProcess fun p => { p with descriptors := saved })
  let content ← run' (written channel)
  let endless := ((← run' world).endless.lookup channel).getD []
  return (⟨content, endless, 0⟩, status)

/-- Closes an output. -/
def closeOutput (o : Output) : Act Nat := do
  if o.isCommand then runKept o
  else
    writeKept o
    return 0

/-- Closes everything that is open for writing. -/
def closeAll : Act Unit := do
  let outputs := (← get).outputs
  modify fun e => { e with outputs := [] }
  for o in outputs do
    let _ ← closeOutput o

/-- Closes what is open by a name, and gives its status. -/
def close (name : Octets) : Act Int := do
  let e ← get
  let inputs := e.inputs.filter (·.name == name)
  let outputs := e.outputs.filter (·.name == name)
  set { e with
    inputs := e.inputs.filter (·.name != name), outputs := e.outputs.filter (·.name != name) }
  let mut status : Int := (inputs.head?.map (·.status)).getD (-1)
  for o in outputs do status := ← closeOutput o
  return status

/-- Prints to a file or to a command. -/
def printTo (name : Octets) (isCommand appends : Bool) (text : Octets) : Act Unit := do
  if !isCommand && name == "/dev/stdout".toList then show' text
  else if !isCommand && name == "/dev/stderr".toList then
    let _ ← run' (write 2 text)
  else
    let outputs := (← get).outputs
    match outputs.find? fun o => o.name == name && o.isCommand == isCommand with
    | some o =>
      let others := outputs.filter fun o => !(o.name == name && o.isCommand == isCommand)
      modify fun e => { e with outputs := { o with kept := text :: o.kept } :: others }
    | none =>
      if isCommand then flushAll
      else
        match ← run' (fill name appends []) with
        | .ok () => pure ()
        | .error why =>
          fail ("cannot open \"".toList ++ name ++ "\" for output (".toList ++ reason why ++
            ")".toList)
      modify fun e => { e with outputs := ⟨name, isCommand, [text]⟩ :: e.outputs }

/-! ## Expressions that are looked for -/

/-- The expression of a text. -/
def searchOf (text : Octets) : Act (Regex Probe) := do
  match (← get).searches.lookup text with
  | some r => return r
  | none =>
    match Search.read text with
    | .ok r =>
      modify fun e => { e with searches := (text, r) :: e.searches.take 50 }
      return r
    | .error fault => failHere (fault.message text)

/-- What a text says about separation. -/
def separatorOf (text : Octets) : Act Search.Separator := do
  match text with
  | [] => return .none
  | [' '] => return .space
  | [c] => return .byte c
  | text => return .matching (← searchOf text)

/-! ## Records -/

/-- Finds the fields of the record. -/
def split : Act Unit := do
  if !(← get).record.isSplit then
    let separator ← separatorOf (← knownText "FS")
    let fields := (separator.split (← get).record.text).map Value.given
    modify fun e => { e with record := { e.record with fields := fields.toArray, isSplit := true } }
    setKnown "NF" (.number (Float.ofNat fields.length))

/-- Makes a text the record. -/
def setRecord (text : Octets) : Act Unit :=
  modify fun e => { e with record := { text, fields := #[], isSplit := false } }

/-- Makes the record anew from its fields. -/
def rejoin : Act Unit := do
  let between ← knownText "OFS"
  let fields ← (← get).record.fields.toList.mapM textOf
  modify fun e => { e with record := { e.record with text := List.intercalate between fields } }

/-- The number of a field. -/
def fieldNumber (v : Value) : Act Nat := do
  let x := v.toNumber
  if x ≤ -1 then
    failHere ("negative field index $".toList ++ Octets.ofInt (Value.toWhole x))
  return Value.wholePart x

def field (n : Nat) : Act Value := do
  if n == 0 then return .given (← get).record.text
  split
  return (← get).record.fields.getD (n - 1) .unset

/-- The most fields that a record can have. -/
def maxFields : Nat := 100000

def setField (n : Nat) (v : Value) : Act Unit := do
  if n == 0 then setRecord (← textOf v)
  else
    split
    if maxFields < n then fail "program limit exceeded: maximum number of fields".toList
    let fields := (← get).record.fields
    let grown := fields.size < n
    let fields := fields ++ Array.replicate (n - fields.size) Value.unset
    modify fun e => { e with record := { e.record with fields := fields.setIfInBounds (n - 1) v } }
    if grown then setKnown "NF" (.number (Float.ofNat n))
    rejoin

/-- Gives the record a number of fields. -/
def setFieldCount (v : Value) : Act Unit := do
  split
  let x := v.toNumber
  if x ≤ -1 then failHere "negative value assigned to NF".toList
  let n := Value.wholePart x
  if maxFields < n then fail "program limit exceeded: maximum number of fields".toList
  let fields := (← get).record.fields
  let fields := fields.take n ++ Array.replicate (n - fields.size) Value.unset
  modify fun e => { e with record := { e.record with fields } }
  setKnown "NF" v
  rejoin

/-! ## Values of places -/

def valueAt (p : Place) : Act Value := do
  match p with
  | .shared i => if i == knownPlace "NF" then split
  | .own _ => pure ()
  match ← slotOf p with
  | .value v => return v
  | .array _ => return .unset

/-- Gives a variable a value. Fields that are to be found are found as long as the old separator
holds. -/
def setVariable (p : Place) (v : Value) : Act Unit := do
  match p with
  | .own i => modify fun e => { e with own := e.own.setIfInBounds i (.value v) }
  | .shared i =>
    if i == knownPlace "NF" then setFieldCount v
    else
      if i == knownPlace "FS" then split
      modify fun e => { e with shared := e.shared.setIfInBounds i (.value v) }

/-- The key that values make together. -/
def keyOf (values : List Value) : Act Key := do
  match values with
  | [.number x] =>
    if Value.isWhole x && x.abs ≤ 2147483647 then
      return { text := Value.digitsOf x, number := some (Value.toWhole x) }
    return { text := ← textOf (.number x) }
  | [v] => return { text := ← textOf v }
  | values =>
    let between ← knownText "SUBSEP"
    return { text := List.intercalate between (← values.mapM textOf) }

/-! ## Reading -/

/-- What comes to hand of a source that has no end. -/
def unfolded (s : Source) : Source :=
  if s.endless.isEmpty then s
  else { s with content := s.content ++ (List.replicate 64 s.endless).flatten }

/-- A record off the start of a source, and what is left of it. -/
def recordOff (separator : Octets) (s : Source) : Act (Option (Octets × Source)) := do
  let byByte (c : Char) : Option (Octets × Source) :=
    let s := if s.content.contains c then s else unfolded s
    if s.content.isEmpty then none
    else
      let text := s.content.takeWhile (· != c)
      some (text, { s with content := (s.content.drop text.length).drop 1 })
  match separator with
  | [c] => return byByte c
  | [] =>
    let content := s.content.dropWhile (· == '\n')
    if content.isEmpty then return none
    let lines := Text.Chars.splitOn (· == '\n') content
    let text := List.intercalate ['\n'] (lines.takeWhile (!·.isEmpty))
    return some (text, { s with content := (content.drop text.length).dropWhile (· == '\n') })
  | text =>
    let r ← searchOf text
    if s.content.isEmpty then return none
    match Search.matchesFrom (Placed.of false false r s.content) 1 0 with
    | (start, stop) :: _ =>
      return some (s.content.take start, { s with content := s.content.drop stop })
    | [] => return some (s.content, { s with content := [] })

/-- Opens a file to read from it. A dash stands for the standard input. -/
def openFile (name : Octets) : Act (Except OsError Source) := run' do
  if name == ['-'] || name == "/dev/stdin".toList then readAll 0 else readInput name

/-- The name and the value of an argument that is an assignment. -/
def assignment? (argument : Octets) : Option (Octets × Octets) :=
  let name := argument.takeWhile fun c => c.isAlphanum || c == '_'
  match argument.drop name.length with
  | '=' :: value => if Octets.isName name then some (name, Value.unescaped value) else none
  | _ => none

/-- Does what an assignment outside of the program asks for. -/
def assignName (name value : Octets) : Act Unit := do
  match (← read).program.names.lookup name with
  | some i => setVariable (.shared i) (.given value)
  | none => pure ()

/-- Reads the next record of the files among the arguments. The fuel bounds their number. -/
def mainRecord : Nat → Act (Option Octets)
  | 0 => return none
  | fuel + 1 => do
    match (← get).main with
    | .over => return none
    | .within rest argument =>
      match ← recordOff (← knownText "RS") rest with
      | some (text, rest) =>
        modify fun e => { e with main := .within rest argument }
        setKnown "NR" (.number ((← known "NR").toNumber + 1))
        setKnown "FNR" (.number ((← known "FNR").toNumber + 1))
        return some text
      | none =>
        modify fun e => { e with main := .before argument true }
        mainRecord fuel
    | .before argument named =>
      let standard : Act Unit := do
        match ← run' (readAll 0) with
        | .ok s =>
          setKnown "FNR" (.number 0)
          modify fun e => { e with main := .within s (argument + 1) }
        | .error why => fail ("read error (".toList ++ reason why ++ ")".toList)
      if (← known "ARGC").toNumber ≤ Float.ofNat argument then
        if named then
          modify fun e => { e with main := .over }
          return none
        standard
        modify fun e => match e.main with
          | .within s _ => { e with main := .within s argument }
          | _ => e
        mainRecord fuel
      else
        let key : Key := { text := Octets.ofNat argument, number := some argument }
        let found ← onTable (← arrayAt (.shared (knownPlace "ARGV"))) (·.find? key)
        let name ← textOf (found.getD .unset)
        match assignment? name with
        | some (name, value) =>
          assignName name value
          modify fun e => { e with main := .before (argument + 1) named }
          mainRecord fuel
        | none =>
          if name.isEmpty then
            modify fun e => { e with main := .before (argument + 1) named }
            mainRecord fuel
          else
            match ← openFile name with
            | .ok s =>
              setKnown "FILENAME" (.given name)
              setKnown "FNR" (.number 0)
              modify fun e => { e with main := .within s (argument + 1) }
              mainRecord fuel
            | .error .isADirectory => fail "read error (Is a directory)".toList
            | .error why =>
              fail ("cannot open \"".toList ++ name ++ "\" (".toList ++ reason why ++ ")".toList)

/-- Reads the next record, if there is one. -/
def nextRecord : Act (Option Octets) := do
  let count := Value.wholePart (← known "ARGC").toNumber
  mainRecord (2 * (min count 100000) + 4)

/-- Reads a line from a file or a command by its name. There may be no such file. -/
def lineFrom (name : Octets) (isCommand : Bool) : Act (Except OsError (Option Octets)) := do
  let e ← get
  let input : Except OsError Input ←
    match e.inputs.find? fun i => i.name == name && i.isCommand == isCommand with
    | some i => pure (.ok i)
    | none =>
      if isCommand then
        flushAll
        let (rest, status) ← commandSource name
        pure (.ok ⟨name, true, rest, status⟩)
      else
        match ← openFile name with
        | .ok rest => pure (.ok ⟨name, false, rest, 0⟩)
        | .error .isADirectory => fail "read error (Is a directory)".toList
        | .error why => pure (.error why)
  match input with
  | .error why => return .error why
  | .ok i =>
    let found ← recordOff (← knownText "RS") i.rest
    let rest := match found with
      | some (_, rest) => rest
      | none => i.rest
    let isOther (i : Input) : Bool := !(i.name == name && i.isCommand == isCommand)
    modify fun e => { e with inputs := { i with rest } :: e.inputs.filter isOther }
    return .ok (found.map (·.1))

end Act

end NotebookKernel.Shell.Tool.Records
