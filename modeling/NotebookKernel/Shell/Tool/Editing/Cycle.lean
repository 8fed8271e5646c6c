import NotebookKernel.Shell.Tool.Editing.Editor

/-! # Running a script over lines

For every line of the input the instructions of a script are gone through. At the end the pattern is
shown, then what is to be added, and the next line is read. -/

namespace NotebookKernel.Shell.Tool.Editing

open Run

/-- How it goes on behind an instruction. -/
inductive Course where
  | onward
  | jumping (target : Nat)
  /-- The rest of the script is left out for this line. -/
  | ending (shows : Bool)
  /-- The script is begun again with the pattern as it is. -/
  | again
  | quitting (shows : Bool) (status : Nat)

/-- A text as a listing shows it, in lines that are broken at a width. -/
def listing (width : Nat) (text : Octets) : Octets :=
  let step (s : Nat × List Octets) (c : Char) : Nat × List Octets :=
    let piece : Octets := match c with
      | '\\' => ['\\', '\\']
      | '\x07' => ['\\', 'a']
      | '\x08' => ['\\', 'b']
      | '\x0c' => ['\\', 'f']
      | '\n' => ['\\', 'n']
      | '\r' => ['\\', 'r']
      | '\t' => ['\\', 't']
      | '\x0b' => ['\\', 'v']
      | c => if isPrintable c then [c] else '\\' :: octal c
    if width != 0 && width - 1 < s.1 + piece.length then
      (piece.length, piece :: ['\\', '\n'] :: s.2)
    else (s.1 + piece.length, piece :: s.2)
  (text.foldl step (0, [])).2.reverse.flatten ++ ['$', '\n']

namespace Edit

/-! ## Addresses -/

/-- The expression that is meant, which is the last one if none is given. -/
def meant (sought : Option Sought) : Edit Sought := do
  match sought.or (← get).lastSought with
  | some s =>
    modify fun e => { e with lastSought := some s }
    return s
  | none =>
    abort ("-e expression #".toList ++ Octets.ofNat (← manner).expressions ++
      ", char 0: no previous regular expression".toList) 1

/-- Whether an address is one of the present line. -/
def isAt (a : Address) : Edit Bool := do
  let e ← get
  match a with
  | .line n => return e.number == n
  | .every first step => return first ≤ e.number && (e.number - first) % step == 0
  | .last => atLast
  | .matching sought =>
    let s ← meant sought
    return (Placed.of s.folds s.lines s.regex e.pattern.text).occurs

def setRange (i : Nat) (state : RangeState) : Edit Unit := modify fun e => { e with
  ranges := (i, state) :: e.ranges.filter (·.1 != i) }

/-- What became of the range of an instruction. One that begins before the first line is under way from
the start. -/
def rangeState (i : Nat) (s : Selection) : Edit RangeState := do
  match (← get).ranges.lookup i with
  | some state => return state
  | none =>
    match s.first with
    | some (.line 0) => return .active none
    | _ => return .idle

/-- Whether a range holds the present line. Between two looks at a range lines may have been passed
over: a range that begins with the line of a number then begins later, and one that goes on for some
lines ends later. -/
def isInRange (i : Nat) (s : Selection) (first : Address) (last : RangeEnd) : Edit Bool := do
  let number := (← get).number
  let finish : Edit Unit := setRange i (match first with
    | .line _ => .over
    | _ => .idle)
  match ← rangeState i s with
  | .over => return false
  | .active (some stop) =>
    if stop ≤ number then finish
    match last with
    | .address _ => return number ≤ stop
    | _ => return true
  | .active none =>
    match last with
    | .address a => if ← isAt a then finish
    | _ => pure ()
    return true
  | .idle =>
    let begins ← match first with
      | .line n => pure (decide (n ≤ number))
      | a => isAt a
    if !begins then return false
    let goOnTo (stop : Nat) : Edit Unit := do
      if number < stop then setRange i (.active (some stop)) else finish
    match first, last with
    | .line n, .address (.line stop) =>
      goOnTo stop
      return number ≤ stop || number == n
    | _, .address (.line stop) => goOnTo stop
    | _, .address (.every first step) =>
      if ← isAt (.every first step) then finish else setRange i (.active none)
    | _, .address _ => setRange i (.active none)
    | _, .further n => goOnTo (number + n)
    | _, .multiple n => goOnTo (if n == 0 then 0 else (number / n + 1) * n)
    return true

/-- Whether an instruction is for the present line. -/
def isSelected (i : Nat) (s : Selection) : Edit Bool := do
  let selected ← match s.first, s.last with
    | none, _ => pure true
    | some first, none => isAt first
    | some first, some last => isInRange i s first last
  return selected != s.negated

/-! ## Instructions -/

/-- The output of a command. -/
def outputOf (command : Octets) : Edit Octets := do
  let runner := (← manner).runner
  let captured : Run Octets := do
    let channel ← freshNumber
    let saved := (← process).descriptors
    setStream 1 (some (.channel channel))
    let _ ← runner ["sh".toList, "-c".toList, command]
    modifyProcess fun p => { p with descriptors := saved }
    written channel
  (captured : Run _)

/-- Runs the pattern as a command, and puts its output in its place. -/
def evaluate : Edit Unit := do
  let output ← outputOf (← get).pattern.text
  let text := if output.getLast? == some (← manner).delimiter then output.dropLast else output
  modify fun e => { e with pattern := { e.pattern with text } }

def substitute (s : Substitution) : Edit Unit := do
  let sought ← meant s.sought
  if sought.groups < s.greatestGroup then
    abort ("-e expression #".toList ++ Octets.ofNat (← manner).expressions ++ ", char 0: ".toList ++
      s.missingGroup) 1
  let text := (← get).pattern.text
  let placed := Placed.of sought.folds sought.lines sought.regex text
  match s.go placed (2 * text.length + 4) 0 0 none with
  | none => pure ()
  | some text =>
    modify fun e => { e with pattern := { e.pattern with text }, replaced := true }
    if s.shows then emitLine none (← get).pattern
    if s.evaluates then evaluate
    if s.showsResult then emitLine none (← get).pattern
    if s.file.isSome then emitLine s.file (← get).pattern

/-- Adds the next line of a file. -/
def addLineOf (name : Octets) : Edit Unit := do
  let rest ← match (← get).lineFiles.lookup name with
    | some rest => pure rest
    | none => addedText name
  let line := rest.takeWhile (· != (← manner).delimiter)
  let ended := line.length < rest.length
  let text := if ended then rest.take (line.length + 1) else line
  modify fun e => { e with
    lineFiles := (name, rest.drop text.length) :: e.lineFiles.filter (·.1 != name)
    additions := if text.isEmpty then e.additions else .text text :: e.additions }

/-- Does what an instruction says. -/
def act (script : Script) (i : Nat) (instruction : Instruction) : Edit Course := do
  let e ← get
  let m ← manner
  let setPattern (pattern : Line) : Edit Course := do
    modify fun e => { e with pattern }
    return .onward
  let emitted (text : Octets) : Edit Course := do
    emit none text
    return .onward
  match instruction.action with
  | .nothing => return .onward
  | .block _ => return .onward
  | .showNumber => emitted (Octets.ofNat e.number ++ ['\n'])
  | .append text =>
    modify fun e => { e with additions := .text text :: e.additions }
    return .onward
  | .insert text => emitted text
  | .change text =>
    match instruction.selection.last, ← rangeState i instruction.selection with
    | some _, .active _ => pure ()
    | _, _ => emit none text
    return .ending false
  | .jump label => return .jumping (script.target label)
  | .jumpIf wanted label =>
    modify fun e => { e with replaced := false }
    return if e.replaced == wanted then .jumping (script.target label) else .onward
  | .delete => return .ending false
  | .deleteLine =>
    let text := e.pattern.text.dropWhile (· != m.delimiter)
    if text.isEmpty then return .ending false
    let _ ← setPattern { e.pattern with text := text.drop 1 }
    return .again
  | .execute none =>
    evaluate
    return .onward
  | .execute (some command) =>
    let output ← outputOf command
    emitted output
  | .showName => emitted (e.file ++ ['\n'])
  | .get false => setPattern e.hold
  | .get true => setPattern { e.hold with text := e.pattern.text ++ m.delimiter :: e.hold.text }
  | .hold false =>
    set { e with hold := e.pattern }
    return .onward
  | .hold true =>
    set { e with hold := { e.pattern with text := e.hold.text ++ m.delimiter :: e.pattern.text } }
    return .onward
  | .exchange =>
    set { e with hold := e.pattern, pattern := e.hold }
    return .onward
  | .list width => emitted (listing (width.getD m.width) e.pattern.text)
  | .next =>
    if ← atLast then return .ending true
    showUnlessSilent
    return if ← advance false then .onward else .quitting false 0
  | .nextToo =>
    if ← atLast then return .ending true
    return if ← advance true then .onward else .quitting false 0
  | .show =>
    emitLine none e.pattern
    return .onward
  | .showLine =>
    emitLine none (← firstLine)
    return .onward
  | .quit shows status => return .quitting shows status
  | .insertFile name =>
    modify fun e => { e with additions := .file name :: e.additions }
    return .onward
  | .insertLineOf name =>
    addLineOf name
    return .onward
  | .substitute s =>
    substitute s
    return .onward
  | .translate table =>
    setPattern { e.pattern with text := e.pattern.text.map fun c => (table.lookup c).getD c }
  | .write name =>
    emitLine (some name) e.pattern
    return .onward
  | .writeLine name =>
    emitLine (some name) (← firstLine)
    return .onward
  | .clear => setPattern { e.pattern with text := [] }

/-- How many lines of an endless input are gone through before the output is taken to go on as it was
for the last of them. -/
def enoughLines : Nat := 2000

/-- Whether the output goes on in the same way, since the input does. -/
def goesOn : Edit Bool := do
  match (← get).input with
  | .lines s => return !s.endless.isEmpty && enoughLines < (← get).number
  | _ => return false

/-- What never ends. -/
def endlessly : Edit Unit := do
  (sleepUntil ((← (world : Run _)).deadline + 1) : Run Unit)

/-- How much may be done before a script is taken to have no end. -/
def maxWork : Nat := 10000000

/-- Counts how much is done by an instruction. -/
def countWork (action : Action) : Edit Unit := do
  let e ← get
  let length := e.pattern.text.length
  let searching := match action with
    | .substitute _ => (length / 10) * (length / 10)
    | _ => 0
  let work := e.work + 20 + length / 64 + searching
  set { e with work }
  if maxWork < work || 4 * maxWork < 10 * length then endlessly

/-- Runs a script from an instruction on, up to the end of the input, and gives the status. The fuel
bounds the number of instructions. -/
def runFrom (script : Script) : Nat → Nat → Edit Nat
  | 0, _ => do
    endlessly
    return 0
  | fuel + 1, i => do
    let newCycle (shows : Bool) : Edit Bool := do
      if shows then showUnlessSilent
      if ← goesOn then
        release
        let recent := (← get).recent.reverse.flatten
        (writeEndless 1 recent : Run Unit)
        return false
      modify fun e => { e with recent := [] }
      advance false
    let course ← match script.instructions[i]? with
      | none => pure (.ending true)
      | some instruction =>
        countWork instruction.action
        if ← isSelected i instruction.selection then act script i instruction
        else match instruction.action with
          | .block stop => pure (.jumping stop)
          | _ => pure .onward
    match course with
    | .onward => runFrom script fuel (i + 1)
    | .jumping target => runFrom script fuel target
    | .again => runFrom script fuel 0
    | .ending shows =>
      if ← newCycle shows then runFrom script fuel 0 else return (← get).status
    | .quitting shows status =>
      if shows then
        showUnlessSilent
        flush
        endLine none
      let failed := (← get).status
      return if status == 0 then failed else status

/-- Runs a script over all lines. -/
def runScript (script : Script) : Edit Nat := do
  if !(← advance false) then return (← get).status
  let status ← runFrom script maxWork 0
  close
  release
  return status

end Edit

end NotebookKernel.Shell.Tool.Editing
