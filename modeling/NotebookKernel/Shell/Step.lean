import NotebookKernel.Shell.Builtin
import NotebookKernel.Shell.Expansion
import NotebookKernel.Shell.Grammar
import NotebookKernel.Shell.Tool

/-! # Steps of a shell

What a shell does apart from running the commands of a script: it starts processes and waits for
them, looks up parameters, opens files and reads how it was called. -/

namespace NotebookKernel.Shell

open Run Builtin

namespace Run

def setStatus (status : Nat) : Run Unit := modifyProcess fun p => { p with status }

def setLine (line : Nat) : Run Unit := modifyProcess fun p => { p with line }

def setDescriptors (descriptors : List (Nat × Stream)) : Run Unit :=
  modifyProcess fun p => { p with descriptors }

/-- Goes past every deadline. -/
def exhaust {α : Type} : Run α := do
  sleepUntil ((← world).deadline + 1)
  throw .overdue

/-- Does something at the end, whatever comes before. -/
def andFinally {α : Type} (body : Run α) (cleanup : Run Unit) : Run α := do
  let a ← tryCatch body fun stop => do
    cleanup
    throw stop
  cleanup
  return a

/-- Does something on behalf of a speaker whom complaints name. -/
def speakAs (speaker : Octets) (body : Run Unit) : Run Unit := do
  let old := (← process).speaker
  modifyProcess fun p => { p with speaker }
  andFinally body (modifyProcess fun p => { p with speaker := old })

/-- Gets a signal, which may be dealt with later or be the end. -/
def receive (signal : Nat) : Run Unit := do
  let p ← process
  if signal == 0 then return
  match if signal == 9 then none else p.traps.lookup (Octets.ofNat signal) with
  | some action =>
    if !action.isEmpty then modifyProcess fun p => { p with pending := p.pending ++ [signal] }
  | none => if !harmlessSignals.contains signal then throw (.killed signal)

/-- Gets a signal that was sent by another process, if this is the process that it was sent to. -/
def checkSignal : Run Unit := do
  let p ← process
  match (← world).signal with
  | some signal =>
    if p.number == p.shellNumber then
      modifyWorld fun w => { w with signal := none }
      receive signal
  | none => pure ()

/-- How deeply functions may call one another. -/
def maxFunctions : Nat := 1000

/-- The time that a new process takes. -/
def startTime : Nat := 1000000

/-- The time that a command of the shell takes. -/
def commandTime : Nat := 20000

/-- The time that a round of a loop takes. -/
def roundTime : Nat := 200000

/-- Sends a signal to processes, or tells about signals. -/
def sendSignals (arguments : List Octets) : Run Nat := do
  match ← readKilling arguments with
  | .listAll => listSignals
  | .tell status => tellSignal status
  | .send signal targets =>
    let p ← process
    let mut result := 0
    for target in targets do
      let n ← if target.head? == some '%' then do pure (← findJob target).process
        else number target
      if n == p.shellNumber then
        if p.number == n then receive signal
        else modifyWorld fun w => { w with signal := some signal }
      else match p.jobs.find? (·.process == n) with
        | some job =>
          let time ← now
          if time < job.ends && !harmlessSignals.contains signal then
            modifyProcess fun p => { p with jobs := p.jobs.map fun j =>
              if j.process == n then ⟨n, time, 128 + signal⟩ else j }
            modifyWorld fun w => { w with
              holders := w.holders.map fun h =>
                if n ≤ h.process then { h with ends := min h.ends time } else h
              writings := w.writings.filter fun x => x.time ≤ time }
        | none =>
          complainHere "No such process\n".toList
          result := 1
    return result

/-- Runs a process to its end. What it changes of itself is lost. -/
def fork (prepare : Process → Process) (body : Run Unit) : Run Ended := do
  let saved ← process
  let number ← freshNumber
  modifyProcess fun p => prepare { p with
    number, jobs := [], pending := [], traps := p.traps.filter (·.2.isEmpty) }
  let finish : Run Ended := return .exited ((← process).status % 256)
  let ended ← tryCatch (body *> finish) fun
    | .exited status => return .exited (status % 256)
    | .refused => return .exited 2
    | .returned status => return .exited (status % 256)
    | .killed signal => return .killed signal
    | .left _ => finish
    | .repeated _ => finish
    | .overdue => throw .overdue
  noteHolding
  modifyProcess fun _ => saved
  checkSignal
  return ended

/-- Tells of the signal that a process died of. -/
def report (ended : Ended) : Run Unit := do
  match ended with
  | .exited _ => pure ()
  | .killed signal => tellDeath signal

/-- Ends the shell after a failure, if that is asked for and the failure was not asked about. -/
def checkFailure (tested : Bool) : Run Unit := do
  let p ← process
  if p.status != 0 && p.switches.has .exitOnFailure && !tested then throw (.exited p.status)

/-- The arguments joined by the first separator. -/
def joinedArguments : Run Octets := do
  let separators := (← valueOf? "IFS".toList).getD [' ']
  return List.intercalate (separators.take 1) (← process).arguments

/-- The value of a parameter other than `@` and `*`. -/
def parameter? (name : Octets) : Run (Option Octets) := do
  let p ← process
  match name with
  | ['?'] => return some (Octets.ofNat p.status)
  | ['$'] => return some (Octets.ofNat p.shellNumber)
  | ['!'] => return p.lastJob.map Octets.ofNat
  | ['#'] => return some (Octets.ofNat p.arguments.length)
  | ['-'] => return some p.switches.letters
  | ['0'] => return some p.name
  | name =>
    match Octets.digitsValue? name with
    | some n => return p.arguments[n - 1]?
    | none => valueOf? name

/-- Text in place of a tilde with a user, where the user is known. -/
def homeOf (user : Octets) : Run (Option Octets) := do
  if user.isEmpty then valueOf? "HOME".toList
  else return if user == "root".toList then some "/root".toList else none

/-- Replaces the tildes at the starts of the parts of a text between colons. A tilde in the last part
counts only if the word ends there. -/
def expandTildes (ends : Bool) : List Octets → Run (List Piece)
  | [] => return []
  | part :: rest => do
    let separator : List Piece := if rest.isEmpty then [] else [.text [':'] false]
    let plain : List Piece := [.text part false]
    let pieces ← match part with
      | '~' :: after => do
        let user := after.takeWhile (· != '/')
        let path := after.drop user.length
        if path.isEmpty && rest.isEmpty && !ends then pure plain
        else match ← homeOf user with
          | some home => pure [.text home true, .text path false]
          | none => pure plain
      | _ => pure plain
    return pieces ++ separator ++ (← expandTildes ends rest)

/-- Replaces the tildes in the value of an assignment. -/
def expandValueTildes (first : Bool) : Word → Run Word
  | [] => return []
  | .text content false :: rest => do
    let parts := Text.Chars.splitOn (· == ':') content
    let pieces ← if first then expandTildes rest.isEmpty parts else do
      let after ← expandTildes rest.isEmpty parts.tail
      pure (.text (parts.headD []) false :: (if parts.tail.isEmpty then [] else .text [':'] false :: after))
    return pieces ++ (← expandValueTildes false rest)
  | piece :: rest => return piece :: (← expandValueTildes false rest)

/-- Replaces a tilde at the start of a word. -/
def expandTilde (w : Word) : Run Word := do
  match w with
  | .text ('~' :: after) false :: rest =>
    let user := after.takeWhile (· != '/')
    let path := after.drop user.length
    if path.isEmpty && !rest.isEmpty then return w
    match ← homeOf user with
    | some home => return .text home true :: .text path false :: rest
    | none => return w
  | w => return w

/-- Why a file cannot be opened or made, in the words of the shell. -/
def openReason (creating : Bool) (e : OsError) : Octets :=
  match e with
  | .notFound | .notADirectory => (if creating then "Directory nonexistent" else "No such file").toList
  | e => reason e

/-- Why a program cannot be run, in the words of the shell. -/
def execReason (e : OsError) : Octets :=
  match e with
  | .notFound | .notADirectory => "not found".toList
  | e => reason e

/-- The status of a shell that could not turn into a program. -/
def execStatus (e : OsError) : Nat :=
  if [.notFound, .notADirectory, .tooManyLinks, .nameTooLong].contains e then 127 else 126

/-- The whole standard input. What cannot be read counts as empty. -/
def inputText : Run Octets := do
  match ← readAll 0 with
  | .ok s => return s.content
  | .error _ => return []

/-- Opens what lies at a place. -/
def openEntry (place : Location) (e : Entry) (direction : Direction) : Run Stream := do
  match e with
  | .device kind => return .device kind
  | .tool => addSource ⟨Octets.ofBytes FileTree.programHeader, [], 0⟩
  | _ =>
    let number ← freshNumber
    setOpenFile number {
      place, offset := 0
      appends := direction == .append
      readable := direction == .read || direction == .readWrite
      writable := direction != .read }
    return .file number

/-- Makes a file ready to be written, or creates it. -/
def prepareFile (path : Octets) (direction : Direction) : Run (Except OsError FileTree) := do
  let p ← process
  let t ← tree
  match t.find true p.directory (pathOf path) with
  | .ok (_, .file content mode) =>
    if direction == .write && p.switches.has .noClobber then return .error .alreadyExists
    if direction == .readWrite && !mode.mayRead then return .error .permissionDenied
    let kept := if direction == .write || direction == .clobber then [] else content
    return t.writeFile p.directory (pathOf path) kept
  | _ => return t.writeFile p.directory (pathOf path) [] (Mode.masked 0o666 p.umask)

/-- Opens a descriptor on the file of a redirection. -/
def openFile (descriptor : Nat) (direction : Direction) (path : Octets) : Run Bool := do
  match Tool.deviceDescriptor? path with
  | some source =>
    setStream descriptor (← stream? source)
    return true
  | none =>
    let reading := direction == .read
    let opened : Except OsError (Location × Entry) ← do
      let p ← process
      if reading then
        match ← find path true with
        | .ok (place, e) =>
          pure (if e.mode.mayRead then .ok (place, e) else .error .permissionDenied)
        | .error e => pure (.error e)
      else match ← prepareFile path direction with
        | .ok t =>
          setTree t
          pure (t.find true p.directory (pathOf path))
        | .error e => pure (.error e)
    match opened with
    | .ok (place, e) =>
      setStream descriptor (some (← openEntry place e direction))
      return true
    | .error e =>
      complainHere ((if reading then "cannot open " else "cannot create ").toList ++ path ++
        ": ".toList ++ openReason (!reading) e)
      return false

end Run

/-- The variables that a shell has from the start. -/
def initialVariables (number : Nat) : List Variable :=
  let plain (name value : String) : Variable := ⟨name.toList, some value.toList, false, false⟩
  [plain "IFS" " \t\n", plain "OPTIND" "1",
    plain "PATH" "/usr/local/sbin:/usr/local/bin:/usr/sbin:/usr/bin:/sbin:/bin",
    plain "PS1" "# ", plain "PS2" "> ", plain "PS4" "+ ",
    ⟨"PPID".toList, some (Octets.ofNat (number - 1)), false, false⟩]

/-- The switches and operands that a shell is called with. -/
structure Invocation where
  fromArgument : Bool := false
  switches : Switches := {}
  operands : List Octets := []

/-- Puts the switch of a letter. Some letters are for the call alone. -/
def Invocation.putLetter (on : Bool) (i : Invocation) (letter : Char) : Except Octets Invocation :=
  if letter == 'c' then .ok { i with fromArgument := true }
  else if letter == 'l' then .ok i
  else match Switch.ofLetter? letter with
    | some switch => .ok { i with switches := i.switches.put on switch }
    | none => .error ("Illegal option -".toList ++ [letter])

/-- Reads how a shell is called. -/
def readInvocation (i : Invocation) : List Octets → Except Octets Invocation
  | [] => .ok i
  | word :: rest =>
    match word with
    | ['-'] | ['-', '-'] => .ok { i with operands := rest }
    | [sign, 'o'] =>
      if sign != '-' && sign != '+' then .ok { i with operands := word :: rest }
      else match rest with
      | name :: rest =>
        match Switch.ofName? name with
        | some switch => readInvocation { i with switches := i.switches.put (sign == '-') switch } rest
        | none => .error ("Illegal option -o ".toList ++ name)
      | [] => .ok i
    | sign :: letters =>
      if sign != '-' && sign != '+' then .ok { i with operands := word :: rest }
      else match letters.foldlM (Invocation.putLetter (sign == '-')) i with
        | .ok i => readInvocation i rest
        | .error why => .error why
    | [] => .ok { i with operands := word :: rest }

end NotebookKernel.Shell
