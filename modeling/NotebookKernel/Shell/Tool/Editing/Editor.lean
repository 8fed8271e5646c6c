import NotebookKernel.Shell.Tool.Editing.Instruction
import NotebookKernel.Shell.Tool.Flow

/-! # The state of an editor

An editor reads its input line by line, over the ends of its files, and looks ahead where it has to
know whether a line is the last one. What it writes goes to the standard output, to files of a name, or
into the file that is edited in place. -/

namespace NotebookKernel.Shell.Tool.Editing

open Run

/-- How a script is run. -/
structure Manner where
  /-- Whether a line is shown only if the script says so. -/
  silent : Bool := false
  /-- Whether lines are counted in each file anew. -/
  separate : Bool := false
  /-- For files that are edited in place, what old ones are called. -/
  backup : Option Octets := none
  /-- Whether the file behind a link is edited, and not put in the place of the link. -/
  followsLinks : Bool := false
  delimiter : Char := '\n'
  /-- How long the lines of a listing may be. -/
  width : Nat := 70
  /-- How many expressions the script was given in. -/
  expressions : Nat := 0
  runner : Runner

/-- A line, and whether it has an end. -/
structure Line where
  text : Octets := []
  ended : Bool := true

/-- What is written behind the present line. -/
inductive Addition where
  | text (t : Octets)
  | file (name : Octets)

/-- What became of a range of lines. -/
inductive RangeState where
  | idle
  /-- It goes on, up to a line if that is known. -/
  | active (stop : Option Nat)
  /-- It is over, and does not begin again since its first line is known by its number. -/
  | over

/-- The input that is open. -/
inductive OpenInput where
  | nothing
  | lines (s : Source)
  | unreadable (why : OsError)

structure Editor where
  pattern : Line := {}
  hold : Line := {}
  /-- The number of the line that was last read. -/
  number : Nat := 0
  /-- The files that are still to be read. -/
  files : List Octets
  /-- The file that was last opened. -/
  file : Octets := ['-']
  input : OpenInput := .nothing
  /-- The standard input as it was when it was opened. -/
  standard : Option Source := none
  ranges : List (Nat × RangeState) := []
  /-- Whether something was replaced since a line was read. -/
  replaced : Bool := false
  /-- What is to be added, the last first. -/
  additions : List Addition := []
  /-- The outputs whose last line has no end yet. The main output has no name. -/
  openEnded : List (Option Octets) := []
  lastSought : Option Sought := none
  /-- The rest of files that are added line by line. -/
  lineFiles : List (Octets × Octets) := []
  /-- What becomes of the file that is edited in place, in reverse. -/
  edited : List Octets := []
  /-- What is to be written to the standard output at the end, in reverse. -/
  shown : List Octets := []
  /-- What was shown since the last line was read, in reverse. -/
  recent : List Octets := []
  /-- How much was done so far. -/
  work : Nat := 0
  status : Nat := 0

/-- A step of an editor. -/
abbrev Edit := ReaderT Manner (StateT Editor Run)

namespace Edit

def manner : Edit Manner := read

/-! ## Output -/

/-- Writes everything that was shown. Complaints come before it. -/
def release : Edit Unit := do
  let shown := (← get).shown.reverse.flatten
  modify fun e => { e with shown := [] }
  (put shown : Run Unit)

/-- Complains and gives up. -/
def abort {α : Type} (text : Octets) (status : Nat) : Edit α := do
  (complainOf text : Run Unit)
  release
  throwThe Stop (.exited status)

/-- Writes to an output. -/
def writeTo (outlet : Option Octets) (text : Octets) : Edit Unit := do
  match outlet with
  | some name =>
    if name == "/dev/stdout".toList then modify fun e => { e with shown := text :: e.shown }
    else if name == "/dev/stderr".toList then
      let _ ← (write 2 text : Run _)
    else
      let _ ← (fill name true text : Run _)
  | none =>
    if (← manner).backup.isSome then modify fun e => { e with edited := text :: e.edited }
    else modify fun e => { e with shown := text :: e.shown, recent := text :: e.recent }

/-- Ends the last line of an output. -/
def endLine (outlet : Option Octets) : Edit Unit := do
  if (← get).openEnded.contains outlet then
    modify fun e => { e with openEnded := e.openEnded.filter (· != outlet) }
    writeTo outlet [(← manner).delimiter]

/-- Writes text on lines of its own. -/
def emit (outlet : Option Octets) (text : Octets) : Edit Unit := do
  endLine outlet
  writeTo outlet text

/-- Writes a line, whose end may be left open. -/
def emitLine (outlet : Option Octets) (line : Line) : Edit Unit := do
  let delimiter := (← manner).delimiter
  emit outlet (if line.ended then line.text ++ [delimiter] else line.text)
  if !line.ended then modify fun e => { e with openEnded := outlet :: e.openEnded }

/-- The first line of the pattern. -/
def firstLine : Edit Line := do
  let pattern := (← get).pattern
  let delimiter := (← manner).delimiter
  let first := pattern.text.takeWhile (· != delimiter)
  return if first.length == pattern.text.length then pattern else ⟨first, true⟩

/-- Shows the pattern, unless lines are shown only if the script says so. -/
def showUnlessSilent : Edit Unit := do
  if !(← manner).silent then emitLine none (← get).pattern

/-- What can be read from a file that is added, if anything can. -/
def addedText (name : Octets) : Edit Octets := do
  match ← (if (deviceDescriptor? name).isSome then readInput name else fileSource name : Run _) with
  | .ok s => (wholeOf s : Run _)
  | .error .isADirectory =>
    abort ("read error on ".toList ++ name ++ ": Is a directory".toList) 4
  | .error _ => return []

/-- Writes what is to be added. -/
def flush : Edit Unit := do
  let additions := (← get).additions.reverse
  modify fun e => { e with additions := [] }
  for addition in additions do
    match addition with
    | .text t => emit none t
    | .file name =>
      endLine none
      writeTo none (← addedText name)

/-! ## Input -/

/-- The path of an old file that is kept. Stars stand for the name of the file. -/
def backupPath (file suffix : Octets) : Octets :=
  let name := lastName file
  let kept := if suffix.contains '*' then suffix.flatMap fun c => if c == '*' then name else [c]
    else name ++ suffix
  if kept.contains '/' || !file.contains '/' then kept else file.take (file.length - name.length) ++ kept

/-- Gives a file what was made of it. -/
def replaceFile (file suffix : Octets) : Edit Unit := do
  let content := (← get).edited.reverse.flatten
  modify fun e => { e with edited := [], openEnded := e.openEnded.filter Option.isSome }
  match ← (find file (← manner).followsLinks : Run _), ← (find file true : Run _) with
  | .ok (place, old), .ok (_, entry) =>
    if !suffix.isEmpty then
      let t ← (tree : Run _)
      match t.locate false (← (process : Run _)).directory (pathOf (backupPath file suffix)) with
      | .ok backup => (setTree (t.insert backup old) : Run Unit)
      | .error why =>
        abort ("cannot rename ".toList ++ file ++ ": ".toList ++ reason why) 4
    let t ← (tree : Run _)
    (setTree (t.insert place (.file (Octets.toBytes content) entry.mode)) : Run Unit)
  | _, _ => pure ()

/-- Closes the input, with what was read of it. -/
def close : Edit Unit := do
  let e ← get
  match e.input, (← manner).backup with
  | .lines _, some suffix => replaceFile e.file suffix
  | .lines rest, none =>
    if let some s := e.standard then
      if rest.content.isEmpty then (setSource 0 rest : Run Unit)
      else (leaveUnread s (s.content.length - rest.content.length) : Run Unit)
  | _, _ => pure ()
  modify fun e => { e with input := .nothing, standard := none }

/-- Opens the next file, if there is one. -/
def openNext : Edit Bool := do
  let e ← get
  let m ← manner
  match e.files with
  | [] => return false
  | file :: files =>
    set { e with files, file }
    if m.separate then modify fun e => { e with
      number := 0, hold := {}, ranges := [], lineFiles := [] }
    if file == ['-'] && m.backup.isNone then
      match ← (source 0 : Run _) with
      | .ok s => modify fun e => { e with input := .lines s, standard := some s }
      | .error why => modify fun e => { e with input := .unreadable why, file := "stdin".toList }
    else
      let opened ← (if m.backup.isNone then readInput file else fileSource file : Run _)
      match opened, m.backup with
      | .error .isADirectory, none =>
        modify fun e => { e with input := .unreadable .isADirectory }
      | .error .isADirectory, some _ =>
        (complainOf ("couldn't edit ".toList ++ file ++ ": not a regular file".toList) : Run Unit)
        modify fun e => { e with status := 4 }
      | .error why, _ =>
        (complainOf ("can't read ".toList ++ file ++ ": ".toList ++ reason why) : Run Unit)
        modify fun e => { e with status := 2 }
      | .ok s, _ => modify fun e => { e with input := .lines s }
    return true

/-- Goes on to the next file that has anything in it. The fuel bounds the number of files. -/
def skipEmpty : Nat → Edit Bool
  | 0 => return false
  | fuel + 1 => do
    match (← get).input with
    | .lines s =>
      if !(s.content.isEmpty && s.endless.isEmpty) then return true
    | _ => pure ()
    close
    if ← openNext then skipEmpty fuel else return false

/-- Whether the present line is the last one. -/
def atLast : Edit Bool := do
  let e ← get
  match e.input with
  | .lines s =>
    if !(s.content.isEmpty && s.endless.isEmpty) then return false
  | _ => pure ()
  if (← manner).separate then return true
  return !(← skipEmpty (e.files.length + 1))

/-- Takes a line off a source. -/
def takeLine (s : Source) : Edit Line := do
  let delimiter := (← manner).delimiter
  let s ← if s.content.contains delimiter || s.endless.isEmpty then pure s
    else if s.endless.contains delimiter then
      pure { s with content := s.content ++ ((List.replicate 64 s.endless).flatten) }
    else
      (sleepUntil ((← (world : Run _)).deadline + 1) : Run Unit)
      pure s
  let text := s.content.takeWhile (· != delimiter)
  let rest := s.content.drop text.length
  modify fun e => { e with input := .lines { s with content := rest.drop 1 } }
  return ⟨text, !rest.isEmpty⟩

/-- Reads the next line into the pattern, behind what is there or in its place. The fuel bounds the
number of files. -/
def readLine (adding : Bool) : Nat → Edit Bool
  | 0 => return false
  | fuel + 1 => do
    match (← get).input with
    | .unreadable why =>
      abort ("read error on ".toList ++ (← get).file ++ ": ".toList ++ reason why) 4
    | .nothing => if ← openNext then readLine adding fuel else return false
    | .lines s =>
      if s.content.isEmpty && s.endless.isEmpty then
        close
        readLine adding fuel
      else
        let line ← takeLine s
        let delimiter := (← manner).delimiter
        modify fun e => { e with
          number := e.number + 1
          pattern :=
            if adding then { line with text := e.pattern.text ++ delimiter :: line.text } else line }
        return true

/-- Goes on to the next line. -/
def advance (adding : Bool) : Edit Bool := do
  flush
  modify fun e => { e with replaced := false }
  readLine adding (2 * (← get).files.length + 3)

end Edit

end NotebookKernel.Shell.Tool.Editing
