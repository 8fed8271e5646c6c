import NotebookKernel.Machine.Program
import NotebookKernel.Machine.Basic
import NotebookKernel.Shell.Script
import NotebookKernel.Shell.Switch

/-! # Processes of the machine in memory

A process runs on a machine with a clock. Everything that is written is noted with its time, so that
processes which run side by side can be run one after the other: the clock is set back for the
second, and what both wrote to one channel is put in order afterwards. -/

namespace NotebookKernel.Shell

/-- What a process can read. -/
structure Source where
  content : Octets
  /-- What follows the content over and over, if anything does. -/
  endless : Octets
  /-- When all of it is there. -/
  ready : Nat

/-- What a descriptor is open on. -/
inductive Stream where
  | device (kind : Device)
  /-- The source of a number. -/
  | source (number : Nat)
  /-- The channel of a number. -/
  | channel (number : Nat)
  /-- The open file of a number. -/
  | file (number : Nat)
  deriving DecidableEq

/-- A file that was opened, and up to where it was read or written since. -/
structure OpenFile where
  place : Location
  offset : Nat
  /-- Everything is written at the end. -/
  appends : Bool
  readable : Bool
  writable : Bool

/-- A piece of what was written to a channel. -/
structure Writing where
  channel : Nat
  time : Nat
  content : Octets

/-- A process that may write to a channel up to some time. -/
structure Holder where
  channel : Nat
  process : Nat
  ends : Nat

/-- The machine with all that its processes share. -/
structure World where
  machine : Machine
  /-- When the processes are killed. -/
  deadline : Nat
  sources : List (Nat × Source)
  files : List (Nat × OpenFile)
  /-- What was written, the last first. -/
  writings : List Writing
  /-- The channels that another process reads from while they are written to. -/
  pipes : List Nat
  /-- What is written to a channel over and over. -/
  endless : List (Nat × Octets)
  holders : List Holder
  /-- The next number for a source, a channel or a process. -/
  count : Nat
  /-- A signal that was sent to the first process while another one ran. -/
  signal : Option Nat

structure Variable where
  name : Octets
  value : Option Octets
  exported : Bool
  readOnly : Bool

/-- A process that runs in the background. -/
structure Job where
  process : Nat
  ends : Nat
  status : Nat
  deriving BEq

/-- What a function gives back when it is left. -/
structure Frame where
  saved : List Variable := []
  switches : Option Switches := none

/-- How far the options among arguments were gone through: the word that comes next, and the place
inside of the word before it where options are still left. -/
structure OptionPlace where
  index : Nat := 1
  offset : Option Nat := none

/-- A process, with what a shell keeps in it. -/
structure Process where
  number : Nat
  /-- The number of the process that the script is run by. -/
  shellNumber : Nat
  /-- What the script is called, and the arguments it was given. -/
  name : Octets
  arguments : List Octets
  vars : List Variable
  functions : List (Octets × Command)
  documents : List (Nat × Word)
  documentCount : Nat
  descriptors : List (Nat × Stream)
  /-- The directory that relative paths are seen from. -/
  directory : Location
  /-- The path by which the directory was entered. -/
  directoryName : Octets
  line : Nat
  status : Nat
  /-- The status of the last substitution in the command that is run. -/
  substituted : Nat := 0
  /-- The process that was last put into the background. -/
  lastJob : Option Nat := none
  jobs : List Job := []
  switches : Switches := {}
  /-- What complaints name besides the script, with a colon and a blank. -/
  speaker : Octets := []
  umask : Nat
  /-- What is done on a signal. -/
  traps : List (Octets × Octets) := []
  /-- The signals that came and are still to be dealt with. -/
  pending : List Nat := []
  /-- The functions under way, the innermost first. -/
  frames : List Frame := []
  /-- How many loops are under way. -/
  loops : Nat := 0
  aliases : List (Octets × Octets) := []
  /-- Where programs were found on the search path. -/
  found : List (Octets × Octets) := []
  optionPlace : OptionPlace := {}
  /-- The limits that were set, by their letters. -/
  limits : List (Char × Option Nat) := []
  /-- Why something could not be written to the standard output, which programs tell at their end. -/
  outputFault : Option OsError := none
  /-- How much the process gives way to others. -/
  niceness : Int := 0

namespace Process

/-- How many bytes a file may have that the process writes to. The limit is counted in blocks. -/
def fileSizeLimit? (p : Process) : Option Nat := (p.limits.lookup 'f').join.map (512 * ·)

/-- As much of a content as the process may write to a file from an offset on. -/
def allowed {α : Type} (p : Process) (offset : Nat) (content : List α) : List α :=
  match p.fileSizeLimit? with
  | some limit => content.take (limit - offset)
  | none => content

/-- Whether nothing is done on a signal. -/
def ignores (p : Process) (signal : Nat) : Bool := p.traps.lookup (Octets.ofNat signal) == some []

end Process

/-- The signal to a process that writes more to a file than it may. -/
def fileSizeSignal : Nat := 25

/-- Why a process does not go on. -/
inductive Stop where
  | exited (status : Nat)
  /-- A command was refused, which ends the shell unless the command is a regular one. -/
  | refused
  | killed (signal : Nat)
  /-- It would have gone on past the time when it is killed. -/
  | overdue
  | left (loops : Nat)
  | repeated (loops : Nat)
  | returned (status : Nat)

/-- How a process came to its end. -/
inductive Ended where
  | exited (status : Nat)
  | killed (signal : Nat)

def Ended.status : Ended → Nat
  | .exited status => status
  | .killed signal => 128 + signal

structure Running where
  world : World
  process : Process

/-- A step of a process. -/
abbrev Run := EStateM Stop Running

namespace Run

def world : Run World := return (← get).world

def process : Run Process := return (← get).process

def modifyWorld (f : World → World) : Run Unit := modify fun r => { r with world := f r.world }

def modifyProcess (f : Process → Process) : Run Unit :=
  modify fun r => { r with process := f r.process }

def tree : Run FileTree := return (← world).machine.tree

def setTree (tree : FileTree) : Run Unit :=
  modifyWorld fun w => { w with machine := { w.machine with tree } }

def now : Run Nat := return (← world).machine.clock

def setClock (clock : Nat) : Run Unit :=
  modifyWorld fun w => { w with machine := { w.machine with clock } }

/-- Goes on at a time that is not before the present one. -/
def sleepUntil (time : Nat) : Run Unit := do
  let w ← world
  setClock (max time w.machine.clock)
  if w.deadline < time then throw .overdue

/-- Takes some nanoseconds. -/
def spend (nanos : Nat) : Run Unit := do sleepUntil ((← now) + nanos)

/-- A number that was not given out before. -/
def freshNumber : Run Nat := do
  let n := (← world).count
  modifyWorld fun w => { w with count := n + 1 }
  return n

/-! ## Descriptors -/

def stream? (descriptor : Nat) : Run (Option Stream) :=
  return (← process).descriptors.lookup descriptor

/-- Opens a descriptor on a stream, or closes it. -/
def setStream (descriptor : Nat) (stream : Option Stream) : Run Unit := modifyProcess fun p =>
  let others := p.descriptors.filter (·.1 != descriptor)
  { p with descriptors := match stream with
      | some stream => (descriptor, stream) :: others
      | none => others }

/-- Notes that the process may have written to its channels up to now. -/
def noteHolding : Run Unit := do
  let time ← now
  let p ← process
  let channels := p.descriptors.filterMap fun d => match d.2 with
    | .channel n => some n
    | _ => none
  modifyWorld fun w => { w with
    holders := channels.map (fun channel => ⟨channel, p.number, time⟩) ++ w.holders }

def openFile? (number : Nat) : Run (Option OpenFile) := return (← world).files.lookup number

def setOpenFile (number : Nat) (f : OpenFile) : Run Unit := modifyWorld fun w =>
  { w with files := (number, f) :: w.files.filter (·.1 != number) }

/-- Puts bytes into a text in the place of others, from an offset on. -/
def overwrite (old : Bytes) (offset : Nat) (new : Bytes) : Bytes :=
  old.take offset ++ List.replicate (offset - old.length) 0 ++ new ++ old.drop (offset + new.length)

/-- Writes to an open file, as far as the file may grow. -/
def writeToFile (number : Nat) (content : Octets) : Run (Except OsError Unit) := do
  match ← openFile? number with
  | none => return .error .badDescriptor
  | some f =>
    if !f.writable then return .error .badDescriptor
    let t ← tree
    match t.get? f.place with
    | some (.file old mode) =>
      let offset := if f.appends then old.length else f.offset
      let p ← process
      let allowed := p.allowed offset content
      let new := overwrite old offset (Octets.toBytes allowed)
      setTree (t.insert f.place (.file new mode))
      setOpenFile number { f with offset := offset + allowed.length }
      if allowed.length < content.length then
        if p.ignores fileSizeSignal then return .error .fileTooLarge
        else throw (.killed fileSizeSignal)
    | _ => pure ()
    return .ok ()

/-- Writes to a stream, unless it cannot be written to. -/
def writeTo (stream : Stream) (content : Octets) : Run (Except OsError Unit) := do
  if content.isEmpty then return .ok ()
  match stream with
  | .device .full => return .error .noSpace
  | .device _ => return .ok ()
  | .source _ => return .error .badDescriptor
  | .channel channel =>
    let time ← now
    modifyWorld fun w => { w with writings := ⟨channel, time, content⟩ :: w.writings }
    return .ok ()
  | .file number => writeToFile number content

/-- Writes to a descriptor, unless it is closed. -/
def write (descriptor : Nat) (content : Octets) : Run (Except OsError Unit) := do
  match ← stream? descriptor with
  | some stream => writeTo stream content
  | none => return if content.isEmpty then .ok () else .error .badDescriptor

/-- Writes something over and over, which ends only if the reader of a pipe ends it. -/
def writeEndless (descriptor : Nat) (content : Octets) : Run Unit := do
  let w ← world
  match ← stream? descriptor with
  | some (.channel n) =>
    if w.pipes.contains n then
      modifyWorld fun w => { w with endless := (n, content) :: w.endless }
    else sleepUntil (w.deadline + 1)
  | _ => sleepUntil (w.deadline + 1)

def complain (text : Octets) : Run Unit := do
  let _ ← write 2 (text ++ ['\n'])

/-- Everything that was written to a channel, in the order of time. -/
def written (channel : Nat) : Run Octets := do
  let own := (← world).writings.reverse.filter (·.channel == channel)
  return (own.mergeSort fun a b => a.time ≤ b.time).flatMap (·.content)

/-- A new source. -/
def addSource (source : Source) : Run Stream := do
  let n ← freshNumber
  modifyWorld fun w => { w with sources := (n, source) :: w.sources }
  return .source n

/-- What is to be read from a device. -/
def deviceSource : Device → Source
  | .null => ⟨[], [], 0⟩
  | _ => ⟨[], [Char.ofNat 0], 0⟩

/-- What is to be read from an entry. -/
def entrySource : Entry → Except OsError Source
  | .file content _ => .ok ⟨Octets.ofBytes content, [], 0⟩
  | .directory _ => .error .isADirectory
  | .link _ => .error .tooManyLinks
  | .tool => .ok ⟨Octets.ofBytes FileTree.programHeader, [], 0⟩
  | .device kind => .ok (deviceSource kind)

/-- What can still be read from a descriptor. -/
def source (descriptor : Nat) : Run (Except OsError Source) := do
  match ← stream? descriptor with
  | some (.device kind) => return .ok (deviceSource kind)
  | some (.source n) =>
    match (← world).sources.lookup n with
    | some s =>
      sleepUntil s.ready
      return .ok s
    | none => return .ok ⟨[], [], 0⟩
  | some (.file n) =>
    match ← openFile? n with
    | none => return .error .badDescriptor
    | some f =>
      if !f.readable then return .error .badDescriptor
      match (← tree).get? f.place with
      | none => return .ok ⟨[], [], 0⟩
      | some e => return (entrySource e).map fun s => { s with content := s.content.drop f.offset }
  | some (.channel _) => return .error .badDescriptor
  | none => return .error .badDescriptor

/-- Leaves only a part to be read. -/
def setSource (descriptor : Nat) (rest : Source) : Run Unit := do
  match ← stream? descriptor with
  | some (.source n) => modifyWorld fun w =>
      { w with sources := (n, rest) :: w.sources.filter (·.1 != n) }
  | some (.file n) =>
    match ← openFile? n, ← source descriptor with
    | some f, .ok s =>
      setOpenFile n { f with offset := f.offset + (s.content.length - rest.content.length) }
    | _, _ => pure ()
  | _ => pure ()

/-- Reads all there is. -/
def readAll (descriptor : Nat) : Run (Except OsError Source) := do
  let s ← source descriptor
  if s.isOk then setSource descriptor ⟨[], [], 0⟩
  return s

/-- Reads one line with its line feed, or nothing at the end. -/
def readLine (descriptor : Nat) : Run (Option Octets) := do
  match ← source descriptor with
  | .error _ => return none
  | .ok s =>
    match s.content.dropWhile (· != '\n') with
    | [] =>
      setSource descriptor { s with content := [] }
      return if s.content.isEmpty then none else some s.content
    | _ :: rest =>
      setSource descriptor { s with content := rest }
      return some (s.content.takeWhile (· != '\n') ++ ['\n'])

/-! ## Variables -/

def valueOf? (name : Octets) : Run (Option Octets) := do
  match (← process).vars.find? (·.name == name) with
  | some v => return v.value
  | none => return none

def valueOf (name : String) : Run Octets := return (← valueOf? name.toList).getD []

/-- Changes a variable in its place, or adds it at the end. -/
def changeVariable (name : Octets) (f : Variable → Variable) : Run Unit := modifyProcess fun p =>
  { p with vars :=
      if p.vars.any (·.name == name) then
        p.vars.map fun v => if v.name == name then f v else v
      else p.vars ++ [f ⟨name, none, false, false⟩] }

def isReadOnly (name : Octets) : Run Bool :=
  return (← process).vars.any fun v => v.name == name && v.readOnly

/-- Gives a variable a value, without asking whether that is allowed. -/
def setVariable (name value : Octets) : Run Unit := do
  let exportAll := (← process).switches.has .exportAll
  changeVariable name fun v => { v with value := some value, exported := v.exported || exportAll }

/-- The bucket of a name among some number of them. A shell lists what it keeps by buckets. -/
def bucket (count : Nat) (name : Octets) : Nat :=
  match name with
  | [] => 0
  | c :: _ => name.foldl (fun n c => n + c.toNat) (c.toNat * 16) % count

/-- Puts items into the order of the buckets of their names, without reordering any bucket. -/
def inBuckets {α : Type} (count : Nat) (name : α → Octets) (items : List α) : List α :=
  (List.range count).flatMap fun n => items.filter fun item => bucket count (name item) == n

/-- The variables that are handed on, as the process has them. -/
def exports : Run (List (Octets × Octets)) := do
  return (← process).vars.filterMap fun v =>
    if v.exported then v.value.map (v.name, ·) else none

/-- The variables that a shell hands on, in the order in which it keeps them. -/
def handedOn : Run (List Variable) := do
  return inBuckets 39 (·.name) ((← process).vars.filter fun v => v.exported && v.value.isSome)

/-! ## Places -/

/-- The path that octets name. -/
def pathOf (text : Octets) : Path := ⟨Octets.decode text⟩

/-- What lies where a path leads. -/
def find (path : Octets) (follow : Bool) : Run (Except OsError (Location × Entry)) := do
  return (← tree).find follow (← process).directory (pathOf path)

/-- Reads a file, which takes the permission to do so. -/
def fileSource (path : Octets) : Run (Except OsError Source) := do
  match ← find path true with
  | .error e => return .error e
  | .ok (_, entry) =>
    return if entry.mode.mayRead then entrySource entry else .error .permissionDenied

/-- What went wrong, as programs word it. -/
def reason (e : OsError) : Octets := e.reason.toList

end Run

end NotebookKernel.Shell
