import NotebookKernel.Host.Basic
import NotebookKernel.Shell.Evaluation

/-! # Child processes of the machine in memory

A child process has no input and two channels for its output. It is looked at every ten milliseconds.
Once it has ended, its output is waited for as long as others may still write to it, but only for half
a second each time. -/

namespace NotebookKernel.Machine

open Shell

/-- How often a child process is looked at, in nanoseconds. -/
def pollInterval : Nat := 10000000

/-- How long an output is waited for, in nanoseconds. -/
def drainGrace : Nat := 500000000

/-- The longest argument that a program may be given, in bytes. -/
def maxArgumentLength : Nat := 131071

/-- The least multiple of the poll interval that is not less. -/
def nextPoll (nanos : Nat) : Nat := (nanos + pollInterval - 1) / pollInterval * pollInterval

/-- What a child process starts with. -/
def startOf (m : Machine) (directory : Location) (l : Launch) : Running where
  world := {
    machine := m
    deadline := m.clock + nextPoll l.timeout.nanos
    sources := []
    files := []
    writings := []
    pipes := []
    endless := []
    holders := []
    count := firstProcess + 2
    signal := none }
  process := {
    number := firstProcess + 1
    shellNumber := firstProcess + 1
    name := Octets.ofString l.program
    arguments := []
    vars := l.environment.toList.map fun (name, value) =>
      ⟨Octets.ofString name, some (Octets.ofString value), true, false⟩
    functions := []
    documents := []
    documentCount := 0
    descriptors := [(0, .device .null), (1, .channel 0), (2, .channel 1)]
    directory
    directoryName := Octets.ofString directory.path.text
    line := 0
    status := 0
    umask := 18 }

/-- What is to be read from a channel, and when the last process that may write to it is gone. -/
def outputOf (w : World) (channel : Nat) : Bytes × Nat :=
  let own := w.writings.reverse.filter (·.channel == channel)
  let sorted := own.mergeSort fun a b => a.time ≤ b.time
  let ends := (w.holders.filter (·.channel == channel)).foldl (fun time h => max time h.ends) 0
  (Octets.toBytes (sorted.flatMap (·.content)), ends)

/-- Reads two channels, each of which is given up if it takes too long. The one that ends first is read
first, and without it the other one is not waited for. Also gives the time at the end. -/
def drain (time : Nat) (stdout stderr : Bytes × Nat) : Bytes × Bytes × Nat :=
  let first := min stdout.2 stderr.2
  let last := max stdout.2 stderr.2
  let afterFirst := max time first
  if time + drainGrace < first then ([], [], time + drainGrace)
  else if afterFirst + drainGrace < last then
    let both := afterFirst + drainGrace
    if stdout.2 ≤ stderr.2 then (stdout.1, [], both) else ([], stderr.1, both)
  else (stdout.1, stderr.1, max afterFirst last)

/-- The fuel with which programs are run. -/
def programFuel : Nat := 400000

/-- Runs a program in a process of its own up to its end. -/
def runToEnd (program : FileTree.Startable) (arguments : List Octets) : Run Ended := do
  let finish : Run Ended := return .exited ((← Run.process).status % 256)
  let ended ← tryCatch (do
      Run.spend Run.startTime
      runProgram programFuel program arguments
      finish) fun
    | .exited status => return .exited (status % 256)
    | .refused => return .exited 2
    | .returned status => return .exited (status % 256)
    | .killed signal => return .killed signal
    | .left _ => finish
    | .repeated _ => finish
    | .overdue => throw .overdue
  Run.noteHolding
  return ended

/-- Whether a text can be handed to a new process. -/
def isTransferable (s : String) : Bool := !s.toList.contains (Char.ofNat 0)

/-- The directory and the program of a child process, or the reason why it cannot be started. -/
def prepare (m : Machine) (l : Launch) : Except OsError (Location × FileTree.Startable) := do
  let texts := l.program :: l.directory.text :: l.args ++
    l.environment.toList.flatMap fun (name, value) => [name, value]
  if !texts.all isTransferable then throw .nulInArgument
  else if (l.program :: l.args).any (maxArgumentLength < ·.utf8ByteSize) then
    throw .tooManyArguments
  else
    let directory ← m.tree.startDirectory l.directory
    return (directory, ← m.tree.findStartable directory (l.environment.get? "PATH") l.program)

/-- Runs a child process to its end, or until it has taken too long. -/
def runChild (l : Launch) (m : Machine) : Ending × Machine :=
  match m.prepare l with
  | .error e => (.notStarted e, m)
  | .ok (directory, program) =>
    let finish (code : Option Nat) (w : World) : Ending × Machine :=
      let time := m.clock + nextPoll (w.machine.clock - m.clock)
      let (stdout, stderr, clock) := drain time (outputOf w 0) (outputOf w 1)
      (.finished code stdout stderr, { w.machine with clock })
    let arguments := l.args.map Octets.ofString
    match runToEnd program arguments (startOf m directory l) with
    | .ok (.exited status) r => finish (some status) r.world
    | .ok (.killed _) r => finish none r.world
    | .error _ r => (.timedOut, { r.world.machine with clock := r.world.deadline })

/-! ## The machine in memory as a host -/

/-- The machine as seen by a process with an environment and a directory to start in. -/
def host (environment : SortedMap String) (directory : Location) : Host Machine :=
  hostRunning runChild environment directory

end NotebookKernel.Machine
