import NotebookKernel.Shell.Builtin.Basic

/-! # Commands about signals and jobs -/

namespace NotebookKernel.Shell.Builtin

open Run

/-! ## Signals -/

/-- A signal, with its name and the words for what it does. -/
structure Signal where
  number : Nat
  name : String
  effect : String

/-- The number of the last signal. -/
def lastSignal : Nat := 64

def namedSignals : List Signal := [
  ⟨1, "HUP", "Hangup"⟩, ⟨2, "INT", ""⟩, ⟨3, "QUIT", "Quit"⟩, ⟨4, "ILL", "Illegal instruction"⟩,
  ⟨5, "TRAP", "Trace/breakpoint trap"⟩, ⟨6, "ABRT", "Aborted"⟩, ⟨7, "BUS", "Bus error"⟩,
  ⟨8, "FPE", "Floating point exception"⟩, ⟨9, "KILL", "Killed"⟩,
  ⟨10, "USR1", "User defined signal 1"⟩, ⟨11, "SEGV", "Segmentation fault"⟩,
  ⟨12, "USR2", "User defined signal 2"⟩, ⟨13, "PIPE", ""⟩, ⟨14, "ALRM", "Alarm clock"⟩,
  ⟨15, "TERM", "Terminated"⟩, ⟨16, "16", "Stack fault"⟩, ⟨17, "CHLD", "Child exited"⟩,
  ⟨18, "CONT", "Continued"⟩, ⟨19, "STOP", "Stopped (signal)"⟩, ⟨20, "TSTP", "Stopped"⟩,
  ⟨21, "TTIN", "Stopped (tty input)"⟩, ⟨22, "TTOU", "Stopped (tty output)"⟩,
  ⟨23, "URG", "Urgent I/O condition"⟩, ⟨24, "XCPU", "CPU time limit exceeded"⟩,
  ⟨25, "XFSZ", "File size limit exceeded"⟩, ⟨26, "VTALRM", "Virtual timer expired"⟩,
  ⟨27, "PROF", "Profiling timer expired"⟩, ⟨28, "WINCH", "Window changed"⟩,
  ⟨29, "IO", "I/O possible"⟩, ⟨30, "PWR", "Power failure"⟩, ⟨31, "SYS", "Bad system call"⟩]

/-- The name of a signal for real-time use, which counts from the nearer end of their range. -/
def realTimeName (n : Nat) : String :=
  if n < 34 then toString n
  else if n == 34 then "RTMIN"
  else if n ≤ 49 then "RTMIN+" ++ toString (n - 34)
  else if n < lastSignal then "RTMAX-" ++ toString (lastSignal - n)
  else "RTMAX"

/-- All signals in their order. -/
def signals : List Signal :=
  namedSignals ++ (List.range (lastSignal - 31)).map fun i =>
    ⟨i + 32, realTimeName (i + 32), "Real-time signal " ++ toString (i - 2)⟩

/-- The signals that do not end a process. -/
def harmlessSignals : List Nat := [0, 17, 18, 19, 20, 21, 22, 23, 28]

def signal? (n : Nat) : Option Signal := signals.find? (·.number == n)

/-- The number of a signal that is given by name or number. The end of the shell counts as the signal
of number zero. -/
def signalNumber? (text : Octets) : Option Nat :=
  match Octets.digitsValue? text with
  | some n => if n ≤ lastSignal then some n else none
  | none =>
    let name := text.map Char.toUpper
    if name == "EXIT".toList then some 0
    else (signals.find? (·.name.toList == name)).map (·.number)

/-- Remembers what to do on signals. -/
def trap (arguments : List Octets) : Run Nat := do
  let (_, operands) ← readOptions "" "" arguments
  let rec setAll (action : Option Octets) : List Octets → Run Nat
    | [] => return 0
    | name :: names => do
      match signalNumber? name with
      | none =>
        complain ("trap: ".toList ++ name ++ ": bad trap".toList)
        return 1
      | some n =>
        modifyProcess fun p =>
          let key := Octets.ofNat n
          let others := p.traps.filter (·.1 != key)
          { p with traps := match action with
              | some action => (key, action) :: others
              | none => others }
        setAll action names
  let isNumber (text : Octets) : Bool :=
    (Octets.digitsValue? text).isSome && (signalNumber? text).isSome
  match operands with
  | [] =>
    let p ← process
    let lines := (0 :: signals.map (·.number)).filterMap fun n =>
      (p.traps.lookup (Octets.ofNat n)).map fun action =>
        let name := if n == 0 then "EXIT" else ((signal? n).map (·.name)).getD ""
        "trap -- ".toList ++ quote action ++ ' ' :: name.toList
    put (Octets.ofLines lines)
  | action :: names =>
    if names.isEmpty || isNumber action then setAll none operands
    else setAll (if action == ['-'] then none else some action) names

/-- Tells what a signal did to a process. -/
def tellDeath (signal : Nat) : Run Unit := do
  match signal? signal with
  | some s => if s.effect.isEmpty then pure () else complain s.effect.toList
  | none => pure ()

/-- What is asked of `kill`. -/
inductive Killing where
  | listAll
  | tell (status : Octets)
  | send (signal : Nat) (targets : List Octets)

/-- Reads what is asked of `kill`. -/
def readKilling (arguments : List Octets) : Run Killing := do
  let usage : Run Killing := refuse ("Usage: kill [-s sigspec | -signum | -sigspec] [pid | job]... or\n" ++
    "kill -l [exitstatus]").toList
  let first := arguments.headD []
  let direct := if first.head? == some '-' then
    (signalNumber? first.tail).filter fun n => n != 0 || first.tail == ['0'] else none
  match direct with
  | some signal => if arguments.tail.isEmpty then usage else return .send signal arguments.tail
  | none =>
    let (options, targets) ← if first.head? == some '-' then readOptions "l" "s" arguments
      else pure ([], arguments)
    let list := options.any (·.1 == 'l')
    let named := options.filterMap fun (c, name) => if c == 's' then some name else none
    for name in named do
      if ((signalNumber? name).filter (· != 0)).isNone && name != ['0'] then
        refuse ("invalid signal number or name: ".toList ++ name)
    let signal := named.getLast?.bind signalNumber?
    if list then
      if signal.isSome then usage
      else match targets with
        | [] => return .listAll
        | status :: _ => return .tell status
    else if targets.isEmpty then usage
    else return .send (signal.getD 15) targets

/-- Lists the names of all signals. -/
def listSignals : Run Nat := put (Octets.ofLines (['0'] :: signals.map (·.name.toList)))

/-- Tells the name of the signal of a number, or that ended a command with a status. -/
def tellSignal (status : Octets) : Run Nat := do
  let n ← number status
  match signal? (if 128 < n then n - 128 else n) with
  | some s => put (s.name.toList ++ ['\n'])
  | none => refuse ("invalid signal number or exit status: ".toList ++ status)

/-! ## Jobs -/

/-- The job that a text names by a percent sign. -/
def findJob (name : Octets) : Run Job := do
  let jobs := (← process).jobs
  let current := jobs.getLast?
  let found : Option Job ← match name with
    | [] | ['%'] | ['%', '%'] | ['%', '+'] =>
      if current.isNone then refuse "No current job".toList else pure current
    | ['%', '-'] =>
      if jobs.length < 2 then refuse "No previous job".toList else pure jobs.dropLast.getLast?
    | '%' :: digits => pure ((Octets.digitsValue? digits).bind fun n =>
        if n == 0 then none else jobs[n - 1]?)
    | _ => pure none
  match found with
  | some job => return job
  | none => refuse ("No such job: ".toList ++ name)

/-- Waits for the processes in the background. -/
def wait (arguments : List Octets) : Run Nat := do
  let (_, operands) ← readOptions "" "" arguments
  if operands.isEmpty then
    for job in (← process).jobs do sleepUntil job.ends
    modifyProcess fun p => { p with jobs := [] }
    return 0
  let mut result := 0
  for text in operands do
    let job ← if text.head? == some '%' then do pure (some (← findJob text))
      else do
        let n ← number text
        pure ((← process).jobs.find? (·.process == n))
    match job with
    | some job =>
      sleepUntil job.ends
      tellDeath (job.status - 128)
      result := job.status
    | none => result := 127
  return result

/-- How a job is doing, as it is listed. -/
def jobState (now : Nat) (job : Job) : Octets :=
  if now < job.ends then "Running".toList
  else if job.status == 0 then "Done".toList
  else match if job.status < 128 then none else signal? (job.status - 128) with
    | some s => s.effect.toList
    | none => "Done(".toList ++ Octets.ofNat job.status ++ [')']

/-- Lists the jobs, of which those that have ended are forgotten. -/
def listJobs (arguments : List Octets) : Run Nat := do
  let (options, operands) ← readOptions "lp" "" arguments
  let all := (← process).jobs
  let jobs ← if operands.isEmpty then pure all else operands.mapM findJob
  let time ← now
  let line (job : Job) : Octets :=
    let n := (all.idxOf? job).getD 0 + 1
    let mark := if n == all.length then '+' else if n + 1 == all.length then '-' else ' '
    if options.any (·.1 == 'p') then Octets.ofNat job.process
    else
      let number := if options.any (·.1 == 'l') then Octets.ofNat job.process ++ [' '] else []
      let state := number ++ jobState time job
      '[' :: Octets.ofNat n ++ [']', ' ', mark, ' '] ++ state ++
        List.replicate (27 - state.length) ' '
  let written ← put (Octets.ofLines (jobs.map line))
  modifyProcess fun p => { p with jobs := p.jobs.filter (time < ·.ends) }
  return written

/-- Puts jobs into the foreground or background, which takes the control of jobs. -/
def resume (arguments : List Octets) : Run Nat := do
  let (_, operands) ← readOptions "" "" arguments
  for name in (if operands.isEmpty then [[]] else operands) do
    let job ← findJob name
    let n := ((← process).jobs.idxOf? job).getD 0 + 1
    refuse ("job ".toList ++ (if name.isEmpty then '%' :: Octets.ofNat n else name) ++
      " not created under job control".toList)
  return 0

end NotebookKernel.Shell.Builtin
