import NotebookKernel.Machine.Host
import NotebookKernel.Worker.Session

/-! # Workers that follow a script

A pool holds the scripts of the worker processes that will be started, one after another, and records
what each of them is told. A worker answers its requests with the replies of its script in order. When
there is none left it closes its output. -/

namespace NotebookKernel.Scripted

/-- What a worker writes in answer to one request. -/
structure Answer where
  bytes : Bytes
  /-- Whether the worker closes its output behind it. -/
  closes : Bool

/-- The script of a worker. -/
structure WorkerScript where
  answers : List Answer
  /-- Whether the worker ends after its last answer. -/
  exits : Bool

/-- A worker process. -/
structure WorkerProcess where
  answers : List Answer
  exits : Bool
  /-- What was written to it but makes no whole request yet. -/
  input : Bytes
  /-- What it wrote that was not read yet. -/
  output : Bytes
  closed : Bool
  ended : Bool

/-- What a worker records. -/
inductive WorkerEvent where
  | started (directory : Path) (environment : SortedMap String)
  | received (request : Json)

/-- The workers of a machine: those that run, and the scripts of those to come. -/
structure Pool where
  /-- The program that the workers run. -/
  program : Location
  scripts : List WorkerScript
  processes : List WorkerProcess
  /-- What was recorded, the last first. -/
  events : List WorkerEvent

/-- A machine with a pool of workers. -/
structure Station where
  pool : Pool
  machine : Machine

namespace WorkerProcess

/-- Answers a request. -/
def answer (p : WorkerProcess) : WorkerProcess :=
  match p.answers with
  | [] => { p with closed := true }
  | a :: rest =>
    { p with
      answers := rest
      output := if p.closed then p.output else p.output ++ a.bytes
      closed := p.closed || a.closes
      ended := p.exits && rest.isEmpty }

/-- Takes in the requests that have arrived, and gives those that are to be recorded. -/
def serve : Nat → WorkerProcess → WorkerProcess × List Json
  | 0, p => (p, [])
  | fuel + 1, p =>
    match Frame.splitBody p.input with
    | .error _ => (p, [])
    | .ok (body, rest) =>
      let p := { p with input := rest }
      match Utf8.decode? body >>= Json.ofText? with
      | none => serve fuel p
      | some request =>
        if request.field? "op" == some (.string "shutdown") then ({ p with ended := true }, [])
        else
          let (p, later) := serve fuel p.answer
          (p, request :: later)

end WorkerProcess

namespace Pool

/-- Changes the process with a number. -/
def update (pool : Pool) (pid : Nat) (f : WorkerProcess → WorkerProcess) : Pool :=
  { pool with processes := pool.processes.modify pid f }

/-- Adds a process, and gives its number. -/
def add (pool : Pool) (p : WorkerProcess) : Nat × Pool :=
  (pool.processes.length, { pool with processes := pool.processes ++ [p] })

/-- Starts a worker, which follows the next script. -/
def start (pool : Pool) (directory : Path) (environment : SortedMap String) : Nat × Pool :=
  let script : WorkerScript := pool.scripts.headD ⟨[], false⟩
  { pool with
    scripts := pool.scripts.tail
    events := .started directory environment :: pool.events }.add {
      answers := script.answers, exits := script.exits, input := [], output := []
      closed := false, ended := false }

end Pool

/-- How an interpreter is started. The program text that it is given is left out. -/
def interpreterLaunch (python directory : Path) (environment : SortedMap String) : Launch where
  program := python.text
  args := ["-u", "-c", ""]
  directory
  environment := environment.insert "MPLBACKEND" "Agg"
  timeout := .ofSeconds 60

/-- A process of a program that is no worker: it wrote all that it ever will, and reads nothing. -/
def stranger (ending : Ending) : WorkerProcess :=
  let output := match ending with
    | .finished _ stdout _ => stdout
    | _ => []
  { answers := [], exits := false, input := [], output, closed := true, ended := false }

/-- The reason why nothing can be written to a process that ended. -/
def brokenPipe : String := "Broken pipe (os error 32)"

/-- Worker processes that follow the scripts of the pool. -/
def processes : Processes Station where
  spawn python directory environment st :=
    let l := interpreterLaunch python directory environment
    match st.machine.prepare l with
    | .error e => (.error e, st)
    | .ok (place, program) =>
      if program.file = st.pool.program then
        let (pid, pool) := st.pool.start place.path l.environment
        (.ok pid, { st with pool })
      else
        let (ending, machine) := st.machine.runChild l
        let (pid, pool) := st.pool.add (stranger ending)
        (.ok pid, { pool, machine })
  isAlive pid st :=
    (match st.pool.processes[pid]? with | some p => !p.ended | none => false, st)
  write pid bytes st :=
    match st.pool.processes[pid]? with
    | none => (.error brokenPipe, st)
    | some p =>
      if p.ended then (.error brokenPipe, st)
      else
        let input := p.input ++ bytes
        let (p, requests) := WorkerProcess.serve (input.length + 1) { p with input }
        let events := requests.foldl (fun events r => .received r :: events) st.pool.events
        (.ok (), { st with pool := { st.pool.update pid fun _ => p with events } })
  read pid count st :=
    match st.pool.processes[pid]? with
    | none => ([], st)
    | some p =>
      (p.output.take count,
        { st with pool := st.pool.update pid fun p => { p with output := p.output.drop count } })
  kill pid st := { st with pool := st.pool.update pid fun p => { p with ended := true } }

/-- The machine as a host. A worker that is run without any input ends right away. -/
def host (h : Host Machine) : Host Station :=
  let whole : Host Station := h.zoom Station.machine fun st machine => { st with machine }
  { whole with
    run := fun l st =>
      match st.machine.prepare l with
      | .error _ => whole.run l st
      | .ok (place, program) =>
        if program.file = st.pool.program then
          let (pid, pool) := st.pool.start place.path l.environment
          (.finished (some 0) [] [],
            { st with pool := pool.update pid fun p => { p with ended := true } })
        else whole.run l st }

end NotebookKernel.Scripted
