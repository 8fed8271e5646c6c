import NotebookKernel.Kernel.State
import NotebookKernel.Text.Base64
import NotebookKernel.Worker.Frame
import NotebookKernel.Worker.Message

/-! # An evaluator backed by a worker process

A session has at most one worker at a time. It is started when it is first needed, and again after it
is lost; a new worker begins with a fresh namespace, in the session's directory and with the session's
environment. Before it is asked for anything else it has to answer a ping and then a reset. Whenever
an exchange fails the worker is given up. -/

namespace NotebookKernel

/-- What a session asks of the operating system: processes with a pipe in either direction. -/
structure Processes (σ : Type) where
  /-- Starts an interpreter in a directory with an environment, and gives a number for the process. -/
  spawn : (python directory : Path) → (environment : SortedMap String) → σ →
    Except OsError Nat × σ
  /-- Whether the process is still running. -/
  isAlive : Nat → σ → Bool × σ
  /-- Writes to the process, or says why that is not possible. -/
  write : Nat → Bytes → σ → Except String Unit × σ
  /-- Reads so many bytes from the process, or fewer if its output ends before. -/
  read : Nat → (count : Nat) → σ → Bytes × σ
  kill : Nat → σ → σ

/-- No process can be started. -/
def Processes.none {σ : Type} : Processes σ where
  spawn _ _ _ s := (.error .notFound, s)
  isAlive _ s := (false, s)
  write _ _ s := (.error "Broken pipe (os error 32)", s)
  read _ _ s := ([], s)
  kill _ s := s

/-- What an evaluator remembers about its worker. -/
structure Session where
  python : Path
  /-- The process, unless there is none. -/
  worker : Option Nat
  preload : List Preload
  directory : Path
  environment : SortedMap String

/-- A session and the machine that its worker runs on. -/
structure Workbench (σ : Type) where
  session : Session
  machine : σ

namespace Session

variable {σ : Type}

/-- A session without a worker, as a kernel is configured. -/
def ofConfig (config : Config) (python : Path) (environment : SortedMap String) : Session :=
  { python, worker := none, preload := config.preload, directory := config.workingDirectory,
    environment }

/-! ## Exchanges -/

/-- Sends a command. One that is too long is refused before anything is written. -/
def send (ps : Processes σ) (pid : Nat) (c : Command) (s : σ) : Except Frame.Fault Unit × σ :=
  match Frame.encode c.toJson with
  | .error fault => (.error fault, s)
  | .ok bytes =>
    match ps.write pid bytes s with
    | (.ok (), s) => (.ok (), s)
    | (.error reason, s) => (.error (.notWritten reason), s)

/-- Reads a reply. -/
def receive (ps : Processes σ) (pid : Nat) (s : σ) : Except Frame.Fault Reply × σ :=
  match ps.read pid 4 s with
  | ([a, b, c, d], s) =>
    let length := Frame.ofLengthBytes a b c d
    if Frame.maxLength < length then (.error (.tooLarge length), s)
    else
      let (body, s) := ps.read pid length s
      if body.length < length then (.error .truncatedBody, s)
      else (Frame.decode Reply.reader body, s)
  | (_, s) => (.error .truncatedLength, s)

/-- Sends a command and reads the reply to it. -/
def exchange (ps : Processes σ) (pid : Nat) (c : Command) (s : σ) : Except Frame.Fault Reply × σ :=
  match send ps pid c s with
  | (.error fault, s) => (.error fault, s)
  | (.ok (), s) => receive ps pid s

/-- Gives a process up: it is asked to end, and then killed. -/
def giveUp (ps : Processes σ) (pid : Nat) (s : σ) : σ :=
  ps.kill pid (send ps pid .shutdown s).2

/-- The failure of a command to which the reply made no sense. -/
def unexpected (r : Reply) : Failure :=
  .channel ("Unexpected response from worker: " ++ r.shown)

/-- Sends a command to a process that was just started. Any answer but the one that is wanted is a
failure, and then the process is given up. -/
def demand (ps : Processes σ) (pid : Nat) (c : Command) (wanted : Reply → Bool) (s : σ) :
    Except Failure Unit × σ :=
  match exchange ps pid c s with
  | (.error fault, s) => (.error fault.failure, giveUp ps pid s)
  | (.ok reply, s) =>
    if wanted reply then (.ok (), s) else (.error (unexpected reply), giveUp ps pid s)

def isPong : Reply → Bool
  | .pong => true
  | _ => false

def isDone : Reply → Bool
  | .done => true
  | _ => false

/-! ## Starting workers -/

/-- Starts a process that answers a ping and then a reset. -/
def start (ps : Processes σ) (w : Session) (s : σ) : Except Failure Nat × σ :=
  match ps.spawn w.python w.directory w.environment s with
  | (.error e, s) =>
    (.error (.worker ("Failed to spawn worker process '" ++ w.python.text ++ "': " ++ e.message)), s)
  | (.ok pid, s) =>
    match demand ps pid .ping isPong s with
    | (.error failure, s) => (.error failure, s)
    | (.ok (), s) =>
      match demand ps pid (.reset w.preload) isDone s with
      | (.error failure, s) => (.error failure, s)
      | (.ok (), s) => (.ok pid, s)

/-- The worker if it is alive, else a new one. -/
def ensureWorker (ps : Processes σ) : Act (Workbench σ) (Except Failure Nat) := fun b =>
  let fresh (b : Workbench σ) : Option (Except Failure Nat) × Workbench σ :=
    let (result, machine) := start ps b.session b.machine
    (some result, { session := { b.session with worker := result.toOption }, machine })
  match b.session.worker with
  | none => fresh b
  | some pid =>
    let (alive, machine) := ps.isAlive pid b.machine
    if alive then (some (.ok pid), { b with machine })
    else fresh { session := { b.session with worker := none }, machine := giveUp ps pid machine }

/-- The failure of a command in the middle of which the worker was lost. -/
def lost : Failure :=
  .worker "kernel worker exited unexpectedly; the namespace was lost"

/-- Asks the worker for something. Exceptions and refusals are failures. After a fault in the exchange
the worker is given up. -/
def call (ps : Processes σ) (c : Command) : Act (Workbench σ) (Except Failure Reply) := do
  match ← ensureWorker ps with
  | .error failure => pure (.error failure)
  | .ok pid => fun b =>
    match exchange ps pid c b.machine with
    | (.ok (.raised e), machine) => (some (.error (.raised e)), { b with machine })
    | (.ok (.failed message), machine) => (some (.error (.worker message)), { b with machine })
    | (.ok reply, machine) => (some (.ok reply), { b with machine })
    | (.error _, machine) =>
      (some (.error lost),
        { session := { b.session with worker := none }, machine := giveUp ps pid machine })

/-- Asks the worker for something and reads the reply by `read`. -/
def ask {α : Type} (ps : Processes σ) (c : Command) (read : Reply → Option α) :
    Act (Workbench σ) (Except Failure α) := do
  match ← call ps c with
  | .error failure => pure (.error failure)
  | .ok reply =>
    match read reply with
    | some a => pure (.ok a)
    | none => pure (.error (unexpected reply))

/-- Asks the worker to do something. -/
def order (ps : Processes σ) (c : Command) : Act (Workbench σ) (Except Failure Unit) :=
  ask ps c fun reply => if isDone reply then some () else none

/-- Asks for something only if there is a worker already. -/
def orderIfStarted (ps : Processes σ) (c : Command) : Act (Workbench σ) (Except Failure Unit) := do
  if (← Act.get).session.worker.isNone then pure (.ok ()) else order ps c

def modifySession (f : Session → Session) : Act (Workbench σ) Unit :=
  Act.modify fun b => { b with session := f b.session }

/-! ## The evaluator -/

/-- The pending plot. A text that is no base 64 is a failure. -/
def takePlot (ps : Processes σ) : Act (Workbench σ) (Except Failure (Option Bytes)) := do
  let png ← ask ps .plot fun
    | .plot png => some png
    | _ => none
  match png with
  | .error failure => pure (.error failure)
  | .ok none => pure (.ok none)
  | .ok (some image) =>
    match Base64.decode? image with
    | some bytes => pure (.ok (some bytes))
    | none => pure (.error (.serialization "invalid plot data"))

/-- The time that so many runs of the code take. One that is too long for a duration is a panic. -/
def timeStatements (ps : Processes σ) (code : String) (loops : Nat) :
    Act (Workbench σ) (Except Failure Duration) := do
  let seconds ← ask ps (.time code (UInt64.ofNat loops)) fun
    | .timing seconds => some seconds
    | _ => none
  match seconds with
  | .error failure => pure (.error failure)
  | .ok seconds =>
    match Duration.ofSecondsFloat? seconds with
    | some elapsed => pure (.ok elapsed)
    | none => Act.panic

/-- The evaluator that hands everything to the worker. -/
def evaluator (ps : Processes σ) : Evaluator (Workbench σ) where
  runStatements code := order ps (.exec code)
  evalExpression code := ask ps (.eval code) fun
    | .value representation => some representation
    | _ => none
  isExpression line := do
    match ← call ps (.probe line) with
    | .ok (.probe expression) => pure expression
    | _ => pure false
  beginCapture := order ps .captureBegin
  endCapture := ask ps .captureEnd fun
    | .streams stdout stderr => some ⟨stdout, stderr⟩
    | _ => none
  takePlot := takePlot ps
  runIsolated code file := order ps (.runFile code file)
  timeStatements := timeStatements ps
  bindings := ask ps .bindings fun
    | .bindings all => some all
    | _ => none
  reset preload := do
    modifySession fun w => { w with preload }
    order ps (.reset preload)
  setDirectory path := do
    modifySession fun w => { w with directory := path }
    orderIfStarted ps (.chdir path.text)
  setVariable key value := do
    modifySession fun w => { w with environment := w.environment.insert key value }
    orderIfStarted ps (.setenv key value)

end Session

namespace Workbench

variable {σ : Type}

/-- A machine on which nothing was started yet. -/
def idle (machine : σ) : Workbench σ :=
  { session := { python := ⟨""⟩, worker := none, preload := [], directory := ⟨"/"⟩, environment := ∅ }
    machine }

/-- An action of the machine alone. -/
def onMachine {α : Type} (act : Act σ α) : Act (Workbench σ) α :=
  act.zoom Workbench.machine fun b machine => { b with machine }

/-- What a kernel with a worker runs on. -/
def platform (h : Host σ) (ps : Processes σ) : Platform (Workbench σ) where
  evaluator := Session.evaluator ps
  host := h.zoom Workbench.machine fun b machine => { b with machine }

end Workbench

/-- Sets up a kernel whose code is run by a worker. The worker is started right away, in the working
directory. -/
def Kernel.setUpWorker {σ : Type} (h : Host σ) (ps : Processes σ) (config : Config) :
    Act (Workbench σ) (Except Failure Context) := do
  match ← Workbench.onMachine (prepareDirectory h config.workingDirectory) with
  | .error failure => pure (.error failure)
  | .ok workingDirectory =>
    let config := { config with workingDirectory }
    match config.pythonExecutable h (← Act.get).machine with
    | .error failure => pure (.error failure)
    | .ok python =>
      Session.modifySession fun _ => Session.ofConfig config python h.environment
      match ← Session.ensureWorker ps with
      | .error failure => pure (.error failure)
      | .ok _ => setUp (Workbench.platform h ps) config

end NotebookKernel
