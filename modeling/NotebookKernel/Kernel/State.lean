import NotebookKernel.Evaluator

/-! # The state of a kernel

A `Kernel σ` is the context in which cells run, together with the state of the machine and of the
evaluator. The working directory is the last one that the evaluator accepted, and the environment
holds the variables that the evaluator accepted. -/

namespace NotebookKernel

/-! ## Configuration -/

/-- How a kernel is set up. -/
structure Config where
  /-- The interpreter, if it is not to be looked for. -/
  python : Option Path
  /-- The directory to work in at first. It is created if missing. -/
  workingDirectory : Path
  preload : List Preload
  /-- How long a shell command may take. -/
  shellTimeout : Duration
  /-- How long an installation of packages may take. -/
  pipTimeout : Duration

namespace Config

/-- The variable that names the interpreter. -/
def pythonVariable : String := "QUILL_PYTHON"

/-- The variable that names the first working directory. -/
def directoryVariable : String := "QUILL_WORKING_DIR"

def standardPreload : List Preload := [⟨"np", "numpy"⟩, ⟨"pd", "pandas"⟩]

variable {σ : Type}

/-- The configuration that nothing was said about. -/
def standard (h : Host σ) : Config where
  python := none
  workingDirectory := h.currentDirectory
  preload := standardPreload
  shellTimeout := .ofSeconds 120
  pipTimeout := .ofSeconds 300

/-- The standard configuration with the interpreter and the directory that the environment names. -/
def ofEnvironment (h : Host σ) : Config :=
  let c := standard h
  { c with
    python := (h.environment.get? pythonVariable).map Path.mk
    workingDirectory := ((h.environment.get? directoryVariable).map Path.mk).getD c.workingDirectory }

/-- The interpreter: the configured one, else the one that the environment names, else the first on
the search path. -/
def pythonExecutable (c : Config) (h : Host σ) (s : σ) : Except Failure Path :=
  let named := c.python.or ((h.environment.get? pythonVariable).map Path.mk)
  match named.or ((h.which? "python3" s).or (h.which? "python" s)) with
  | some path => .ok path
  | none => .error (.worker ("could not find a Python interpreter. Set " ++ pythonVariable
      ++ " or ensure python3 is in PATH."))

end Config

/-! ## The context and the machine -/

/-- What runs the user's code, and the machine it runs on. -/
structure Platform (σ : Type) where
  evaluator : Evaluator σ
  host : Host σ

/-- What a kernel remembers between cells. -/
structure Context where
  config : Config
  executionCount : UInt32
  /-- Whether an interrupt was asked for since the last cell began. -/
  interrupted : Bool
  workingDirectory : Path
  environment : SortedMap String
  /-- How often the namespace was replaced. -/
  generation : Nat

/-- A kernel: its context and the state of what it runs on. -/
structure Kernel (σ : Type) where
  context : Context
  machine : σ

/-- An action of a kernel. -/
abbrev KernelM (σ α : Type) := Act (Kernel σ) α

namespace KernelM

variable {σ α : Type}

/-- An action of the machine or the evaluator, which leaves the context alone. -/
def onMachine (act : Act σ α) : KernelM σ α :=
  act.zoom Kernel.machine fun k s => { k with machine := s }

def getContext : KernelM σ Context := Act.gets Kernel.context

def modifyContext (f : Context → Context) : KernelM σ Unit :=
  Act.modify fun k => { k with context := f k.context }

end KernelM

namespace Context

/-- Expands a home directory at the start of a path, in case there is one. -/
def expandHome {σ : Type} (h : Host σ) (raw : String) : Path :=
  match raw.toList with
  | '~' :: rest =>
    if rest.head?.all fun c => c = '/' || c = '\\' then
      match h.home? with
      | some home => home ++ String.ofList (rest.dropWhile fun c => c = '/' || c = '\\')
      | none => ⟨raw⟩
    else ⟨raw⟩
  | _ => ⟨raw⟩

/-- A path that the user gave, trimmed: relative ones are seen from the working directory. -/
def resolve {σ : Type} (c : Context) (h : Host σ) (raw : String) : Path :=
  c.workingDirectory.append (expandHome h (Text.trim raw))

end Context

namespace Kernel

open KernelM

variable {σ : Type}

/-- Creates a directory if it is missing and gives its canonical path. -/
def prepareDirectory (h : Host σ) (dir : Path) : Act σ (Except Failure Path) := fun s =>
  let refused (e : OsError) : Failure :=
    .invalidArgument ("working directory " ++ dir.text ++ ": " ++ e.message)
  match h.createDirectories dir s with
  | (.error e, s) => (some (.error (refused e)), s)
  | (.ok (), s) => (some ((h.canonicalize dir s).mapError refused), s)

/-- Sets a context up. The evaluator has to accept the working directory. -/
def setUp (p : Platform σ) (config : Config) : Act σ (Except Failure Context) := do
  match ← prepareDirectory p.host config.workingDirectory with
  | .error failure => pure (.error failure)
  | .ok workingDirectory =>
    match ← p.evaluator.setDirectory workingDirectory with
    | .error failure => pure (.error failure)
    | .ok () =>
      pure (.ok {
        config, workingDirectory
        executionCount := 0
        interrupted := false
        environment := p.host.environment
        generation := 0 })

/-- Changes the working directory to a path that the user gave. Tells whether that was possible: the
path has to name a directory, and the evaluator has to accept it. -/
def setWorkingDirectory (p : Platform σ) (raw : String) : KernelM σ Bool := do
  let k ← Act.get
  match p.host.canonicalize (k.context.resolve p.host raw) k.machine with
  | .error _ => pure false
  | .ok target =>
    if !p.host.isDirectory target k.machine then pure false
    else match ← onMachine (p.evaluator.setDirectory target) with
      | .error _ => pure false
      | .ok () =>
        modifyContext fun c => { c with workingDirectory := target }
        pure true

/-- Sets a variable, first for the evaluator and then for child processes. -/
def setVariable (p : Platform σ) (key value : String) : KernelM σ (Except Failure Unit) := do
  match ← onMachine (p.evaluator.setVariable key value) with
  | .error failure => pure (.error failure)
  | .ok () =>
    modifyContext fun c => { c with environment := c.environment.insert key value }
    pure (.ok ())

/-- Starts over with a fresh namespace and a counter at zero. -/
def reset (p : Platform σ) : KernelM σ (Except Failure Unit) := do
  modifyContext fun c =>
    { c with executionCount := 0, interrupted := false, generation := c.generation + 1 }
  onMachine (p.evaluator.reset (← getContext).config.preload)

end Kernel

/-! ## Parts of a larger state

An evaluator, or a host, of a part of a state is one of the whole. -/

variable {σ τ : Type}

/-- An evaluator of a part of the state. -/
def Evaluator.zoom (part : τ → σ) (update : τ → σ → τ) (ev : Evaluator σ) : Evaluator τ where
  runStatements code := (ev.runStatements code).zoom part update
  evalExpression code := (ev.evalExpression code).zoom part update
  isExpression line := (ev.isExpression line).zoom part update
  beginCapture := ev.beginCapture.zoom part update
  endCapture := ev.endCapture.zoom part update
  takePlot := ev.takePlot.zoom part update
  runIsolated code file := (ev.runIsolated code file).zoom part update
  timeStatements code loops := (ev.timeStatements code loops).zoom part update
  bindings := ev.bindings.zoom part update
  reset preload := (ev.reset preload).zoom part update
  setDirectory path := (ev.setDirectory path).zoom part update
  setVariable key value := (ev.setVariable key value).zoom part update

/-- A host of a part of the state. -/
def Host.zoom (part : τ → σ) (update : τ → σ → τ) (h : Host σ) : Host τ :=
  let lift {α : Type} (f : σ → α × σ) : τ → α × τ := fun t =>
    let (a, s) := f (part t)
    (a, update t s)
  { environment := h.environment
    currentDirectory := h.currentDirectory
    accountHome := h.accountHome
    canonicalize := fun p t => h.canonicalize p (part t)
    isDirectory := fun p t => h.isDirectory p (part t)
    fileExists := fun p t => h.fileExists p (part t)
    isExecutable := fun p t => h.isExecutable p (part t)
    readDirectory := fun p t => h.readDirectory p (part t)
    readFile := fun p t => h.readFile p (part t)
    writeFile := fun p content => lift (h.writeFile p content)
    removeFile := fun p => lift (h.removeFile p)
    createDirectories := fun p => lift (h.createDirectories p)
    run := fun launch => lift (h.run launch)
    monotonic := lift h.monotonic
    now := lift h.now
    freshBytes := lift h.freshBytes }

end NotebookKernel
