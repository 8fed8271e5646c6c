import NotebookKernel.CommandLine.Arguments
import NotebookKernel.CommandLine.Console
import NotebookKernel.Kernel.Dispatch
import NotebookKernel.Text.Hex
import NotebookKernel.Worker.Session

/-! # The tasks of the command line

Each task works on the store, on a kernel with a worker, or on both, and ends with what it printed and
an exit code. -/

namespace NotebookKernel.CommandLine

variable {σ : Type}

/-- How a task ended. -/
structure Result where
  console : Console
  exitCode : Nat

namespace Result

def success (console : Console) : Result := ⟨console, 0⟩

/-- The end of a task that failed. The reason stands on standard error, and what caused it below. -/
def failure (console : Console) (reason : String) (cause : Option String) : Result :=
  let below := match cause with
    | some cause => "\n\nCaused by:\n    " ++ cause
    | none => ""
  ⟨console ++ .errorLine ("Error: " ++ reason ++ below), 1⟩

def ofStoreError (console : Console) (e : StoreError) : Result :=
  failure console e.message (match e with | .io e => some e.message | _ => none)

def ofFailure (console : Console) (f : Failure) : Result :=
  failure console f.message (match f with | .io reason => some reason | _ => none)

/-- The end of a task in which the program panicked. -/
def panicked (console : Console) : Result := ⟨console, 101⟩

def notFound (console : Console) (id : String) : Result :=
  failure console ("Notebook not found: " ++ id) none

end Result

/-- What the tasks work with. -/
structure Setting (σ : Type) where
  host : Host σ
  processes : Processes σ
  config : Config
  /-- What stands on standard input. -/
  input : Bytes

namespace Setting

/-- What a kernel of this setting runs on. -/
def platform (s : Setting σ) : Platform (Workbench σ) := Workbench.platform s.host s.processes

/-- Starts a kernel on a machine. -/
def startKernel (s : Setting σ) (machine : σ) :
    Option (Except Failure Context) × Workbench σ :=
  Kernel.setUpWorker s.host s.processes s.config (Workbench.idle machine)

/-- Runs a cell. -/
def execute (s : Setting σ) (cell : String) : KernelM (Workbench σ) Output :=
  Kernel.execute s.platform (Magic.builtins s.platform) cell

end Setting

/-- Runs one cell and prints its output, or the message for a front end. -/
def exec (s : Setting σ) (code : String) (json : Bool) (machine : σ) : Result × σ :=
  let source := if code = "-" then Utf8.decode? s.input else some code
  match source with
  | none => (.failure ∅ OsError.invalidUtf8.message none, machine)
  | some cell =>
    match s.startKernel machine with
    | (none, bench) => (.panicked ∅, bench.machine)
    | (some (.error f), bench) => (.ofFailure ∅ f, bench.machine)
    | (some (.ok context), bench) =>
      match s.execute cell { context, machine := bench } with
      | (none, k) => (.panicked ∅, k.machine.machine)
      | (some o, k) =>
        let console := if json then .line o.toPayload.compact else printed o
        (⟨console, if o.isError then 1 else 0⟩, k.machine.machine)

/-- What running the cells of a notebook gave. -/
structure CellRun where
  cells : List Cell
  console : Console
  executed : Nat
  failed : Nat

/-- Runs the code cells of a notebook in order. -/
def runCells (s : Setting σ) : List Cell → KernelM (Workbench σ) CellRun
  | [] => pure ⟨[], ∅, 0, 0⟩
  | cell :: rest =>
    if !cell.isCode then do
      let later ← runCells s rest
      pure { later with cells := cell :: later.cells }
    else do
      let output ← s.execute cell.content
      let count := (← KernelM.getContext).executionCount
      let later ← runCells s rest
      pure {
        cells := cell.record output count :: later.cells
        console := promptLine (toString count.toNat) ++ printed output ++ later.console
        executed := later.executed + 1
        failed := later.failed + (if output.isError then 1 else 0) }

/-- The lines that sum a run up. -/
def runSummary (run : CellRun) (elapsed : Duration) (file : Path) : Console :=
  let label :=
    if run.failed = 0 then styled .green "Completed" else styled .red "Completed with errors"
  .lines ["\n" ++ rule,
    label ++ " " ++ toString run.executed ++ " cells (" ++ toString run.failed ++ " failed) in "
      ++ renderFixed2 elapsed.toSeconds ++ "s, saved to " ++ file.text]

/-- Runs the code cells of a stored notebook and saves it with their outputs. -/
def runNotebook (s : Setting σ) (store : Store) (id : String) (machine : σ) : Result × σ :=
  let (start, machine) := s.host.monotonic machine
  match store.load s.host id machine with
  | .error e => (.ofStoreError ∅ e, machine)
  | .ok none => (.notFound ∅ id, machine)
  | .ok (some notebook) =>
    let header : Console :=
      .lines ["\n" ++ styled .bold "Running" ++ " " ++ notebook.title ++ " (" ++ id ++ ")", rule]
    match s.startKernel machine with
    | (none, bench) => (.panicked header, bench.machine)
    | (some (.error f), bench) => (.ofFailure header f, bench.machine)
    | (some (.ok context), bench) =>
      match runCells s notebook.cells { context, machine := bench } with
      | (none, k) => (.panicked header, k.machine.machine)
      | (some run, k) =>
        let shown := header ++ run.console
        let ((saved, _), machine) :=
          store.save s.host id { notebook with cells := run.cells } k.machine.machine
        match saved with
        | .error e => (.ofStoreError shown e, machine)
        | .ok file =>
          let (stop, machine) := s.host.monotonic machine
          (⟨shown ++ runSummary run ⟨stop.nanos - start.nanos⟩ file,
            if run.failed = 0 then 0 else 1⟩, machine)

/-- Lists the stored notebooks. -/
def listNotebooks (s : Setting σ) (store : Store) (machine : σ) : Result :=
  match store.list s.host machine with
  | .error e => .ofStoreError ∅ e
  | .ok [] => .success (.line (styled .yellow ("No notebooks in " ++ store.directory.text)))
  | .ok summaries => .success ((summaries.map summaryLine).foldr (· ++ ·) ∅)

/-- Prints a stored notebook. -/
def showNotebook (s : Setting σ) (store : Store) (id : String) (machine : σ) : Result :=
  match store.load s.host id machine with
  | .error e => .ofStoreError ∅ e
  | .ok none => .notFound ∅ id
  | .ok (some notebook) =>
    .success (titleLines notebook.title id ++ (notebook.cells.map cellLines).foldr (· ++ ·) ∅)

/-- Deletes a stored notebook. -/
def deleteNotebook (s : Setting σ) (store : Store) (id : String) (machine : σ) : Result × σ :=
  match store.delete s.host id machine with
  | (.error e, machine) => (.ofStoreError ∅ e, machine)
  | (.ok false, machine) => (.notFound ∅ id, machine)
  | (.ok true, machine) => (.success (.line ("Deleted notebook " ++ id)), machine)

/-- Stores a new notebook with one empty code cell. -/
def newNotebook (s : Setting σ) (store : Store) (id : String) (title : Option String) (machine : σ) :
    Result × σ :=
  match store.load s.host id machine with
  | .error e => (.ofStoreError ∅ e, machine)
  | .ok (some _) => (.failure ∅ ("Notebook " ++ id ++ " already exists") none, machine)
  | .ok none =>
    let (bytes, machine) := s.host.freshBytes machine
    let blank := Notebook.empty id (title.getD Notebook.defaultTitle)
    let notebook := { blank with cells := [Cell.code (Uuid.ofBytes bytes) ""] }
    match store.save s.host id notebook machine with
    | ((.error e, _), machine) => (.ofStoreError ∅ e, machine)
    | ((.ok file, _), machine) =>
      (.success (.line ("Created new notebook: " ++ file.text)), machine)

/-! ## Carrying out a command line -/

/-- The variable that names the directory of the stored notebooks. -/
def notebooksVariable : String := "QUILL_NOTEBOOKS_DIR"

/-- The user's directory for data, where there is a home directory. -/
def dataDirectory? (h : Host σ) : Option Path :=
  let named := (h.environment.get? "XDG_DATA_HOME").map Path.mk
  match named.filter Path.isAbsolute with
  | some dir => some dir
  | none => h.home?.map fun home => home ++ ".local/share"

/-- The directory of the stored notebooks: the one on the command line, else the one that the
environment names, else one in the user's directory for data. -/
def notebooksDirectory? (h : Host σ) (i : Invocation) : Option Path :=
  let named := i.notebooksDirectory.or ((h.environment.get? notebooksVariable).map Path.mk)
  named.or ((dataDirectory? h).map fun dir => dir ++ "quill" ++ "notebooks")

/-- Opens the store and hands it to a task. -/
def withStore (s : Setting σ) (i : Invocation) (task : Store → σ → Result × σ) (machine : σ) :
    Result × σ :=
  match notebooksDirectory? s.host i with
  | none => (.failure ∅ "No data directory; pass --notebooks-dir" none, machine)
  | some directory =>
    match Store.open? s.host directory machine with
    | (.error e, machine) => (.ofStoreError ∅ e, machine)
    | (.ok store, machine) => task store machine

/-- Carries out a command line. -/
def Invocation.run (i : Invocation) (h : Host σ) (processes : Processes σ) (input : Bytes)
    (machine : σ) : Result × σ :=
  let config := Config.ofEnvironment h
  let s : Setting σ := {
    host := h
    processes
    config := { config with
      workingDirectory := i.workingDirectory.getD config.workingDirectory }
    input }
  match i.task with
  | .exec code json => exec s code json machine
  | .run id => withStore s i (fun store => runNotebook s store id) machine
  | .list => withStore s i (fun store m => (listNotebooks s store m, m)) machine
  | .show id => withStore s i (fun store m => (showNotebook s store id m, m)) machine
  | .delete id => withStore s i (fun store => deleteNotebook s store id) machine
  | .new id title => withStore s i (fun store => newNotebook s store id title) machine

/-- What is printed for a command line that makes no sense. -/
def usage : String := Text.join "\n" [
  "error: invalid arguments",
  "",
  "Usage: quill [--verbose] [--notebooks-dir <DIR>] [--cwd <DIR>] <COMMAND>",
  "",
  "Commands:",
  "  exec <CODE> [--json]",
  "  run <ID>",
  "  list",
  "  show <ID>",
  "  delete <ID>",
  "  new <ID> [--title <TITLE>]",
  ""]

/-- Carries out the arguments of a command line. -/
def runArgs (args : List String) (h : Host σ) (processes : Processes σ) (input : Bytes)
    (machine : σ) : Result × σ :=
  match Invocation.ofArgs? args with
  | some i => i.run h processes input machine
  | none => (⟨⟨"", usage⟩, 2⟩, machine)

end NotebookKernel.CommandLine
