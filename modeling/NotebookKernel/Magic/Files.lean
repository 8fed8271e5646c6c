import NotebookKernel.Registry
import NotebookKernel.Capture

/-! # Magics for files and directories -/

namespace NotebookKernel.Magic

open KernelM

variable {σ : Type}

/-- The output of a file operation that the system refused. -/
def refused (path : Path) (e : OsError) : Output :=
  .error (path.text ++ ": " ++ e.message)

/-- Shows the working directory. -/
def printDirectory (_ : Platform σ) : Handler σ := fun _ => do
  pure (.text (← getContext).workingDirectory.text)

/-- Changes the working directory, without an argument to the home directory. -/
def changeDirectory (p : Platform σ) : Handler σ := fun d => do
  let target :=
    if d.args.isEmpty then p.host.home?.map (·.text) else some d.args
  match target with
  | none => pure (.error "cd: could not determine home directory")
  | some target =>
    if ← Kernel.setWorkingDirectory p target then printDirectory p d
    else pure (.error ("cd: no such directory: " ++ target))

/-- The order of a listing: directories first, then by the lower-case name. -/
def listedBefore (a b : DirectoryEntry) : Bool :=
  if a.isDirectory == b.isDirectory then
    decide (Text.lowercase a.name ≤ Text.lowercase b.name)
  else a.isDirectory

/-- The listing of a directory's entries. -/
def listing (entries : List DirectoryEntry) : String :=
  if entries.isEmpty then "(empty)"
  else Text.join "\n" ((entries.mergeSort listedBefore).map fun e =>
    (if e.isDirectory then "d " else "f ") ++ e.name)

/-- Lists a directory, without an argument the working directory. -/
def listDirectory (p : Platform σ) : Handler σ := fun d => do
  let k ← Act.get
  let dir := k.context.resolve p.host (if d.args.isEmpty then "." else d.args)
  match p.host.readDirectory dir k.machine with
  | .error e => pure (refused dir e)
  | .ok entries => pure (.text (listing entries))

/-- The path and the text of the file that an argument names, or the output that says why there is
none. -/
def readArgument (p : Platform σ) (raw : String) : KernelM σ (Except Output (Path × String)) := do
  if raw.isEmpty then pure (.error (.error "missing file path"))
  else
    let k ← Act.get
    let path := k.context.resolve p.host raw
    match p.host.readText path k.machine with
    | .ok text => pure (.ok (path, text))
    | .error e => pure (.error (refused path e))

/-- Shows a file. -/
def showFile (p : Platform σ) : Handler σ := fun d => do
  match ← readArgument p d.args with
  | .ok (_, text) => pure (.text text)
  | .error output => pure output

/-- Shows a file behind the directive that loaded it. -/
def loadFile (p : Platform σ) : Handler σ := fun d => do
  match ← readArgument p d.args with
  | .ok (_, text) => pure (.text ("# %load " ++ d.args ++ "\n" ++ text))
  | .error output => pure output

/-- Runs a file in a namespace of its own and shows what it printed. -/
def runFile (p : Platform σ) : Handler σ := fun d => do
  match ← readArgument p d.args with
  | .error output => pure output
  | .ok (path, text) =>
    let captured ← onMachine (p.evaluator.capture (p.evaluator.runIsolated text path.text))
    match captured.outcome with
    | .error failure => pure (.ofFailure failure)
    | .ok () =>
      let printed := Text.trimEnd (captured.streams.stdout ++ captured.streams.stderr)
      pure (.text (if printed.isEmpty then "Executed " ++ path.text else printed))

/-- Writes the body to a file, in directories that are created if missing. -/
def writeFile (p : Platform σ) : Handler σ := fun d => do
  if d.args.isEmpty then pure (.error "writefile: missing file path")
  else
    let path := (← getContext).resolve p.host d.args
    let made ← match path.parent? with
      | some dir => onMachine (Act.ofUpdate (p.host.createDirectories dir))
      | none => pure (.ok ())
    match made with
    | .error e => pure (refused path e)
    | .ok () =>
      match ← onMachine (Act.ofUpdate (p.host.writeFile path (Utf8.encode d.body))) with
      | .error e => pure (refused path e)
      | .ok () => pure (.text ("Writing " ++ d.args))

end NotebookKernel.Magic
