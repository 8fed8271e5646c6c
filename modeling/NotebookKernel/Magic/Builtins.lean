import NotebookKernel.Kernel.Shellout
import NotebookKernel.Magic.Files
import NotebookKernel.Magic.Timing
import NotebookKernel.Registry
import NotebookKernel.Variables

/-! # The built-in magics -/

namespace NotebookKernel.Magic

open KernelM Text

variable {σ : Type}

/-! ## The namespace and the environment -/

/-- Shows a view of the bindings. -/
def showBindings (p : Platform σ) (view : List Binding → String) : Handler σ := fun _ => do
  match ← onMachine p.evaluator.bindings with
  | .ok bindings => pure (.text (view bindings))
  | .error failure => pure (.ofFailure failure)

/-- Starts over with a fresh namespace. -/
def resetNamespace (p : Platform σ) : Handler σ := fun _ => do
  match ← Kernel.reset p with
  | .ok () => pure (.text "Namespace reset.")
  | .error failure => pure (.ofFailure failure)

/-- The variables as lines, in ascending order of their names. -/
def environmentListing (environment : SortedMap String) : String :=
  join "\n" (environment.toList.map fun entry => entry.1 ++ "=" ++ entry.2)

/-- Sets a variable if the argument has an equals sign, else shows one or all of them. -/
def environment (p : Platform σ) : Handler σ := fun d => do
  match splitOnce? '=' d.args with
  | some (key, value) =>
    let key := trim key
    let value := trim value
    if key.isEmpty then pure (.error "env: missing variable name")
    else match ← Kernel.setVariable p key value with
      | .ok () => pure (.text (key ++ "=" ++ value))
      | .error failure => pure (.ofFailure failure)
  | none =>
    let environment := (← getContext).environment
    if d.args.isEmpty then pure (.text (environmentListing environment))
    else pure (.text ((environment.get? d.args).getD ""))

/-- Names the backend for plots, which is always the one that draws into the notebook. -/
def plotBackend : Handler σ := fun d =>
  if contains "inline" d.args then pure (.text "Matplotlib backend: inline (default)")
  else pure (.text ("Matplotlib args: " ++ d.args))

/-! ## The tables of magics -/

open Source

/-- Hands the body to the shell and shows what was written, as it is. -/
def shellScript (p : Platform σ) : Handler σ := fun d => do
  match ← Kernel.runShell p d.body with
  | .ok finished =>
    let written := finished.combined
    pure (.text (if written.isEmpty then "(no output)" else written))
  | .error failure => pure (Kernel.shelloutFailed failure)

/-- The built-in line magics. -/
def lineMagics (p : Platform σ) : List (String × Handler σ) := [
  ("pip", fun d => Kernel.runPip p d.args),
  ("cd", changeDirectory p),
  ("pwd", printDirectory p),
  ("ls", listDirectory p),
  ("cat", showFile p),
  ("load", loadFile p),
  ("run", runFile p),
  ("time", fun d => Timing.wallTime p d.code),
  ("timeit", fun d => Timing.timeit p d.code),
  ("who", showBindings p Variables.names),
  ("whos", showBindings p Variables.table),
  ("reset", resetNamespace p),
  ("env", environment p),
  ("matplotlib", plotBackend)]

/-- The built-in cell magics. -/
def cellMagics (p : Platform σ) : List (String × Handler σ) := [
  ("bash", shellScript p),
  ("sh", shellScript p),
  ("python", fun d => Kernel.runCode p d.body),
  ("python3", fun d => Kernel.runCode p d.body),
  ("capture", fun d => Kernel.runCode p d.body),
  ("writefile", writeFile p),
  ("time", fun d => Timing.wallTime p d.body),
  ("timeit", fun d => Timing.timeit p d.body),
  ("html", fun d => pure (.html d.body)),
  ("javascript", fun d => pure (.text ("JavaScript:\n" ++ d.body))),
  ("js", fun d => pure (.text ("JavaScript:\n" ++ d.body)))]

/-- The registry of all built-in magics. -/
def builtins (p : Platform σ) : Registry (Handler σ) :=
  let lines := (lineMagics p).foldl (fun r m => r.register .line m.1 m.2) ∅
  (cellMagics p).foldl (fun r m => r.register .cell m.1 m.2) lines

end NotebookKernel.Magic
