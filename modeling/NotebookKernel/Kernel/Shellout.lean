import NotebookKernel.Kernel.State
import NotebookKernel.Output

/-! # Shell commands and other child processes

Every child process is started in the working directory and with the environment of the kernel. -/

namespace NotebookKernel

/-- What a child process left behind. -/
structure Finished where
  /-- The exit code, unless a signal killed the process. -/
  code : Option Nat
  stdout : String
  stderr : String
  deriving DecidableEq, Repr

namespace Finished

/-- What was written to the first stream and then what was written to the second. -/
def combined (f : Finished) : String := f.stdout ++ f.stderr

def succeeded (f : Finished) : Bool := f.code == some 0

end Finished

namespace Shellout

variable {σ : Type}

/-- Runs a child process to its end. Bytes that are no UTF-8 are replaced. -/
def run (h : Host σ) (launch : Launch) : Act σ (Except Failure Finished) := fun s =>
  match h.run launch s with
  | (.notStarted e, s) =>
    (some (.error (.shell ("failed to start command: " ++ e.message))), s)
  | (.timedOut, s) => (some (.error (.timeout launch.timeout)), s)
  | (.finished code stdout stderr, s) =>
    (some (.ok ⟨code, Utf8.decodeLossy stdout, Utf8.decodeLossy stderr⟩), s)

/-- The process that hands a command to the shell. -/
def shellLaunch (command : String) (directory : Path) (environment : SortedMap String)
    (timeout : Duration) : Launch :=
  { program := "/bin/sh", args := ["-c", command], directory, environment, timeout }

/-- The process that runs the package installer of an interpreter. -/
def pipLaunch (python : Path) (args : String) (directory : Path) (environment : SortedMap String)
    (timeout : Duration) : Launch :=
  { program := python.text, args := "-m" :: "pip" :: Text.words args, directory, environment, timeout }

end Shellout

namespace Kernel

open KernelM

variable {σ : Type}

/-- Hands a command to the shell. -/
def runShell (p : Platform σ) (command : String) : KernelM σ (Except Failure Finished) := do
  let c ← getContext
  onMachine (Shellout.run p.host
    (Shellout.shellLaunch command c.workingDirectory c.environment c.config.shellTimeout))

/-- The output of a command that took too long. -/
def timedOut (limit : Duration) : Output :=
  .error ("Command timed out (" ++ toString limit.wholeSeconds ++ "s)")

/-- The output of a child process that gave no result. -/
def shelloutFailed : Failure → Output
  | .timeout limit => timedOut limit
  | failure => .ofFailure failure

/-- Runs the package installer and shows what it wrote. -/
def runPip (p : Platform σ) (args : String) : KernelM σ Output := do
  let k ← Act.get
  let c := k.context
  match c.config.pythonExecutable p.host k.machine with
  | .error failure => pure (.ofFailure failure)
  | .ok python =>
    match ← onMachine (Shellout.run p.host
        (Shellout.pipLaunch python args c.workingDirectory c.environment c.config.pipTimeout)) with
    | .ok finished => pure (.text finished.combined)
    | .error failure => pure (shelloutFailed failure)

end Kernel

end NotebookKernel
