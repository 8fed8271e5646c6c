import NotebookKernel.Magic.Builtins

/-! # Running a cell

A cell is a shell command, a magic or plain code, in this order. A magic that the registry does not
know is plain code. The execution counter goes up by one for every cell that counts, unless the cell
replaced the namespace. -/

namespace NotebookKernel.Kernel

open KernelM Source

variable {σ : Type}

/-- The arguments of a command that calls the package installer. -/
def pipArguments? (command : String) : Option String :=
  if command = "pip" then some ""
  else (Text.stripStart? "pip " command).map Text.trim

/-- Runs a shell command. Tells whether it counts: a command that did not run to its end does not,
but a call of the package installer always does. -/
def shellEscape (p : Platform σ) (command : String) : KernelM σ (Output × Bool) := do
  match pipArguments? command with
  | some args => pure (← runPip p args, true)
  | none =>
    match ← runShell p command with
    | .ok finished =>
      let written := Text.trimEnd finished.combined
      pure (.text (if written.isEmpty then "(no output)" else written), true)
    | .error failure => pure (shelloutFailed failure, false)

/-- Runs a trimmed cell that is not empty. Tells whether it counts. -/
def route (p : Platform σ) (r : Registry (Handler σ)) (code : String) :
    KernelM σ (Output × Bool) :=
  match Text.stripStart? "!" code with
  | some command => shellEscape p (Text.trim command)
  | none =>
    let magic? := (Directive.ofCell? code).bind fun d =>
      (r.lookup d.scope d.name).map fun handler => handler d
    match magic? with
    | some magic => do pure (← magic, true)
    | none => executeCode p code

/-- Runs a cell and gives its output. A cell of blanks has an empty output and does nothing. -/
def execute (p : Platform σ) (r : Registry (Handler σ)) (cell : String) : KernelM σ Output := do
  modifyContext fun c => { c with interrupted := false }
  let code := Text.trim cell
  if code.isEmpty then pure (.text "")
  else
    let before := (← getContext).generation
    let (output, counts) ← route p r code
    if counts && (← getContext).generation == before then
      modifyContext fun c => { c with executionCount := c.executionCount + 1 }
    pure output

/-- The user's variables. -/
def panel (p : Platform σ) : KernelM σ (Except Failure (List Variable)) := do
  let bindings ← onMachine p.evaluator.bindings
  pure (bindings.map Variables.panel)

/-- Asks the running cell to stop. -/
def requestInterrupt : KernelM σ Unit :=
  modifyContext fun c => { c with interrupted := true }

end NotebookKernel.Kernel
