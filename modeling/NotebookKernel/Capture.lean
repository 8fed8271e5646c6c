import NotebookKernel.Kernel.State
import NotebookKernel.Output
import NotebookKernel.Source.Shape
import NotebookKernel.Text.Base64

/-! # Capturing what code prints

`capture` runs a piece of work between the begin and the end of a capture, also when the work panics.
`Captured.output` shapes what was observed into the output of a cell, and `Kernel.runCode` does both for
the text of a cell. -/

namespace NotebookKernel

open Text

/-- What was observed while a piece of work ran. -/
structure Captured (α : Type) where
  outcome : Except Failure α
  streams : Streams
  /-- The plot that was pending afterwards, as the bytes of an image. -/
  plot : Option Bytes

variable {σ α : Type}

/-- Ends the capture. Streams that cannot be had are taken as empty. -/
def Evaluator.collect (ev : Evaluator σ) : Act σ Streams := do
  match ← ev.endCapture with
  | .ok streams => pure streams
  | .error _ => pure ∅

/-- Runs `work` with the streams captured. Where the capture cannot begin, the work is not run. -/
def Evaluator.capture (ev : Evaluator σ) (work : Act σ (Except Failure α)) :
    Act σ (Captured α) := do
  match ← ev.beginCapture with
  | .error failure => pure ⟨.error failure, ∅, none⟩
  | .ok () =>
    let outcome ← work.onPanic (do let _ ← ev.collect)
    let streams ← ev.collect
    let plot := match ← ev.takePlot with
      | .ok plot => plot
      | .error _ => none
    pure ⟨outcome, streams, plot⟩

/-- The parts of a text output: what was printed, and the value if nothing was. -/
def shownParts (streams : Streams) (value : Option String) : List String :=
  let stdout := trimEnd streams.stdout
  let stderr := trimEnd streams.stderr
  [stdout, stderr].filter (!·.isEmpty) ++ (if stdout.isEmpty then value.toList else [])

/-- The output of code that was run for its value. A failure is all that is shown; a plot comes with
what was printed. -/
def Captured.output (c : Captured (Option String)) : Output :=
  match c.outcome with
  | .error failure => .ofFailure failure
  | .ok value =>
    match c.plot with
    | some image => .plot c.streams.stdout (Base64.encode image)
    | none => .text (join "\n" (shownParts c.streams value))

/-! ## Running plain code

The text of a cell is run for its effects up to its last line, and the value of that line is shown if
it is an expression. -/

open Source

/-- Runs code of a known shape. An expression is not evaluated when the code before it failed. -/
def Evaluator.runShape (ev : Evaluator σ) (code : String) :
    Shape → Act σ (Except Failure (Option String))
  | .statements => do
    match ← ev.runStatements code with
    | .ok () => pure (.ok none)
    | .error failure => pure (.error failure)
  | .expression none final => ev.evalExpression final
  | .expression (some setup) final => do
    match ← ev.runStatements setup with
    | .ok () => ev.evalExpression final
    | .error failure => pure (.error failure)

/-- Classifies code, runs it and gives all that was observed. -/
def Evaluator.runCode (ev : Evaluator σ) (code : String) : Act σ (Captured (Option String)) := do
  let shape ← shape ev.isExpression code
  ev.capture (ev.runShape code shape)

namespace Kernel

/-- Runs plain code. Also tells whether it ended without a failure. -/
def executeCode (p : Platform σ) (code : String) : KernelM σ (Output × Bool) := do
  let captured ← KernelM.onMachine (p.evaluator.runCode code)
  pure (captured.output, captured.outcome.isOk)

/-- Runs plain code for its output. -/
def runCode (p : Platform σ) (code : String) : KernelM σ Output := do
  let (output, _) ← executeCode p code
  pure output

end Kernel

end NotebookKernel
