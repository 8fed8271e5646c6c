import NotebookKernel.Proofs.Evaluator.Uniform
import NotebookKernel.Proofs.Host.Files
import NotebookKernel.Proofs.Kernel.PlainCells

/-!
# Evaluators that never panic

`Evaluator.AlwaysEnds` says of an evaluator that every request ends, be it with a failure. Then the work
that is made of requests ends as well. `Evaluator.bare` is such an evaluator, and `Kernel.bare` a kernel
that was just started on it.
-/

namespace NotebookKernel

open Act hiding pure

variable {σ : Type}

/-- No request makes the evaluator panic. Each may fail. -/
structure Evaluator.AlwaysEnds (ev : Evaluator σ) : Prop extends ev.NeverPanics where
  runIsolated : ∀ code file, Ends (ev.runIsolated code file)
  timeStatements : ∀ code loops, Ends (ev.timeStatements code loops)
  bindings : Ends ev.bindings
  reset : ∀ preload, Ends (ev.reset preload)
  setDirectory : ∀ dir, Ends (ev.setDirectory dir)
  setVariable : ∀ key value, Ends (ev.setVariable key value)

namespace Evaluator.AlwaysEnds

variable {ev : Evaluator σ}

theorem uniform (h : ev.AlwaysEnds) : Uniform (fun act _ => Ends act) ev ev where
  pure := ends_pure
  bind := Ends.bind
  onPanic hwork _ := hwork.onPanic _
  runStatements := h.runStatements
  evalExpression := h.evalExpression
  isExpression := h.isExpression
  beginCapture := h.beginCapture
  endCapture := h.endCapture
  takePlot := h.takePlot
  runIsolated := h.runIsolated
  timeStatements := h.timeStatements

end Evaluator.AlwaysEnds

/-- An evaluator without a namespace. Its state is the number of captures that are open, the code
`raise` fails, and there is nothing that could be reset. -/
def Evaluator.bare : Evaluator Nat where
  runStatements code :=
    pure (if code = "raise" then .error (.raised ⟨"RuntimeError", "", "RuntimeError"⟩) else .ok ())
  evalExpression _ := pure (.ok none)
  isExpression _ := pure false
  beginCapture := fun depth => (some (.ok ()), depth + 1)
  endCapture := fun depth => (some (.ok ∅), depth - 1)
  takePlot := pure (.ok none)
  runIsolated _ _ := pure (.ok ())
  timeStatements _ _ := pure (.ok ⟨0⟩)
  bindings := pure (.ok [])
  reset _ := pure (.error (.worker "there is no namespace"))
  setDirectory _ := pure (.ok ())
  setVariable _ _ := pure (.ok ())

theorem Evaluator.alwaysEnds_bare : Evaluator.bare.AlwaysEnds where
  runStatements _ := ends_pure _
  evalExpression _ := ends_pure _
  isExpression _ := ends_pure _
  beginCapture _ := ⟨_, _, rfl⟩
  endCapture _ := ⟨_, _, rfl⟩
  takePlot := ends_pure _
  runIsolated _ _ := ends_pure _
  timeStatements _ _ := ends_pure _
  bindings := ends_pure _
  reset _ := ends_pure _
  setDirectory _ := ends_pure _
  setVariable _ _ := ends_pure _

/-- A kernel in which no cell was run yet. -/
def Kernel.bare : Kernel Nat where
  context := {
    config := Config.standard (σ := Nat) Host.bare
    executionCount := 0
    interrupted := false
    workingDirectory := ⟨"/"⟩
    environment := ∅
    generation := 0 }
  machine := 0

end NotebookKernel
