import Mathlib.Data.List.Induction
import NotebookKernel.Proofs.Kernel.Compositions

/-!
# Runs of a kernel

A run is a sequence of operations of one kernel. An operation that panics leaves a kernel that goes on
with the next one. `Kernel.steps` is the history of a run: every operation with the kernel as it was
before it.
-/

namespace NotebookKernel

variable {σ : Type}

/-- What can be asked of a kernel. -/
inductive Kernel.Operation where
  | execute (cell : String)
  | reset
  | listVariables
  | setWorkingDirectory (raw : String)
  | requestInterrupt
  deriving DecidableEq, Repr

namespace Kernel

/-- Does what is asked. What comes of it besides the change of the kernel is dropped. -/
def Operation.perform (p : Platform σ) : Operation → KernelM σ Unit
  | .execute cell => do let _ ← Kernel.execute p (Magic.builtins p) cell
  | .reset => do let _ ← Kernel.reset p
  | .listVariables => do let _ ← panel p
  | .setWorkingDirectory raw => do let _ ← Kernel.setWorkingDirectory p raw
  | .requestInterrupt => Kernel.requestInterrupt

/-- The kernel after an operation, also one that panics. -/
def Operation.next (p : Platform σ) (op : Operation) (k : Kernel σ) : Kernel σ :=
  (op.perform p k).2

theorem next_execute (p : Platform σ) (cell : String) (k : Kernel σ) :
    Operation.next p (.execute cell) k = (execute p (Magic.builtins p) cell k).2 := by
  rcases hrun : execute p (Magic.builtins p) cell k with ⟨_ | output, k'⟩
  · exact congrArg Prod.snd (Act.bind_run_of_none hrun _)
  · exact congrArg Prod.snd (Act.bind_run_of_some hrun _)

/-- The kernel at the end of a run. -/
def after (p : Platform σ) (ops : List Operation) (k : Kernel σ) : Kernel σ :=
  ops.foldl (fun k op => op.next p k) k

/-- An operation within a run. -/
structure Step (σ : Type) where
  operation : Operation
  /-- The kernel just before. -/
  before : Kernel σ

/-- The steps of a run, the first one first. -/
def steps (p : Platform σ) : List Operation → Kernel σ → List (Step σ)
  | [], _ => []
  | op :: ops, k => ⟨op, k⟩ :: steps p ops (op.next p k)

variable (p : Platform σ) (ops : List Operation) (op : Operation) (k : Kernel σ)

theorem after_concat : after p (ops ++ [op]) k = op.next p (after p ops k) := by
  simp only [after, List.foldl_append, List.foldl_cons, List.foldl_nil]

theorem steps_concat : steps p (ops ++ [op]) k = steps p ops k ++ [⟨op, after p ops k⟩] := by
  induction ops generalizing k with
  | nil => rfl
  | cons first ops ih =>
    simp only [List.cons_append, steps, ih]
    rfl

theorem map_operation_steps : (steps p ops k).map Step.operation = ops := by
  induction ops generalizing k with
  | nil => rfl
  | cons first ops ih => simp only [steps, List.map_cons, ih]

end Kernel

namespace KernelM.Composes

variable {τ : Type} {p : Platform σ} {q : Platform τ}
  {Quiet Busy : {α : Type} → KernelM σ α → KernelM τ α → Prop}

/-- What relates the requests, a reset and the changes of the context that cells and interrupts make
relates every operation. -/
theorem perform (h : Composes p q Quiet Busy) (hreset : Quiet (Kernel.reset p) (Kernel.reset q))
    (hinterrupted : ∀ b, Quiet (modifyContext (σ := σ) fun c => { c with interrupted := b })
      (modifyContext fun c => { c with interrupted := b }))
    (hcount : Quiet
      (modifyContext (σ := σ) fun c => { c with executionCount := c.executionCount + 1 })
      (modifyContext fun c => { c with executionCount := c.executionCount + 1 }))
    (op : Kernel.Operation) : Busy (op.perform p) (op.perform q) := by
  cases op with
  | execute cell =>
    exact h.after (h.execute hreset (hinterrupted false) hcount cell) fun _ => h.pure _
  | reset => exact h.busy (h.bind hreset fun _ => h.pure _)
  | listVariables =>
    exact h.busy (h.bind (h.bind h.bindings fun _ => h.pure _) fun _ => h.pure _)
  | setWorkingDirectory raw =>
    exact h.busy (h.bind (h.setWorkingDirectory raw) fun _ => h.pure _)
  | requestInterrupt => exact h.busy (hinterrupted true)

end KernelM.Composes

end NotebookKernel
