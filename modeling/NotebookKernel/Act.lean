/-! # Actions that may panic

An `Act σ α` changes a state of type `σ` and ends with a value of type `α`, or panics. A panic runs
past everything that was to follow, but the changes made before it stay. -/

namespace NotebookKernel

/-- An action on a state; it ends without a value when it panics. -/
def Act (σ α : Type) : Type := σ → Option α × σ

namespace Act

variable {σ τ α β : Type}

/-- Runs the action. -/
def run (act : Act σ α) (s : σ) : Option α × σ := act s

def pure (a : α) : Act σ α := fun s => (some a, s)

def bind (act : Act σ α) (next : α → Act σ β) : Act σ β := fun s =>
  match act s with
  | (some a, s) => next a s
  | (none, s) => (none, s)

instance : Monad (Act σ) where
  pure := pure
  bind := bind

/-- Ends without a value. -/
def panic : Act σ α := fun s => (none, s)

/-- The state. -/
def get : Act σ σ := fun s => (some s, s)

def set (s : σ) : Act σ Unit := fun _ => (some (), s)

def modify (f : σ → σ) : Act σ Unit := fun s => (some (), f s)

/-- A change of the state that gives a value. -/
def ofUpdate (f : σ → α × σ) : Act σ α := fun s => ((f s).1, (f s).2)

/-- A value read off the state. -/
def gets (f : σ → α) : Act σ α := fun s => (some (f s), s)

/-- Runs `cleanup` when `act` panics, and goes on panicking. -/
def onPanic (act : Act σ α) (cleanup : Act σ Unit) : Act σ α := fun s =>
  match act s with
  | (some a, s) => (some a, s)
  | (none, s) => (none, (cleanup s).2)

/-- An action on a part of a state, as one on the whole. -/
def zoom (part : τ → σ) (update : τ → σ → τ) (act : Act σ α) : Act τ α := fun t =>
  let (a, s) := act (part t)
  (a, update t s)

@[simp] theorem pure_run (a : α) (s : σ) : (Pure.pure a : Act σ α) s = (some a, s) := rfl

theorem bind_run (act : Act σ α) (next : α → Act σ β) (s : σ) :
    (act >>= next) s = match act s with
      | (some a, s) => next a s
      | (none, s) => (none, s) := rfl

theorem bind_run_of_some {act : Act σ α} {a : α} {s t : σ} (h : act s = (some a, t))
    (next : α → Act σ β) : (act >>= next) s = next a t := by
  rw [bind_run, h]

theorem bind_run_of_none {act : Act σ α} {s t : σ} (h : act s = (none, t))
    (next : α → Act σ β) : (act >>= next) s = (none, t) := by
  rw [bind_run, h]

instance : LawfulMonad (Act σ) := by
  refine LawfulMonad.mk' (Act σ) (fun x => ?_) (fun _ _ => rfl) (fun x f g => ?_)
  · funext s
    rcases h : x s with ⟨_ | a, t⟩
    · exact bind_run_of_none h _
    · exact bind_run_of_some h _
  · funext s
    rcases h : x s with ⟨_ | a, t⟩
    · rw [bind_run_of_none (bind_run_of_none h f) g, bind_run_of_none h]
    · rw [bind_run_of_some h, bind_run, bind_run_of_some h]
      rfl

end Act

end NotebookKernel
