import NotebookKernel.Kernel.State
import NotebookKernel.Output
import NotebookKernel.Source.Directive

/-! # Handlers of magics and their tables

A registry has one table for line magics and one for cell magics. Names are told apart in lower case
only. -/

namespace NotebookKernel

open Source

/-- What a magic does: it turns its directive into an output. -/
abbrev Handler (σ : Type) := Directive → KernelM σ Output

/-- Handlers by the scope and the name of their directives. -/
structure Registry (H : Type) where
  line : SortedMap H
  cell : SortedMap H

namespace Registry

variable {H : Type}

instance : EmptyCollection (Registry H) := ⟨⟨∅, ∅⟩⟩

def table (r : Registry H) : Scope → SortedMap H
  | .line => r.line
  | .cell => r.cell

/-- Adds a handler, in exchange for one of the same name. -/
def register (r : Registry H) (scope : Scope) (name : String) (handler : H) : Registry H :=
  match scope with
  | .line => { r with line := r.line.insert (Text.lowercase name) handler }
  | .cell => { r with cell := r.cell.insert (Text.lowercase name) handler }

def lookup (r : Registry H) (scope : Scope) (name : String) : Option H :=
  (r.table scope).get? (Text.lowercase name)

/-- The names of one scope in ascending order. -/
def names (r : Registry H) (scope : Scope) : List String :=
  (r.table scope).keys

theorem table_register (r : Registry H) (scope scope' : Scope) (name : String) (handler : H) :
    (r.register scope name handler).table scope' =
      if scope = scope' then (r.table scope').insert (Text.lowercase name) handler
      else r.table scope' := by
  cases scope <;> cases scope' <;> rfl

end Registry

end NotebookKernel
