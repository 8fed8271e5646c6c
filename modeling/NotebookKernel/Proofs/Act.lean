import NotebookKernel.Act

/-!
# What an action gives, and whether it gives anything

`Act.Gives` carries a statement about the value of an action through its parts. `Act.Ends` says that
there is a value, which is to say that the action does not panic, and `Act.Leaves` that something read
off the state is not changed.
-/

namespace NotebookKernel

namespace Act

variable {σ τ α β : Type} {Q : α → Prop}

/-- An action that ends with a value has gone through both of its parts. -/
theorem exists_of_bind_run {act : Act σ α} {next : α → Act σ β} {s u : σ} {b : β}
    (h : (act >>= next) s = (some b, u)) :
    ∃ a t, act s = (some a, t) ∧ next a t = (some b, u) := by
  rcases hact : act s with ⟨_ | a, t⟩
  · rw [bind_run_of_none hact] at h
    cases h
  · rw [bind_run_of_some hact] at h
    exact ⟨a, t, rfl, h⟩

/-- Whatever value the action ends with satisfies `Q`. -/
def Gives (Q : α → Prop) (act : Act σ α) : Prop :=
  ∀ s a, (act s).1 = some a → Q a

theorem gives_pure {a : α} (h : Q a) : Gives Q (Pure.pure a : Act σ α) := by
  rintro s _ ⟨⟩
  exact h

/-- What holds of the value in between may be used for the action that follows. -/
theorem Gives.bind {R : β → Prop} {act : Act σ α} {next : α → Act σ β} (h : Gives Q act)
    (hnext : ∀ a, Q a → Gives R (next a)) : Gives R (act >>= next) := by
  intro s b hb
  rcases hact : act s with ⟨_ | a, t⟩
  · rw [bind_run_of_none hact] at hb
    cases hb
  · rw [bind_run_of_some hact] at hb
    exact hnext a (h s a (by rw [hact])) t b hb

theorem gives_true (act : Act σ α) : Gives (fun _ => True) act := fun _ _ _ => trivial

theorem gives_bind {R : β → Prop} {act : Act σ α} {next : α → Act σ β}
    (h : ∀ a, Gives R (next a)) : Gives R (act >>= next) :=
  (gives_true act).bind fun a _ => h a

/-- Whatever the state, the action ends with a value. -/
def Ends (act : Act σ α) : Prop :=
  ∀ s, ∃ a t, act s = (some a, t)

theorem ends_pure (a : α) : Ends (Pure.pure a : Act σ α) := fun s => ⟨a, s, rfl⟩

theorem ends_ofUpdate (f : σ → α × σ) : Ends (ofUpdate f) := fun _ => ⟨_, _, rfl⟩

theorem Ends.bind {act : Act σ α} {next : α → Act σ β} (h : Ends act)
    (hnext : ∀ a, Ends (next a)) : Ends (act >>= next) := by
  intro s
  obtain ⟨a, t, hrun⟩ := h s
  obtain ⟨b, u, hrun'⟩ := hnext a t
  exact ⟨b, u, by rw [bind_run_of_some hrun, hrun']⟩

theorem Ends.onPanic {act : Act σ α} (h : Ends act) (cleanup : Act σ Unit) :
    Ends (act.onPanic cleanup) := by
  intro s
  obtain ⟨a, t, hrun⟩ := h s
  exact ⟨a, t, by simp only [Act.onPanic, hrun]⟩

theorem Ends.zoom {part : τ → σ} {update : τ → σ → τ} {act : Act σ α} (h : Ends act) :
    Ends (act.zoom part update) := by
  intro t
  obtain ⟨a, s, hrun⟩ := h (part t)
  exact ⟨a, update t s, by simp only [Act.zoom, hrun]⟩

/-- The action does not change what `f` reads off the state. -/
def Leaves {γ : Type} (f : σ → γ) (act : Act σ α) : Prop := ∀ s, f (act s).2 = f s

variable {γ : Type} {f : σ → γ}

theorem leaves_pure (a : α) : Leaves f (Pure.pure a) := fun _ => rfl

theorem Leaves.bind {act : Act σ α} {next : α → Act σ β} (h : Leaves f act)
    (hnext : ∀ a, Leaves f (next a)) : Leaves f (act >>= next) := by
  intro s
  have hs := h s
  rcases hact : act s with ⟨_ | a, t⟩
  · rw [bind_run_of_none hact]
    rwa [hact] at hs
  · rw [bind_run_of_some hact, hnext a t]
    rwa [hact] at hs

end Act

end NotebookKernel
