import NotebookKernel.Proofs.Act
import NotebookKernel.Proofs.Evaluator.Record

/-!
# Traces

`Act.Traces` says of an action on a state with a record that it ends as the action on the state alone
does, also when it panics, and how what it adds to the record lies between the states before and after.
-/

namespace NotebookKernel

variable {σ τ τ' α β E : Type}

namespace Act

/-- On a state joined with a record, `act'` ends as `act` does on the state alone, and `P` holds of the
state before, of what is added to the record and of the end. -/
def Traces (join : τ → List E → τ') (P : τ → List E → Option α × τ → Prop) (act' : Act τ' α)
    (act : Act τ α) : Prop :=
  ∀ s record, ∃ added, act' (join s record) = ((act s).1, join (act s).2 (record ++ added)) ∧
    P s added (act s)

variable {join : τ → List E → τ'} {P : τ → List E → Option α × τ → Prop}

theorem Silent.traces {act' : Act τ' α} {act : Act τ α} (h : Silent join act' act)
    (hP : ∀ s, P s [] (act s)) : Traces join P act' act :=
  fun s record => ⟨[], by rw [h, List.append_nil], hP s⟩

theorem traces_pure {a : α} (h : ∀ s, P s [] (some a, s)) :
    Traces join P (Pure.pure a : Act τ' α) (Pure.pure a : Act τ α) :=
  Silent.traces (fun _ _ => rfl) h

theorem Traces.mono {act' : Act τ' α} {act : Act τ α} (h : Traces join P act' act)
    {Q : τ → List E → Option α × τ → Prop} (hPQ : ∀ s added r, P s added r → Q s added r) :
    Traces join Q act' act := by
  intro s record
  obtain ⟨added, hrun, hP⟩ := h s record
  exact ⟨added, hrun, hPQ s added _ hP⟩

/-- Of what follows only that has to be traced which can follow. -/
theorem Traces.bind_of_reached {Q : α → τ → List E → Option β × τ → Prop}
    {R : τ → List E → Option β × τ → Prop} {act' : Act τ' α} {act : Act τ α}
    {next' : α → Act τ' β} {next : α → Act τ β} (h : Traces join P act' act)
    (hnext : ∀ s earlier a t, P s earlier (some a, t) → Traces join (Q a) (next' a) (next a))
    (hnone : ∀ s added t, P s added (none, t) → R s added (none, t))
    (hsome : ∀ s earlier a t later r, P s earlier (some a, t) → Q a t later r →
      R s (earlier ++ later) r) :
    Traces join R (act' >>= next') (act >>= next) := by
  intro s record
  obtain ⟨earlier, hrun, hP⟩ := h s record
  rcases hact : act s with ⟨_ | a, t⟩
  · rw [hact] at hrun hP
    refine ⟨earlier, ?_, ?_⟩
    · rw [bind_run_of_none hact, bind_run_of_none hrun]
    · rw [bind_run_of_none hact]
      exact hnone s earlier t hP
  · rw [hact] at hrun hP
    obtain ⟨later, hrun', hQ⟩ := hnext s earlier a t hP t (record ++ earlier)
    refine ⟨earlier ++ later, ?_, ?_⟩
    · rw [bind_run_of_some hact, bind_run_of_some hrun, hrun', List.append_assoc]
    · rw [bind_run_of_some hact]
      exact hsome s earlier a t later _ hP hQ

theorem Traces.bind {Q : α → τ → List E → Option β × τ → Prop}
    {R : τ → List E → Option β × τ → Prop} {act' : Act τ' α} {act : Act τ α}
    {next' : α → Act τ' β} {next : α → Act τ β} (h : Traces join P act' act)
    (hnext : ∀ a, Traces join (Q a) (next' a) (next a))
    (hnone : ∀ s added t, P s added (none, t) → R s added (none, t))
    (hsome : ∀ s earlier a t later r, P s earlier (some a, t) → Q a t later r →
      R s (earlier ++ later) r) :
    Traces join R (act' >>= next') (act >>= next) :=
  h.bind_of_reached (fun _ _ a _ _ => hnext a) hnone hsome

theorem Traces.onPanic {Q : τ → List E → Option Unit × τ → Prop}
    {R : τ → List E → Option α × τ → Prop} {act' : Act τ' α} {act : Act τ α}
    {cleanup' : Act τ' Unit} {cleanup : Act τ Unit} (h : Traces join P act' act)
    (hcleanup : Traces join Q cleanup' cleanup)
    (hsome : ∀ s added a t, P s added (some a, t) → R s added (some a, t))
    (hnone : ∀ s earlier t later r, P s earlier (none, t) → Q t later r →
      R s (earlier ++ later) (none, r.2)) :
    Traces join R (act'.onPanic cleanup') (act.onPanic cleanup) := by
  intro s record
  obtain ⟨earlier, hrun, hP⟩ := h s record
  rcases hact : act s with ⟨_ | a, t⟩
  · rw [hact] at hrun hP
    obtain ⟨later, hclean, hQ⟩ := hcleanup t (record ++ earlier)
    refine ⟨earlier ++ later, ?_, ?_⟩
    · simp only [Act.onPanic, hact, hrun, hclean, List.append_assoc]
    · simpa only [Act.onPanic, hact] using hnone s earlier t later _ hP hQ
  · rw [hact] at hrun hP
    refine ⟨earlier, ?_, ?_⟩
    · simp only [Act.onPanic, hact, hrun]
    · simpa only [Act.onPanic, hact] using hsome s earlier a t hP

theorem Traces.gives {Q : α → Prop} {act' : Act τ' α} {act : Act τ α}
    (h : Traces join P act' act) (hgives : Gives Q act) :
    Traces join (fun s added r => P s added r ∧ ∀ a, r.1 = some a → Q a) act' act := by
  intro s record
  obtain ⟨added, hrun, hP⟩ := h s record
  exact ⟨added, hrun, hP, hgives s⟩

/-- What is added to the record is the same whatever is said of it. -/
theorem Traces.and {Q : τ → List E → Option α × τ → Prop} {act' : Act τ' α} {act : Act τ α}
    (hjoin : ∀ t x y, join t x = join t y → x = y) (h : Traces join P act' act)
    (hQ : Traces join Q act' act) :
    Traces join (fun s added r => P s added r ∧ Q s added r) act' act := by
  intro s record
  obtain ⟨added, hrun, hP⟩ := h s record
  obtain ⟨added', hrun', hQ⟩ := hQ s record
  have hsame : record ++ added = record ++ added' :=
    hjoin _ _ _ (congrArg Prod.snd (hrun.symm.trans hrun'))
  rw [← List.append_cancel_left hsame] at hQ
  exact ⟨added, hrun, hP, hQ⟩

/-- A recorded request adds itself. -/
theorem traces_recorded (command : Command) {act : Act σ α}
    {P : σ → List (Asked σ) → Option α × σ → Prop} (hP : ∀ s, P s [⟨command, s⟩] (act s)) :
    Traces Prod.mk P (act.recorded command) act :=
  fun s _ => ⟨[⟨command, s⟩], rfl, hP s⟩

end Act

end NotebookKernel
