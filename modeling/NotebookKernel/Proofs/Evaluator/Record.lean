import NotebookKernel.Magic.Builtins
import NotebookKernel.Kernel.State
import NotebookKernel.Worker.Message

/-!
# Recording what an evaluator is asked

`Evaluator.recorded` does what the evaluator does and writes down every request, together with the
state in which it was made. `Act.Records` says of an action on the recorded evaluator that it ends as
the action on the plain one does, and what it adds to the record.
-/

namespace NotebookKernel

/-- A request to an evaluator. -/
structure Asked (σ : Type) where
  /-- The command in which a worker would get the request. -/
  command : Command
  /-- The state in which it was made. -/
  before : σ

variable {σ τ τ' α β E : Type}

namespace Act

/-- The action on a state with a record, into which a request is entered. -/
def recorded (command : Command) (act : Act σ α) : Act (σ × List (Asked σ)) α := fun (s, asked) =>
  ((act s).1, (act s).2, asked ++ [⟨command, s⟩])

/-- On a state joined with a record, `act'` ends as `act` does on the state alone. It adds to the
record, and `P` holds of its value and of what it added. -/
def Records (join : τ → List E → τ') (P : α → List E → Prop) (act' : Act τ' α) (act : Act τ α) :
    Prop :=
  ∀ s record, ∃ added, act' (join s record) = ((act s).1, join (act s).2 (record ++ added)) ∧
    ∀ a, (act s).1 = some a → P a added

variable {join : τ → List E → τ'} {P : α → List E → Prop}

/-- On a state joined with a record, `act'` ends as `act` does on the state alone, and leaves the record
as it is. -/
def Silent (join : τ → List E → τ') (act' : Act τ' α) (act : Act τ α) : Prop :=
  ∀ s record, act' (join s record) = ((act s).1, join (act s).2 record)

theorem records_pure {a : α} (h : P a []) :
    Records join P (Pure.pure a : Act τ' α) (Pure.pure a : Act τ α) :=
  fun s record => ⟨[], by rw [List.append_nil]; rfl, by rintro _ ⟨⟩; exact h⟩

theorem Records.mono {act' : Act τ' α} {act : Act τ α} (h : Records join P act' act)
    {Q : α → List E → Prop} (hPQ : ∀ a added, P a added → Q a added) :
    Records join Q act' act := by
  intro s record
  obtain ⟨added, hrun, hP⟩ := h s record
  exact ⟨added, hrun, fun a ha => hPQ a added (hP a ha)⟩

theorem Records.bind {R : β → List E → Prop} {act' : Act τ' α} {act : Act τ α}
    {next' : α → Act τ' β} {next : α → Act τ β} (h : Records join P act' act)
    (hnext : ∀ a, Records join (fun b later => ∀ earlier, P a earlier → R b (earlier ++ later))
      (next' a) (next a)) :
    Records join R (act' >>= next') (act >>= next) := by
  intro s record
  obtain ⟨earlier, hrun, hP⟩ := h s record
  rcases hact : act s with ⟨_ | a, t⟩
  · rw [hact] at hrun
    refine ⟨earlier, ?_, ?_⟩
    · rw [bind_run_of_none hact, bind_run_of_none hrun]
    · rw [bind_run_of_none hact]
      rintro b ⟨⟩
  · rw [hact] at hrun
    obtain ⟨later, hrun', hR⟩ := hnext a t (record ++ earlier)
    refine ⟨earlier ++ later, ?_, ?_⟩
    · rw [bind_run_of_some hact, bind_run_of_some hrun, hrun', List.append_assoc]
    · rw [bind_run_of_some hact]
      exact fun b hb => hR b hb earlier (hP a (by rw [hact]))

theorem Silent.bind {R : β → List E → Prop} {act' : Act τ' α} {act : Act τ α}
    {next' : α → Act τ' β} {next : α → Act τ β} (h : Silent join act' act)
    (hnext : ∀ a, Records join R (next' a) (next a)) :
    Records join R (act' >>= next') (act >>= next) := by
  have hsilent : Records join (fun _ added => added = []) act' act :=
    fun s record => ⟨[], by rw [h, List.append_nil], fun _ _ => rfl⟩
  refine hsilent.bind fun a => (hnext a).mono fun b later hR earlier hearlier => ?_
  rwa [hearlier, List.nil_append]

/-- What is done when the action panics may be recorded as well. -/
theorem Records.onPanic {Q : Unit → List E → Prop} {act' : Act τ' α} {act : Act τ α}
    {cleanup' : Act τ' Unit} {cleanup : Act τ Unit} (h : Records join P act' act)
    (hcleanup : Records join Q cleanup' cleanup) :
    Records join P (act'.onPanic cleanup') (act.onPanic cleanup) := by
  intro s record
  obtain ⟨added, hrun, hP⟩ := h s record
  rcases hact : act s with ⟨_ | a, t⟩
  · rw [hact] at hrun
    obtain ⟨later, hclean, -⟩ := hcleanup t (record ++ added)
    refine ⟨added ++ later, ?_, ?_⟩
    · simp only [Act.onPanic, hact, hrun, hclean, List.append_assoc]
    · simp [Act.onPanic, hact]
  · rw [hact] at hrun hP
    exact ⟨added, by simp only [Act.onPanic, hact, hrun], by simpa [Act.onPanic, hact] using hP⟩

/-- A recorded request adds itself. -/
theorem records_recorded (command : Command) (act : Act σ α) :
    Records Prod.mk (fun a added => ∃ s, added = [⟨command, s⟩] ∧ (act s).1 = some a)
      (act.recorded command) act :=
  fun s _ => ⟨[⟨command, s⟩], rfl, fun _ ha => ⟨s, rfl, ha⟩⟩

end Act

/-- The evaluator with a record of all requests, the earliest first. -/
def Evaluator.recorded (ev : Evaluator σ) : Evaluator (σ × List (Asked σ)) where
  runStatements code := (ev.runStatements code).recorded (.exec code)
  evalExpression code := (ev.evalExpression code).recorded (.eval code)
  isExpression line := (ev.isExpression line).recorded (.probe line)
  beginCapture := ev.beginCapture.recorded .captureBegin
  endCapture := ev.endCapture.recorded .captureEnd
  takePlot := ev.takePlot.recorded .plot
  runIsolated code file := (ev.runIsolated code file).recorded (.runFile code file)
  timeStatements code loops := (ev.timeStatements code loops).recorded (.time code (.ofNat loops))
  bindings := ev.bindings.recorded .bindings
  reset preload := (ev.reset preload).recorded (.reset preload)
  setDirectory path := (ev.setDirectory path).recorded (.chdir path.text)
  setVariable key value := (ev.setVariable key value).recorded (.setenv key value)

/-- The platform with a record of all requests to the evaluator. -/
def Platform.recorded (p : Platform σ) : Platform (σ × List (Asked σ)) where
  evaluator := p.evaluator.recorded
  host := p.host.zoom Prod.fst fun t s => (s, t.2)

namespace Kernel

/-- The kernel on a machine with a record. -/
def withRecord (k : Kernel σ) (asked : List (Asked σ)) : Kernel (σ × List (Asked σ)) :=
  ⟨k.context, k.machine, asked⟩

end Kernel

namespace KernelM

open Act Kernel

variable {P : α → List (Asked σ) → Prop}

theorem records_onMachine {act' : Act (σ × List (Asked σ)) α} {act : Act σ α}
    (h : Records Prod.mk P act' act) : Records withRecord P (onMachine act') (onMachine act) := by
  intro k record
  obtain ⟨added, hrun, hP⟩ := h k.machine record
  refine ⟨added, ?_, hP⟩
  have hrun' : act' (withRecord k record).machine = _ := hrun
  simp only [onMachine, Act.zoom, hrun']
  rfl

theorem silent_onMachine {act' : Act (σ × List (Asked σ)) α} {act : Act σ α}
    (h : Silent Prod.mk act' act) : Silent withRecord (onMachine act') (onMachine act) := by
  intro k record
  have hrun : act' (withRecord k record).machine = _ := h k.machine record
  simp only [onMachine, Act.zoom, hrun]
  rfl

theorem silent_getContext : Silent withRecord getContext (getContext (σ := σ)) :=
  fun _ _ => rfl

theorem silent_modifyContext (f : Context → Context) :
    Silent withRecord (modifyContext f) (modifyContext (σ := σ) f) :=
  fun _ _ => rfl

end KernelM

end NotebookKernel
