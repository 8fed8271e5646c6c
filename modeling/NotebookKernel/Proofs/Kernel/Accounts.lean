import NotebookKernel.Proofs.Kernel.Traces

/-!
# Accounts of all that a kernel does

`Kernel.Account` is a relation between a kernel, what is added to the record, whether there was an end
without a panic, and the kernel afterwards. It holds of every request by itself and adds up. Then it
holds of every cell, every operation and every run. Unlike a chronicle it tells the actions that panic
apart, and of a change of the directory it is only asked where there is such a directory.
-/

namespace NotebookKernel

open Act hiding pure

variable {σ α : Type}

namespace Kernel

/-- What can be said of the record of anything that a kernel does, and of whether it ends. -/
structure Account (p : Platform σ) (F : Kernel σ → List (Asked σ) → Bool → Kernel σ → Prop) :
    Prop where
  nil : ∀ k, F k [] true k
  append : ∀ {k k' k'' earlier later ends}, F k earlier true k' → F k' later ends k'' →
    F k (earlier ++ later) ends k''
  /-- What is done after a panic does not make up for it. -/
  cleanup : ∀ {k k' k'' earlier later ends}, F k earlier false k' → F k' later ends k'' →
    F k (earlier ++ later) false k''
  runStatements : ∀ code k, F k [⟨.exec code, k.machine⟩]
    (p.evaluator.runStatements code k.machine).1.isSome
    (k.onto (p.evaluator.runStatements code k.machine).2)
  evalExpression : ∀ code k, F k [⟨.eval code, k.machine⟩]
    (p.evaluator.evalExpression code k.machine).1.isSome
    (k.onto (p.evaluator.evalExpression code k.machine).2)
  isExpression : ∀ line k, F k [⟨.probe line, k.machine⟩]
    (p.evaluator.isExpression line k.machine).1.isSome
    (k.onto (p.evaluator.isExpression line k.machine).2)
  beginCapture : ∀ k, F k [⟨.captureBegin, k.machine⟩]
    (p.evaluator.beginCapture k.machine).1.isSome (k.onto (p.evaluator.beginCapture k.machine).2)
  endCapture : ∀ k, F k [⟨.captureEnd, k.machine⟩]
    (p.evaluator.endCapture k.machine).1.isSome (k.onto (p.evaluator.endCapture k.machine).2)
  takePlot : ∀ k, F k [⟨.plot, k.machine⟩]
    (p.evaluator.takePlot k.machine).1.isSome (k.onto (p.evaluator.takePlot k.machine).2)
  runIsolated : ∀ code file k, F k [⟨.runFile code file, k.machine⟩]
    (p.evaluator.runIsolated code file k.machine).1.isSome
    (k.onto (p.evaluator.runIsolated code file k.machine).2)
  timeStatements : ∀ code loops k, F k [⟨.time code (.ofNat loops), k.machine⟩]
    (p.evaluator.timeStatements code loops k.machine).1.isSome
    (k.onto (p.evaluator.timeStatements code loops k.machine).2)
  bindings : ∀ k, F k [⟨.bindings, k.machine⟩]
    (p.evaluator.bindings k.machine).1.isSome (k.onto (p.evaluator.bindings k.machine).2)
  reset : ∀ k, F k [⟨.reset k.context.config.preload, k.machine⟩]
    (p.evaluator.reset k.context.config.preload k.machine).1.isSome
    ⟨k.context.cleared, (p.evaluator.reset k.context.config.preload k.machine).2⟩
  setDirectory : ∀ {raw path k}, directory? p raw k = some path →
    F k [⟨.chdir path.text, k.machine⟩] (p.evaluator.setDirectory path k.machine).1.isSome
      (k.directed p path)
  setVariable : ∀ key value k, F k [⟨.setenv key value, k.machine⟩]
    (p.evaluator.setVariable key value k.machine).1.isSome (k.assigned p key value)
  run : ∀ launch k, F k [] true (k.onto (p.host.run launch k.machine).2)
  createDirectories : ∀ dir k, F k [] true (k.onto (p.host.createDirectories dir k.machine).2)
  writeFile : ∀ path bytes k, F k [] true (k.onto (p.host.writeFile path bytes k.machine).2)
  monotonic : ∀ k, F k [] true (k.onto (p.host.monotonic k.machine).2)
  context : ∀ k interrupted count,
    F k [] true { k with context := { k.context with interrupted, executionCount := count } }

/-- The recorded action ends as the plain one does, and `F` holds of it. -/
def Accounts (F : Kernel σ → List (Asked σ) → Bool → Kernel σ → Prop)
    (act' : KernelM (σ × List (Asked σ)) α) (act : KernelM σ α) : Prop :=
  Traces withRecord (fun k added r => F k added r.1.isSome r.2) act' act

variable {p : Platform σ} {F : Kernel σ → List (Asked σ) → Bool → Kernel σ → Prop}

namespace Account

theorem bind {β : Type} (h : Account p F) {act' : KernelM (σ × List (Asked σ)) α}
    {act : KernelM σ α} {next' : α → KernelM (σ × List (Asked σ)) β} {next : α → KernelM σ β}
    (hact : Accounts F act' act) (hnext : ∀ a, Accounts F (next' a) (next a)) :
    Accounts F (act' >>= next') (act >>= next) :=
  Traces.bind hact hnext (fun _ _ _ hF => hF) fun _ _ _ _ _ _ hF hF' => h.append hF hF'

/-- All that is done in the course of a capture. -/
theorem uniform (h : Account p F) :
    Evaluator.Uniform (fun act' act => Traces Prod.mk
        (fun s added r => ∀ context, F ⟨context, s⟩ added r.1.isSome ⟨context, r.2⟩) act' act)
      p.recorded.evaluator p.evaluator where
  pure _ := traces_pure fun s context => h.nil ⟨context, s⟩
  bind hact hnext := hact.bind hnext (fun _ _ _ hF => hF)
    fun _ _ _ _ _ _ hF hF' context => h.append (hF context) (hF' context)
  onPanic hact hcleanup := hact.onPanic hcleanup (fun _ _ _ _ hF => hF)
    fun _ _ _ _ _ hF hF' context => h.cleanup (hF context) (hF' context)
  runStatements code := traces_recorded _ fun s context => h.runStatements code ⟨context, s⟩
  evalExpression code := traces_recorded _ fun s context => h.evalExpression code ⟨context, s⟩
  isExpression line := traces_recorded _ fun s context => h.isExpression line ⟨context, s⟩
  beginCapture := traces_recorded _ fun s context => h.beginCapture ⟨context, s⟩
  endCapture := traces_recorded _ fun s context => h.endCapture ⟨context, s⟩
  takePlot := traces_recorded _ fun s context => h.takePlot ⟨context, s⟩
  runIsolated code file := traces_recorded _ fun s context => h.runIsolated code file ⟨context, s⟩
  timeStatements code loops :=
    traces_recorded _ fun s context => h.timeStatements code loops ⟨context, s⟩

theorem onMachine {act' : Act (σ × List (Asked σ)) α} {act : Act σ α}
    (hact : Traces Prod.mk
      (fun s added r => ∀ context, F ⟨context, s⟩ added r.1.isSome ⟨context, r.2⟩) act' act) :
    Accounts F (KernelM.onMachine act') (KernelM.onMachine act) :=
  KernelM.traces_onMachine hact fun k _ _ _ hF => hF k.context

/-- An action of the host, which always ends and which nothing is recorded of. -/
theorem onHost {act' : Act (σ × List (Asked σ)) α} {act : Act σ α} (hact : Silent Prod.mk act' act)
    (hF : ∀ k, F k [] true (k.onto (act k.machine).2)) (hends : Ends act) :
    Accounts F (KernelM.onMachine act') (KernelM.onMachine act) := by
  refine Silent.traces (KernelM.silent_onMachine hact) fun k => ?_
  obtain ⟨a, s, hrun⟩ := hends k.machine
  have hF := hF k
  simp only [KernelM.onMachine, Act.zoom, hrun] at hF ⊢
  exact hF

theorem setWorkingDirectory (h : Account p F) (raw : String) :
    Accounts F (Kernel.setWorkingDirectory p.recorded raw) (Kernel.setWorkingDirectory p raw) := by
  have hfound : Traces withRecord (fun k added r => added = [] ∧ r = (some (directory? p raw k), k))
      (Act.gets (directory? p.recorded raw)) (Act.gets (directory? p raw)) :=
    (KernelM.silent_directory? p raw).traces fun _ => ⟨rfl, rfl⟩
  rw [setWorkingDirectory_eq, setWorkingDirectory_eq]
  refine hfound.bind (Q := fun found k added r => directory? p raw k = found →
    F k added r.1.isSome r.2) (fun found => ?_) (fun _ _ _ hnone => ?_)
    fun k _ found _ later r hsome hF => ?_
  · cases found with
    | none => exact traces_pure fun k _ => h.nil k
    | some target =>
      refine (KernelM.asks_acceptDirectory p target).mono ?_
      rintro k _ ⟨result, _⟩ ⟨rfl, hends, rfl⟩ hdirectory
      dsimp only at hends ⊢
      rw [hends]
      exact h.setDirectory hdirectory
  · cases hnone.2
  · obtain ⟨rfl, hrun⟩ := hsome
    cases hrun
    exact hF rfl

theorem assigns (h : Account p F) (key value : String) :
    Accounts F (Kernel.setVariable p.recorded key value) (Kernel.setVariable p key value) := by
  refine (KernelM.asks_setVariable p key value).mono ?_
  rintro k _ ⟨result, _⟩ ⟨rfl, hends, rfl⟩
  dsimp only at hends ⊢
  rw [hends]
  exact h.setVariable key value k

theorem resets (h : Account p F) : Accounts F (Kernel.reset p.recorded) (Kernel.reset p) :=
  fun k _ => ⟨[⟨.reset k.context.config.preload, k.machine⟩], rfl, h.reset k⟩

theorem composes (h : Account p F) :
    KernelM.Composes p.recorded p (fun act' act => Accounts F act' act)
      (fun act' act => Accounts F act' act) where
  home := rfl
  pure _ := traces_pure h.nil
  bind := h.bind
  context := (KernelM.silent_gets fun _ _ => rfl).traces h.nil
  interpreter := (KernelM.silent_gets fun _ _ => rfl).traces h.nil
  entries raw := (KernelM.silent_entries p raw).traces h.nil
  fileText raw := (KernelM.silent_fileText p raw).traces h.nil
  launch _ _ := h.bind ((KernelM.silent_gets fun _ _ => rfl).traces h.nil) fun _ =>
    onHost (KernelM.silent_run p _) (fun k => by rw [KernelM.Shellout_run_snd]; exact h.run _ k)
      (Shellout.ends_run p.host _)
  createDirectories dir := onHost (fun _ _ => rfl) (h.createDirectories dir) (ends_ofUpdate _)
  writeFile path bytes := onHost (fun _ _ => rfl) (h.writeFile path bytes) (ends_ofUpdate _)
  monotonic := onHost (fun _ _ => rfl) h.monotonic (ends_ofUpdate _)
  bindings := onMachine (traces_recorded _ fun s context => h.bindings ⟨context, s⟩)
  setWorkingDirectory := h.setWorkingDirectory
  setVariable := h.assigns
  busy hact := hact
  before := h.bind
  after := h.bind
  runCode code := onMachine (h.uniform.runCode code)
  runIsolated code file := onMachine (h.uniform.capture (h.uniform.runIsolated code file))
  measure code := onMachine (h.uniform.capture (h.uniform.measure code))

theorem interrupts (h : Account p F) (b : Bool) :
    Accounts F (KernelM.modifyContext fun c => { c with interrupted := b })
      (KernelM.modifyContext fun c => { c with interrupted := b }) :=
  (KernelM.silent_modifyContext _).traces fun k => h.context k b k.context.executionCount

theorem counts (h : Account p F) :
    Accounts F (KernelM.modifyContext fun c => { c with executionCount := c.executionCount + 1 })
      (KernelM.modifyContext fun c => { c with executionCount := c.executionCount + 1 }) :=
  (KernelM.silent_modifyContext _).traces fun k =>
    h.context k k.context.interrupted (k.context.executionCount + 1)

/-- A whole cell on the recorded platform. -/
theorem execute (h : Account p F) (cell : String) :
    Accounts F (Kernel.execute p.recorded (Magic.builtins p.recorded) cell)
      (Kernel.execute p (Magic.builtins p) cell) :=
  h.composes.execute h.resets (h.interrupts false) h.counts cell

/-- An operation of a kernel on the recorded platform. -/
theorem perform (h : Account p F) (op : Operation) :
    Accounts F (op.perform p.recorded) (op.perform p) :=
  h.composes.perform h.resets h.interrupts h.counts op

end Account

end Kernel

end NotebookKernel
