import NotebookKernel.Proofs.Evaluator.Traces
import NotebookKernel.Proofs.Evaluator.Uniform
import NotebookKernel.Proofs.Kernel.Runs

/-!
# Traces of whole cells

A kernel on a recorded platform does what it does on the plain one. `Kernel.Chronicle` is a relation
between a kernel, what is added to the record and the kernel afterwards. It holds of whole cells and
whole runs once it holds of single requests.
-/

namespace NotebookKernel

open Act hiding pure

variable {σ α : Type}

/-- The context after a reset. -/
def Context.cleared (c : Context) : Context :=
  { c with executionCount := 0, interrupted := false, generation := c.generation + 1 }

namespace Kernel

/-- The kernel on another state of its machine. -/
def onto (k : Kernel σ) (s : σ) : Kernel σ := { k with machine := s }

/-- The kernel after the evaluator was asked to change its directory. -/
def directed (p : Platform σ) (path : Path) (k : Kernel σ) : Kernel σ :=
  match p.evaluator.setDirectory path k.machine with
  | (some (.ok ()), s) => ⟨{ k.context with workingDirectory := path }, s⟩
  | (_, s) => k.onto s

/-- The kernel after the evaluator was asked to set a variable. -/
def assigned (p : Platform σ) (key value : String) (k : Kernel σ) : Kernel σ :=
  match p.evaluator.setVariable key value k.machine with
  | (some (.ok ()), s) =>
    ⟨{ k.context with environment := k.context.environment.insert key value }, s⟩
  | (_, s) => k.onto s

theorem machine_directed (p : Platform σ) (path : Path) (k : Kernel σ) :
    (k.directed p path).machine = (p.evaluator.setDirectory path k.machine).2 := by
  unfold directed
  split <;> next hrun => exact (congrArg Prod.snd hrun).symm

theorem machine_assigned (p : Platform σ) (key value : String) (k : Kernel σ) :
    (k.assigned p key value).machine = (p.evaluator.setVariable key value k.machine).2 := by
  unfold assigned
  split <;> next hrun => exact (congrArg Prod.snd hrun).symm

/-- The directory that the user named, if there is one. -/
def directory? (p : Platform σ) (raw : String) (k : Kernel σ) : Option Path :=
  (p.host.canonicalize (k.context.resolve p.host raw) k.machine).toOption.filter
    (p.host.isDirectory · k.machine)

/-- Works in another directory, if the evaluator accepts it. -/
def acceptDirectory (p : Platform σ) (target : Path) : KernelM σ Bool := do
  match ← KernelM.onMachine (p.evaluator.setDirectory target) with
  | .error _ => pure false
  | .ok () =>
    KernelM.modifyContext fun c => { c with workingDirectory := target }
    pure true

theorem setWorkingDirectory_eq (p : Platform σ) (raw : String) :
    Kernel.setWorkingDirectory p raw = (do
      match ← Act.gets (directory? p raw) with
      | none => pure false
      | some target => acceptDirectory p target) := by
  rw [← Act.get_bind]
  refine congrArg (Act.get >>= ·) (funext fun k => ?_)
  unfold directory?
  cases hcanonical : p.host.canonicalize (k.context.resolve p.host raw) k.machine with
  | error e => rfl
  | ok target =>
    simp only [Except.toOption, Option.filter]
    by_cases hdirectory : p.host.isDirectory target k.machine = true
    · simp only [hdirectory, Bool.not_true, Bool.false_eq_true, if_false, if_true]
      rfl
    · simp only [hdirectory, Bool.not_false, Bool.false_eq_true, if_false, if_true]

/-- What can be said of the record of a kernel's quiet actions: nothing of it is about what is done in
the course of a capture. -/
structure Chronicle (p : Platform σ) (F : Kernel σ → List (Asked σ) → Kernel σ → Prop) : Prop where
  nil : ∀ k, F k [] k
  append : ∀ {k k' k'' earlier later}, F k earlier k' → F k' later k'' → F k (earlier ++ later) k''
  run : ∀ launch k, F k [] (k.onto (p.host.run launch k.machine).2)
  createDirectories : ∀ dir k, F k [] (k.onto (p.host.createDirectories dir k.machine).2)
  writeFile : ∀ path bytes k, F k [] (k.onto (p.host.writeFile path bytes k.machine).2)
  monotonic : ∀ k, F k [] (k.onto (p.host.monotonic k.machine).2)
  bindings : ∀ k, F k [⟨.bindings, k.machine⟩] (k.onto (p.evaluator.bindings k.machine).2)
  setDirectory : ∀ path k, F k [⟨.chdir path.text, k.machine⟩] (k.directed p path)
  setVariable : ∀ key value k, F k [⟨.setenv key value, k.machine⟩] (k.assigned p key value)
  reset : ∀ k, F k [⟨.reset k.context.config.preload, k.machine⟩]
    ⟨k.context.cleared, (p.evaluator.reset k.context.config.preload k.machine).2⟩
  context : ∀ k interrupted count,
    F k [] { k with context := { k.context with interrupted, executionCount := count } }

end Kernel

namespace KernelM

open Kernel

variable {P : σ → List (Asked σ) → Option α × σ → Prop}
  {Q : Kernel σ → List (Asked σ) → Option α × Kernel σ → Prop}

theorem traces_onMachine {act' : Act (σ × List (Asked σ)) α} {act : Act σ α}
    (h : Traces Prod.mk P act' act)
    (hPQ : ∀ k added a s, P k.machine added (a, s) → Q k added (a, k.onto s)) :
    Traces withRecord Q (onMachine act') (onMachine act) := by
  intro k record
  obtain ⟨added, hrun, hP⟩ := h k.machine record
  refine ⟨added, ?_, hPQ k added _ _ hP⟩
  have hrun' : act' (withRecord k record).machine = _ := hrun
  simp only [onMachine, Act.zoom, hrun']
  rfl

theorem silent_gets {f' : Kernel (σ × List (Asked σ)) → α} {f : Kernel σ → α}
    (h : ∀ k record, f' (withRecord k record) = f k) : Silent withRecord (Act.gets f') (Act.gets f) :=
  fun k record => by simp only [Act.gets, h]

theorem resolve_recorded (p : Platform σ) (raw : String) (k : Kernel σ)
    (record : List (Asked σ)) : (k.withRecord record).context.resolve p.recorded.host raw
      = k.context.resolve p.host raw := by
  have hhome : p.recorded.host.home? = p.host.home? := rfl
  exact Context.resolve_congr hhome k.context raw

theorem silent_entries (p : Platform σ) (raw : String) :
    Silent withRecord (Act.gets (entries p.recorded raw)) (Act.gets (entries p raw)) := by
  refine silent_gets fun k record => ?_
  have hread (dir : Path) : p.recorded.host.readDirectory dir (k.withRecord record).machine
      = p.host.readDirectory dir k.machine := rfl
  simp only [entries, resolve_recorded, hread]

theorem silent_fileText (p : Platform σ) (raw : String) :
    Silent withRecord (Act.gets (fileText p.recorded raw)) (Act.gets (fileText p raw)) := by
  refine silent_gets fun k record => ?_
  have hread (path : Path) : p.recorded.host.readText path (k.withRecord record).machine
      = p.host.readText path k.machine := rfl
  simp only [fileText, resolve_recorded, hread]

theorem silent_directory? (p : Platform σ) (raw : String) :
    Silent withRecord (Act.gets (directory? p.recorded raw)) (Act.gets (directory? p raw)) := by
  refine silent_gets fun k record => ?_
  have hcanonical (dir : Path) : p.recorded.host.canonicalize dir (k.withRecord record).machine
      = p.host.canonicalize dir k.machine := rfl
  have hdirectory (dir : Path) : p.recorded.host.isDirectory dir (k.withRecord record).machine
      = p.host.isDirectory dir k.machine := rfl
  simp only [directory?, resolve_recorded, hcanonical, hdirectory]

variable {p : Platform σ} {F : Kernel σ → List (Asked σ) → Kernel σ → Prop}

/-- An action of the host, which nothing is recorded of. -/
theorem traces_host {act' : Act (σ × List (Asked σ)) α} {act : Act σ α}
    (h : Silent Prod.mk act' act) (hF : ∀ k, F k [] (k.onto (act k.machine).2)) :
    Traces withRecord (fun k added r => F k added r.2) (onMachine act') (onMachine act) :=
  Silent.traces (silent_onMachine h) hF

theorem silent_run (p : Platform σ) (launch : Launch) :
    Silent Prod.mk (Shellout.run p.recorded.host launch) (Shellout.run p.host launch) := by
  intro s record
  have hrun : p.recorded.host.run launch (s, record)
      = ((p.host.run launch s).1, (p.host.run launch s).2, record) := rfl
  simp only [Shellout.run, hrun]
  rcases p.host.run launch s with ⟨_ | _ | _, t⟩ <;> rfl

theorem Shellout_run_snd (h : Host σ) (launch : Launch) (s : σ) :
    (Shellout.run h launch s).2 = (h.run launch s).2 := by
  unfold Shellout.run
  split <;> next heq => rw [heq]

theorem Quiet.bind {β : Type} (h : Chronicle p F) {act' : KernelM (σ × List (Asked σ)) α}
    {act : KernelM σ α} {next' : α → KernelM (σ × List (Asked σ)) β} {next : α → KernelM σ β}
    (hact : Traces withRecord (fun k added r => F k added r.2) act' act)
    (hnext : ∀ a, Traces withRecord (fun k added r => F k added r.2) (next' a) (next a)) :
    Traces withRecord (fun k added r => F k added r.2) (act' >>= next') (act >>= next) :=
  hact.bind hnext (fun _ _ _ hF => hF) fun _ _ _ _ _ _ hF hF' => h.append hF hF'

/-- The evaluator is asked once, whatever comes of it. -/
theorem asks_acceptDirectory (p : Platform σ) (target : Path) :
    Traces withRecord (fun k added r => added = [⟨.chdir target.text, k.machine⟩] ∧
        r.1.isSome = (p.evaluator.setDirectory target k.machine).1.isSome ∧
        r.2 = k.directed p target)
      (acceptDirectory p.recorded target) (acceptDirectory p target) := by
  intro k record
  have hask : onMachine (p.recorded.evaluator.setDirectory target) (k.withRecord record)
      = ((p.evaluator.setDirectory target k.machine).1,
        (k.onto (p.evaluator.setDirectory target k.machine).2).withRecord
          (record ++ [⟨.chdir target.text, k.machine⟩])) := rfl
  have hask' : onMachine (p.evaluator.setDirectory target) k
      = ((p.evaluator.setDirectory target k.machine).1,
        k.onto (p.evaluator.setDirectory target k.machine).2) := rfl
  simp only [acceptDirectory, bind_run, hask, hask', directed]
  refine ⟨[⟨.chdir target.text, k.machine⟩], ?_⟩
  rcases hrun : p.evaluator.setDirectory target k.machine with ⟨_ | _ | _, s⟩ <;>
    exact ⟨rfl, rfl, rfl, rfl⟩

/-- The evaluator is asked once, whatever comes of it. -/
theorem asks_setVariable (p : Platform σ) (key value : String) :
    Traces withRecord (fun k added r => added = [⟨.setenv key value, k.machine⟩] ∧
        r.1.isSome = (p.evaluator.setVariable key value k.machine).1.isSome ∧
        r.2 = k.assigned p key value)
      (Kernel.setVariable p.recorded key value) (Kernel.setVariable p key value) := by
  intro k record
  have hask : onMachine (p.recorded.evaluator.setVariable key value) (k.withRecord record)
      = ((p.evaluator.setVariable key value k.machine).1,
        (k.onto (p.evaluator.setVariable key value k.machine).2).withRecord
          (record ++ [⟨.setenv key value, k.machine⟩])) := rfl
  have hask' : onMachine (p.evaluator.setVariable key value) k
      = ((p.evaluator.setVariable key value k.machine).1,
        k.onto (p.evaluator.setVariable key value k.machine).2) := rfl
  simp only [Kernel.setVariable, bind_run, hask, hask', assigned]
  refine ⟨[⟨.setenv key value, k.machine⟩], ?_⟩
  rcases hrun : p.evaluator.setVariable key value k.machine with ⟨_ | _ | _, s⟩ <;>
    exact ⟨rfl, rfl, rfl, rfl⟩

theorem traces_acceptDirectory (h : Chronicle p F) (target : Path) :
    Traces withRecord (fun k added r => F k added r.2) (acceptDirectory p.recorded target)
      (acceptDirectory p target) := by
  refine (asks_acceptDirectory p target).mono ?_
  rintro k _ ⟨result, _⟩ ⟨rfl, -, rfl⟩
  exact h.setDirectory target k

theorem traces_setVariable (h : Chronicle p F) (key value : String) :
    Traces withRecord (fun k added r => F k added r.2) (Kernel.setVariable p.recorded key value)
      (Kernel.setVariable p key value) := by
  refine (asks_setVariable p key value).mono ?_
  rintro k _ ⟨result, _⟩ ⟨rfl, -, rfl⟩
  exact h.setVariable key value k

theorem traces_reset (h : Chronicle p F) :
    Traces withRecord (fun k added r => F k added r.2) (Kernel.reset p.recorded)
      (Kernel.reset p) :=
  fun k _ => ⟨[⟨.reset k.context.config.preload, k.machine⟩], rfl, h.reset k⟩

end KernelM

namespace Kernel

/-- What can be said of the record of actions among which there is a capture, where `F` is said of the
quiet ones before and after it. -/
structure Surrounds (F G : Kernel σ → List (Asked σ) → Kernel σ → Prop) : Prop where
  quiet : ∀ {k added k'}, F k added k' → G k added k'
  before : ∀ {k k' k'' earlier later}, F k earlier k' → G k' later k'' → G k (earlier ++ later) k''
  after : ∀ {k k' k'' earlier later}, G k earlier k' → F k' later k'' → G k (earlier ++ later) k''

variable {p : Platform σ} {F G : Kernel σ → List (Asked σ) → Kernel σ → Prop}

/-- The capture in the course of a cell, recorded. -/
structure Captures (p : Platform σ) (G : Kernel σ → List (Asked σ) → Kernel σ → Prop) : Prop where
  runCode : ∀ code, Traces withRecord (fun k added r => G k added r.2)
    (KernelM.onMachine (p.recorded.evaluator.runCode code))
    (KernelM.onMachine (p.evaluator.runCode code))
  runIsolated : ∀ code file, Traces withRecord (fun k added r => G k added r.2)
    (KernelM.onMachine (p.recorded.evaluator.capture (p.recorded.evaluator.runIsolated code file)))
    (KernelM.onMachine (p.evaluator.capture (p.evaluator.runIsolated code file)))
  measure : ∀ code, Traces withRecord (fun k added r => G k added r.2)
    (KernelM.onMachine (p.recorded.evaluator.capture (Timing.measure p.recorded.evaluator code)))
    (KernelM.onMachine (p.evaluator.capture (Timing.measure p.evaluator code)))

theorem Chronicle.composes (h : Chronicle p F) (hG : Surrounds F G) (hcaptures : Captures p G) :
    KernelM.Composes p.recorded p
      (fun act' act => Traces withRecord (fun k added r => F k added r.2) act' act)
      (fun act' act => Traces withRecord (fun k added r => G k added r.2) act' act) where
  home := rfl
  pure a := traces_pure h.nil
  bind := KernelM.Quiet.bind h
  context := (KernelM.silent_gets fun _ _ => rfl).traces h.nil
  interpreter := (KernelM.silent_gets fun _ _ => rfl).traces h.nil
  entries raw := (KernelM.silent_entries p raw).traces h.nil
  fileText raw := (KernelM.silent_fileText p raw).traces h.nil
  launch _ _ := by
    refine Traces.mono ?_ fun _ _ _ hF => hG.quiet hF
    refine KernelM.Quiet.bind h ((KernelM.silent_gets fun _ _ => rfl).traces h.nil) fun _ => ?_
    refine KernelM.traces_host (KernelM.silent_run p _) fun k => ?_
    rw [KernelM.Shellout_run_snd]
    exact h.run _ k
  createDirectories dir := KernelM.traces_host (fun _ _ => rfl) (h.createDirectories dir)
  writeFile path bytes := KernelM.traces_host (fun _ _ => rfl) (h.writeFile path bytes)
  monotonic := KernelM.traces_host (fun _ _ => rfl) h.monotonic
  bindings := fun k record => ⟨_, rfl, h.bindings k⟩
  setWorkingDirectory raw := by
    rw [setWorkingDirectory_eq, setWorkingDirectory_eq]
    refine KernelM.Quiet.bind h ((KernelM.silent_directory? p raw).traces h.nil) fun target => ?_
    cases target with
    | none => exact traces_pure h.nil
    | some target => exact KernelM.traces_acceptDirectory h target
  setVariable := KernelM.traces_setVariable h
  busy hact := hact.mono fun _ _ _ hF => hG.quiet hF
  before hact hnext := hact.bind hnext (fun _ _ _ hF => hG.quiet hF) fun _ _ _ _ _ _ hF hG' =>
    hG.before hF hG'
  after hact hnext := hact.bind hnext (fun _ _ _ hG => hG) fun _ _ _ _ _ _ hG' hF => hG.after hG' hF
  runCode := hcaptures.runCode
  runIsolated := hcaptures.runIsolated
  measure := hcaptures.measure

/-- A whole cell on the recorded platform. -/
theorem Chronicle.execute (h : Chronicle p F) (hG : Surrounds F G) (hcaptures : Captures p G)
    (cell : String) : Traces withRecord (fun k added r => G k added r.2)
      (Kernel.execute p.recorded (Magic.builtins p.recorded) cell)
      (Kernel.execute p (Magic.builtins p) cell) :=
  (h.composes hG hcaptures).execute (KernelM.traces_reset h)
    (fun k record => ⟨[], by rw [List.append_nil]; rfl, h.context k false k.context.executionCount⟩)
    (fun k record => ⟨[], by rw [List.append_nil]; rfl,
      h.context k k.context.interrupted (k.context.executionCount + 1)⟩) cell

/-- An operation of a kernel on the recorded platform. -/
theorem Chronicle.perform (h : Chronicle p F) (hG : Surrounds F G) (hcaptures : Captures p G)
    (op : Operation) : Traces withRecord (fun k added r => G k added r.2) (op.perform p.recorded)
      (op.perform p) :=
  (h.composes hG hcaptures).perform (KernelM.traces_reset h)
    (fun b k record => ⟨[], by rw [List.append_nil]; rfl, h.context k b k.context.executionCount⟩)
    (fun k record => ⟨[], by rw [List.append_nil]; rfl,
      h.context k k.context.interrupted (k.context.executionCount + 1)⟩) op

/-! ## Whole runs -/

/-- What can be said of the record of the requests that are made in the course of a capture. -/
structure Requests (p : Platform σ) (F : Kernel σ → List (Asked σ) → Kernel σ → Prop) : Prop where
  runStatements : ∀ code k,
    F k [⟨.exec code, k.machine⟩] (k.onto (p.evaluator.runStatements code k.machine).2)
  evalExpression : ∀ code k,
    F k [⟨.eval code, k.machine⟩] (k.onto (p.evaluator.evalExpression code k.machine).2)
  isExpression : ∀ line k,
    F k [⟨.probe line, k.machine⟩] (k.onto (p.evaluator.isExpression line k.machine).2)
  beginCapture : ∀ k, F k [⟨.captureBegin, k.machine⟩] (k.onto (p.evaluator.beginCapture k.machine).2)
  endCapture : ∀ k, F k [⟨.captureEnd, k.machine⟩] (k.onto (p.evaluator.endCapture k.machine).2)
  takePlot : ∀ k, F k [⟨.plot, k.machine⟩] (k.onto (p.evaluator.takePlot k.machine).2)
  runIsolated : ∀ code file k,
    F k [⟨.runFile code file, k.machine⟩] (k.onto (p.evaluator.runIsolated code file k.machine).2)
  timeStatements : ∀ code loops k, F k [⟨.time code (.ofNat loops), k.machine⟩]
    (k.onto (p.evaluator.timeStatements code loops k.machine).2)

/-- What holds of single requests holds of all that is done in the course of a capture. -/
theorem Chronicle.captures (h : Chronicle p F) (hrequests : Requests p F) : Captures p F := by
  have huniform : Evaluator.Uniform
      (fun act' act => Traces Prod.mk
        (fun s added r => ∀ context, F ⟨context, s⟩ added ⟨context, r.2⟩) act' act)
      p.recorded.evaluator p.evaluator := {
    pure a := traces_pure fun s context => h.nil ⟨context, s⟩
    bind hact hnext := hact.bind hnext (fun _ _ _ hF => hF)
      fun _ _ _ _ _ _ hF hF' context => h.append (hF context) (hF' context)
    onPanic hact hcleanup := hact.onPanic hcleanup (fun _ _ _ _ hF => hF)
      fun _ _ _ _ _ hF hF' context => h.append (hF context) (hF' context)
    runStatements code := traces_recorded _ fun s context => hrequests.runStatements code ⟨context, s⟩
    evalExpression code :=
      traces_recorded _ fun s context => hrequests.evalExpression code ⟨context, s⟩
    isExpression line := traces_recorded _ fun s context => hrequests.isExpression line ⟨context, s⟩
    beginCapture := traces_recorded _ fun s context => hrequests.beginCapture ⟨context, s⟩
    endCapture := traces_recorded _ fun s context => hrequests.endCapture ⟨context, s⟩
    takePlot := traces_recorded _ fun s context => hrequests.takePlot ⟨context, s⟩
    runIsolated code file :=
      traces_recorded _ fun s context => hrequests.runIsolated code file ⟨context, s⟩
    timeStatements code loops :=
      traces_recorded _ fun s context => hrequests.timeStatements code loops ⟨context, s⟩ }
  constructor
  · exact fun code => KernelM.traces_onMachine (huniform.runCode code) fun k _ _ _ hF => hF k.context
  · exact fun code file => KernelM.traces_onMachine (huniform.capture (huniform.runIsolated code file))
      fun k _ _ _ hF => hF k.context
  · exact fun code => KernelM.traces_onMachine (huniform.capture (huniform.measure code))
      fun k _ _ _ hF => hF k.context

theorem Chronicle.surrounds (h : Chronicle p F) : Surrounds F F := ⟨id, h.append, h.append⟩

/-- What holds of the record of every operation and adds up holds of the record of a whole run. -/
theorem traces_after (hnil : ∀ k, F k [] k)
    (happend : ∀ {k k' k'' earlier later}, F k earlier k' → F k' later k'' →
      F k (earlier ++ later) k'')
    (hperform : ∀ op : Operation, Traces withRecord (fun k added r => F k added r.2)
      (op.perform p.recorded) (op.perform p))
    (ops : List Operation) (k : Kernel σ) (record : List (Asked σ)) :
    ∃ added, Kernel.after p.recorded ops (k.withRecord record)
        = (Kernel.after p ops k).withRecord (record ++ added) ∧ F k added (Kernel.after p ops k) := by
  induction ops generalizing k record with
  | nil => exact ⟨[], by rw [List.append_nil]; rfl, hnil k⟩
  | cons op ops ih =>
    obtain ⟨earlier, hrun, hF⟩ := hperform op k record
    have hnext : op.next p.recorded (k.withRecord record)
        = (op.next p k).withRecord (record ++ earlier) := congrArg Prod.snd hrun
    obtain ⟨later, hrun', hF'⟩ := ih (op.next p k) (record ++ earlier)
    refine ⟨earlier ++ later, ?_, happend hF hF'⟩
    rw [← List.append_assoc]
    exact (congrArg (Kernel.after p.recorded ops) hnext).trans hrun'

/-- A whole run on the recorded platform. -/
theorem Chronicle.after (h : Chronicle p F) (hrequests : Requests p F) (ops : List Operation)
    (k : Kernel σ) (record : List (Asked σ)) :
    ∃ added, Kernel.after p.recorded ops (k.withRecord record)
        = (Kernel.after p ops k).withRecord (record ++ added) ∧ F k added (Kernel.after p ops k) :=
  traces_after h.nil h.append (h.perform h.surrounds (h.captures hrequests)) ops k record

end Kernel

end NotebookKernel
