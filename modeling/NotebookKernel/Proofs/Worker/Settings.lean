import NotebookKernel.Proofs.Kernel.Traces
import NotebookKernel.Proofs.Worker.Losses
import NotebookKernel.Proofs.Worker.Sparing

/-!
# The two copies of the settings

The directory and the environment are kept twice: by the session, which starts workers with its copy, and
by the context, whose copy is shown and used for other child processes. Every change is first made to the
copy of the session and then asked of the worker, and the context takes it over if the worker agrees.
`Kernel.settings_after` says that after any run the session has all the changes that were asked for and
the context those that were accepted. `Kernel.settings_differ_after_refusal` is a run after which they
are not the same.
-/

namespace NotebookKernel

open Act hiding pure

variable {σ α : Type}

/-- What a child process is started with. -/
structure Settings where
  directory : Path
  environment : SortedMap String

def Session.settings (w : Session) : Settings := ⟨w.directory, w.environment⟩

def Context.settings (c : Context) : Settings := ⟨c.workingDirectory, c.environment⟩

/-- The settings with the change that a command asks for. -/
def Settings.change (s : Settings) : Command → Settings
  | .chdir path => { s with directory := ⟨path⟩ }
  | .setenv key value => { s with environment := s.environment.insert key value }
  | _ => s

/-- The settings with the changes that were asked for, in this order. -/
def Settings.changed (s : Settings) (asked : List (Asked σ)) : Settings :=
  asked.foldl (fun s a => s.change a.command) s

/-- Whether a change of the settings was accepted. -/
def Evaluator.accepted (ev : Evaluator σ) (a : Asked σ) : Bool :=
  match a.command with
  | .chdir path => (ev.setDirectory ⟨path⟩ a.before).1.any Except.isOk
  | .setenv key value => (ev.setVariable key value a.before).1.any Except.isOk
  | _ => true

/-! ## What leaves the settings alone -/

namespace Session

variable (ps : Processes σ)

/-- The settings of the session of a workbench. -/
abbrev settingsOf (b : Workbench σ) : Settings := b.session.settings

theorem leaves_ensureWorker : Leaves settingsOf (ensureWorker ps) := by
  intro b
  unfold ensureWorker
  cases b.session.worker with
  | none => rfl
  | some pid =>
    dsimp only
    split <;> rfl

theorem leaves_call (c : Command) : Leaves settingsOf (call ps c) := by
  refine (leaves_ensureWorker ps).bind fun worker => ?_
  cases worker with
  | error failure => exact leaves_pure _
  | ok pid =>
    intro b
    dsimp only
    split <;> rfl

theorem leaves_ask (c : Command) (read : Reply → Option α) :
    Leaves settingsOf (ask ps c read) :=
  leaves_ask_of_call (leaves_call ps c) read

theorem leaves_takePlot : Leaves settingsOf (takePlot ps) := by
  refine (leaves_ask ps _ _).bind fun png => ?_
  split
  · exact leaves_pure _
  · exact leaves_pure _
  · split <;> exact leaves_pure _

theorem leaves_timeStatements (code : String) (loops : Nat) :
    Leaves settingsOf (timeStatements ps code loops) := by
  refine (leaves_ask ps _ _).bind fun seconds => ?_
  split
  · exact leaves_pure _
  · split
    · exact leaves_pure _
    · exact fun _ => rfl

theorem leaves_isExpression (line : String) :
    Leaves settingsOf ((evaluator ps).isExpression line) := by
  refine (leaves_call ps (.probe line)).bind fun result => ?_
  split <;> exact leaves_pure _

theorem leaves_reset (preload : List Preload) : Leaves settingsOf ((evaluator ps).reset preload) :=
  fun b => leaves_ask ps (.reset preload) _ { b with session := { b.session with preload } }

theorem settings_setDirectory (path : Path) (b : Workbench σ) :
    ((evaluator ps).setDirectory path b).2.session.settings
      = b.session.settings.change (.chdir path.text) :=
  leaves_orderIfStarted_of_call (leaves_call ps (.chdir path.text))
    { b with session := { b.session with directory := path } }

theorem settings_setVariable (key value : String) (b : Workbench σ) :
    ((evaluator ps).setVariable key value b).2.session.settings
      = b.session.settings.change (.setenv key value) :=
  leaves_orderIfStarted_of_call (leaves_call ps (.setenv key value))
    { b with session := { b.session with environment := b.session.environment.insert key value } }

end Session

/-! ## What a run does to the settings -/

namespace Kernel

/-- The session has the changes that were asked for, and the context those that were accepted. -/
def Changes (ev : Evaluator (Workbench σ)) (k : Kernel (Workbench σ))
    (asked : List (Asked (Workbench σ))) (k' : Kernel (Workbench σ)) : Prop :=
  k'.machine.session.settings = k.machine.session.settings.changed asked ∧
    k'.context.settings = k.context.settings.changed (asked.filter ev.accepted)

variable (h : Host σ) (ps : Processes σ)

theorem changes_setDirectory (path : Path) (k : Kernel (Workbench σ)) :
    Changes (Session.evaluator ps) k [⟨.chdir path.text, k.machine⟩]
      (k.directed (Workbench.platform h ps) path) := by
  refine ⟨?_, ?_⟩
  · rw [machine_directed]
    exact Session.settings_setDirectory ps path k.machine
  · have haccepted : (Session.evaluator ps).accepted ⟨.chdir path.text, k.machine⟩
        = ((Session.evaluator ps).setDirectory path k.machine).1.any Except.isOk := rfl
    rw [List.filter_singleton, haccepted]
    unfold directed
    have hsame : (Workbench.platform h ps).evaluator = Session.evaluator ps := rfl
    rw [hsame]
    rcases (Session.evaluator ps).setDirectory path k.machine with ⟨_ | _ | _, b⟩ <;> rfl

theorem changes_setVariable (key value : String) (k : Kernel (Workbench σ)) :
    Changes (Session.evaluator ps) k [⟨.setenv key value, k.machine⟩]
      (k.assigned (Workbench.platform h ps) key value) := by
  refine ⟨?_, ?_⟩
  · rw [machine_assigned]
    exact Session.settings_setVariable ps key value k.machine
  · have haccepted : (Session.evaluator ps).accepted ⟨.setenv key value, k.machine⟩
        = ((Session.evaluator ps).setVariable key value k.machine).1.any Except.isOk := rfl
    rw [List.filter_singleton, haccepted]
    unfold assigned
    have hsame : (Workbench.platform h ps).evaluator = Session.evaluator ps := rfl
    rw [hsame]
    rcases (Session.evaluator ps).setVariable key value k.machine with ⟨_ | _ | _, b⟩ <;> rfl

theorem chronicle_changes :
    Chronicle (Workbench.platform h ps) (Changes (Session.evaluator ps)) where
  nil _ := ⟨rfl, rfl⟩
  append hearlier hlater := by
    refine ⟨?_, ?_⟩
    · rw [hlater.1, hearlier.1, Settings.changed, Settings.changed, Settings.changed,
        List.foldl_append]
    · rw [hlater.2, hearlier.2, List.filter_append, Settings.changed, Settings.changed,
        Settings.changed, List.foldl_append]
  run _ _ := ⟨rfl, rfl⟩
  createDirectories _ _ := ⟨rfl, rfl⟩
  writeFile _ _ _ := ⟨rfl, rfl⟩
  monotonic _ := ⟨rfl, rfl⟩
  bindings k := ⟨Session.leaves_ask ps .bindings _ k.machine, rfl⟩
  setDirectory := changes_setDirectory h ps
  setVariable := changes_setVariable h ps
  reset k := ⟨Session.leaves_reset ps _ k.machine, rfl⟩
  context _ _ _ := ⟨rfl, rfl⟩

theorem requests_changes :
    Requests (Workbench.platform h ps) (Changes (Session.evaluator ps)) where
  runStatements code k := ⟨Session.leaves_ask ps (.exec code) _ k.machine, rfl⟩
  evalExpression code k := ⟨Session.leaves_ask ps (.eval code) _ k.machine, rfl⟩
  isExpression line k := ⟨Session.leaves_isExpression ps line k.machine, rfl⟩
  beginCapture k := ⟨Session.leaves_ask ps .captureBegin _ k.machine, rfl⟩
  endCapture k := ⟨Session.leaves_ask ps .captureEnd _ k.machine, rfl⟩
  takePlot k := ⟨Session.leaves_takePlot ps k.machine, rfl⟩
  runIsolated code file k := ⟨Session.leaves_ask ps (.runFile code file) _ k.machine, rfl⟩
  timeStatements code loops k := ⟨Session.leaves_timeStatements ps code loops k.machine, rfl⟩

variable {h ps}

/-- Once a context is set up, its directory is the one of the session. -/
theorem settings_setUp {config : Config} {b b' : Workbench σ} {context : Context}
    (hsetup : setUp (Workbench.platform h ps) config b = (some (.ok context), b'))
    (henvironment : b.session.environment = h.environment) :
    b'.session.settings = context.settings := by
  obtain ⟨prepared, b₁, hprepared, hsetup⟩ := exists_of_bind_run hsetup
  have hleft := leaves_prepareDirectory (h := (Workbench.platform h ps).host)
    (f := Session.settingsOf) (fun _ _ => rfl) config.workingDirectory b
  rw [hprepared] at hleft
  cases prepared with
  | error failure => cases hsetup
  | ok dir =>
    obtain ⟨accepted, b₂, haccepted, hsetup⟩ := exists_of_bind_run hsetup
    have hchanged := Session.settings_setDirectory ps dir b₁
    have hrun : (Session.evaluator ps).setDirectory dir b₁ = (some accepted, b₂) := haccepted
    rw [hrun] at hchanged
    cases accepted with
    | error failure => cases hsetup
    | ok =>
      cases hsetup
      rw [hchanged]
      exact congrArg (Settings.mk dir) ((congrArg Settings.environment hleft).trans henvironment)

/-- When a kernel has just been set up, the two copies are the same. -/
theorem settings_setUpWorker {config : Config} {b b' : Workbench σ} {context : Context}
    (hsetup : setUpWorker h ps config b = (some (.ok context), b')) :
    b'.session.settings = context.settings := by
  obtain ⟨prepared, b₁, -, hsetup⟩ := exists_of_bind_run hsetup
  cases prepared with
  | error failure => cases hsetup
  | ok dir =>
    obtain ⟨bench, b₂, -, hsetup⟩ := exists_of_bind_run hsetup
    cases hpython :
        ({ config with workingDirectory := dir } : Config).pythonExecutable h bench.machine with
    | error failure =>
      simp only [hpython] at hsetup
      cases hsetup
    | ok python =>
      simp only [hpython] at hsetup
      obtain ⟨_, b₃, hsession, hsetup⟩ := exists_of_bind_run hsetup
      obtain ⟨started, b₄, hstarted, hsetup⟩ := exists_of_bind_run hsetup
      cases started with
      | error failure => cases hsetup
      | ok pid =>
        refine settings_setUp hsetup ?_
        have hleft := Session.leaves_ensureWorker ps b₃
        rw [hstarted] at hleft
        cases hsession
        exact congrArg Settings.environment hleft

/-- Whatever the workers answer: after any run the session has all the changes of the settings that were
asked for since the kernel was set up, and the context has those that were accepted. So the two are the
same if no change was refused. -/
theorem settings_after {config : Config} {b b' : Workbench σ} {context : Context}
    (hsetup : setUpWorker h ps config b = (some (.ok context), b')) (ops : List Operation) :
    let p := Workbench.platform h ps
    let k := after p ops ⟨context, b'⟩
    ∃ asked, after p.recorded ops (withRecord ⟨context, b'⟩ []) = k.withRecord asked ∧
      k.machine.session.settings = context.settings.changed asked ∧
      k.context.settings = context.settings.changed (asked.filter p.evaluator.accepted) ∧
      ((∀ a ∈ asked, p.evaluator.accepted a = true) →
        k.machine.session.settings = k.context.settings) := by
  intro p k
  obtain ⟨asked, hrun, hsession, hcontext⟩ :=
    (chronicle_changes h ps).after (requests_changes h ps) ops ⟨context, b'⟩ []
  have hfirst : b'.session.settings = context.settings := settings_setUpWorker hsetup
  rw [hfirst] at hsession
  refine ⟨asked, hrun, hsession, hcontext, fun hall => ?_⟩
  have hkept : asked.filter (Session.evaluator ps).accepted = asked :=
    List.filter_eq_self.mpr hall
  rw [hsession, hcontext, hkept]

theorem settings_after_on_tapes :
    let config := { Config.standard (σ := List Bytes) Host.bare with python := some ⟨"python"⟩ }
    let bench := Workbench.idle [Session.tape [.pong, .done, .done, .done]]
    let p := Workbench.platform Host.bare Session.tapes
    let ops : List Operation := [.execute "%env A=1", .setWorkingDirectory "/data"]
    ∃ context b', setUpWorker Host.bare Session.tapes config bench = (some (.ok context), b') ∧
      let k := after p ops ⟨context, b'⟩
      ∃ asked, after p.recorded ops (withRecord ⟨context, b'⟩ []) = k.withRecord asked ∧
        k.machine.session.settings = context.settings.changed asked ∧
        k.context.settings = context.settings.changed (asked.filter p.evaluator.accepted) ∧
        ((∀ a ∈ asked, p.evaluator.accepted a = true) →
          k.machine.session.settings = k.context.settings) := by
  intro config bench
  have hok : (setUpWorker Host.bare Session.tapes config bench).1.any Except.isOk = true := by
    decide +kernel
  dsimp only
  rcases hsetup : setUpWorker Host.bare Session.tapes config bench with ⟨_ | _ | context, b'⟩
  · rw [hsetup] at hok
    cases hok
  · rw [hsetup] at hok
    cases hok
  · exact ⟨context, b', rfl, settings_after hsetup _⟩

/-- The worker answers the ping, the reset and the change to the first directory, and refuses the change
to another one. The next worker would be started in the directory that was refused. -/
theorem settings_differ_after_refusal :
    let p := Workbench.platform Host.bare Session.tapes
    let workers : List (List Reply) := [[.pong, .done, .done, .failed "Permission denied"]]
    ∃ k, Session.kernelOnTapes? workers = some k ∧
      (after p [.setWorkingDirectory "/data"] k).machine.session.settings
        ≠ (after p [.setWorkingDirectory "/data"] k).context.settings := by
  intro p workers
  have hchecked : ((Session.kernelOnTapes? workers).any fun k =>
      (after p [.setWorkingDirectory "/data"] k).machine.session.settings.directory.text !=
        (after p [.setWorkingDirectory "/data"] k).context.settings.directory.text) = true := by
    decide +kernel
  obtain ⟨k, hk, hdiffer⟩ := (Option.any_eq_true _ _).mp hchecked
  refine ⟨k, hk, fun hsame => ?_⟩
  rw [hsame, bne_self_eq_false] at hdiffer
  cases hdiffer

end Kernel

end NotebookKernel
