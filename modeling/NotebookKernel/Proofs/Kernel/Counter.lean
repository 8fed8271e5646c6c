import Mathlib.Data.List.DropRight
import NotebookKernel.Proofs.Evaluator.Ends
import NotebookKernel.Proofs.Host.Files
import NotebookKernel.Proofs.Kernel.Runs

/-!
# The execution counter

`Kernel.Step.counts` says which operations are counted: cells that a known magic handles, shell
commands that ran to their end and plain code whose output is no error. `Kernel.Step.resets` says which
set the counter back. `Kernel.executionCount_after` is about whole runs: the counter is the number of
operations that were counted since the last one that set it back.

A shell escape shows an error exactly when its command did not run to its end, be it that the time was
up, that the process did not start or that no interpreter was found. Such a command does not count, but
a call of the package installer does: `Kernel.error_and_count_of_escape`.
-/

namespace NotebookKernel

open Source Text

open Act hiding pure

variable {σ α β : Type}

/-! ## What leaves the counter alone -/

namespace KernelM

/-- Whatever the state, the action ends with a value, and neither the counter nor the generation is
changed. -/
def Steady (act : KernelM σ α) : Prop :=
  ∀ k, ∃ a k', act k = (some a, k') ∧ k'.context.executionCount = k.context.executionCount ∧
    k'.context.generation = k.context.generation

theorem steady_pure (a : α) : Steady (pure a : KernelM σ α) := fun k => ⟨a, k, rfl, rfl, rfl⟩

theorem Steady.bind {act : KernelM σ α} {next : α → KernelM σ β} (h : Steady act)
    (hnext : ∀ a, Steady (next a)) : Steady (act >>= next) := by
  intro k
  obtain ⟨a, k', hact, hcount, hgeneration⟩ := h k
  obtain ⟨b, k'', hrun, hcount', hgeneration'⟩ := hnext a k'
  refine ⟨b, k'', ?_, hcount'.trans hcount, hgeneration'.trans hgeneration⟩
  rw [bind_run_of_some hact, hrun]

theorem steady_onMachine {act : Act σ α} (h : Ends act) : Steady (onMachine act) := by
  intro k
  obtain ⟨a, s, hact⟩ := h k.machine
  refine ⟨a, { k with machine := s }, ?_, rfl, rfl⟩
  simp only [onMachine, Act.zoom, hact]

theorem steady_gets (f : Kernel σ → α) : Steady (Act.gets f) := fun k => ⟨f k, k, rfl, rfl, rfl⟩

theorem steady_setWorkingDirectory {p : Platform σ} (hp : p.evaluator.AlwaysEnds) (raw : String) :
    Steady (Kernel.setWorkingDirectory p raw) := by
  refine (steady_gets id).bind fun k => ?_
  split
  · exact steady_pure _
  · split
    · exact steady_pure _
    · refine (steady_onMachine (hp.setDirectory _)).bind fun result => ?_
      cases result with
      | error failure => exact steady_pure _
      | ok => exact fun k => ⟨true, _, rfl, rfl, rfl⟩

theorem steady_setVariable {p : Platform σ} (hp : p.evaluator.AlwaysEnds) (key value : String) :
    Steady (Kernel.setVariable p key value) := by
  refine (steady_onMachine (hp.setVariable key value)).bind fun result => ?_
  cases result with
  | error failure => exact steady_pure _
  | ok => exact fun k => ⟨.ok (), _, rfl, rfl, rfl⟩

theorem composes_steady {p : Platform σ} (hp : p.evaluator.AlwaysEnds) :
    Composes p p (fun act _ => Steady act) (fun act _ => Steady act) where
  home := rfl
  pure := steady_pure
  bind := Steady.bind
  context := steady_gets _
  interpreter := steady_gets _
  entries _ := steady_gets _
  fileText _ := steady_gets _
  launch _ _ := (steady_gets _).bind fun _ => steady_onMachine (Shellout.ends_run p.host _)
  createDirectories _ := steady_onMachine (ends_ofUpdate _)
  writeFile _ _ := steady_onMachine (ends_ofUpdate _)
  monotonic := steady_onMachine (ends_ofUpdate _)
  bindings := steady_onMachine hp.bindings
  setWorkingDirectory := steady_setWorkingDirectory hp
  setVariable := steady_setVariable hp
  busy h := h
  before := Steady.bind
  after := Steady.bind
  runCode code := steady_onMachine (hp.ends_runCode code)
  runIsolated code file := steady_onMachine (hp.ends_capture (hp.runIsolated code file))
  measure code := steady_onMachine (hp.ends_capture (hp.uniform.measure code))

end KernelM

/-! ## What is counted -/

theorem Captured.isOk_outcome (c : Captured (Option String)) :
    c.outcome.isOk = !c.output.isError := by
  have hiff := c.isError_output_iff
  cases houtcome : c.outcome with
  | error failure =>
    rw [houtcome] at hiff
    rw [hiff.mpr ⟨failure, rfl⟩]
    rfl
  | ok value =>
    have hnot : ¬c.output.isError = true := fun h => by
      obtain ⟨failure, hfailure⟩ := hiff.mp h
      rw [houtcome] at hfailure
      cases hfailure
    rw [Bool.eq_false_iff.mpr hnot]
    rfl

/-- How a cell is handled. -/
inductive Route where
  /-- There is nothing in the cell. -/
  | blank
  /-- A command for the shell. -/
  | escape (command : String)
  /-- A magic that is known. -/
  | magic (d : Directive)
  /-- Plain code, which may look like a magic. -/
  | code (text : String)
  deriving DecidableEq, Repr

/-- How a registry makes a cell be handled. -/
def Route.ofCell {H : Type} (r : Registry H) (cell : String) : Route :=
  let code := trim cell
  if code.isEmpty then .blank
  else match stripStart? "!" code with
    | some command => .escape (trim command)
    | none =>
      match (Directive.ofCell? code).filter fun d => (r.lookup d.scope d.name).isSome with
      | some d => .magic d
      | none => .code code

namespace Kernel

/-- The process that a shell escape starts. There is none where the package installer is called but no
interpreter is found. -/
def escapeLaunch? (p : Platform σ) (k : Kernel σ) (command : String) : Option Launch :=
  let c := k.context
  match pipArguments? command with
  | none =>
    some (Shellout.shellLaunch command c.workingDirectory c.environment c.config.shellTimeout)
  | some args =>
    (c.config.pythonExecutable p.host k.machine).toOption.map fun python =>
      Shellout.pipLaunch python args c.workingDirectory c.environment c.config.pipTimeout

/-- Whether the command of a shell escape runs to its end. -/
def completes (p : Platform σ) (k : Kernel σ) (command : String) : Bool :=
  (escapeLaunch? p k command).any fun launch =>
    match (p.host.run launch k.machine).1 with
    | .finished .. => true
    | _ => false

namespace Step

/-- Whether the step is one that the execution counter counts. -/
def counts (p : Platform σ) (s : Step σ) : Bool :=
  match s.operation with
  | .execute cell =>
    match Route.ofCell (Magic.builtins p) cell with
    | .blank => false
    | .escape command => s.before.completes p command
    | .magic d => !d.isReset
    | .code _ => (Kernel.execute p (Magic.builtins p) cell s.before).1.any (!·.isError)
  | _ => false

/-- Whether the step sets the execution counter back, whatever else comes of it. -/
def resets (p : Platform σ) (s : Step σ) : Bool :=
  match s.operation with
  | .execute cell =>
    match Route.ofCell (Magic.builtins p) cell with
    | .magic d => d.isReset
    | _ => false
  | .reset => true
  | _ => false

/-- Whether the step calls the package installer in a shell escape, and the call does not run to its
end. -/
def pipFails (p : Platform σ) (s : Step σ) : Bool :=
  match s.operation with
  | .execute cell =>
    match Route.ofCell (Magic.builtins p) cell with
    | .escape command => (pipArguments? command).isSome && !s.before.completes p command
    | _ => false
  | _ => false

end Step

/-! ## Shell escapes -/

theorem isError_shelloutFailed (failure : Failure) : (shelloutFailed failure).isError = true := by
  cases failure <;> rfl

/-- A process that the kernel starts shows in a result, and in nothing else that the kernel knows. -/
theorem runLaunch_run (h : Host σ) (launch : Launch) (k : Kernel σ) :
    ∃ result s, KernelM.onMachine (Shellout.run h launch) k = (some result, { k with machine := s }) ∧
      result.isOk = match (h.run launch k.machine).1 with
        | .finished .. => true
        | _ => false := by
  rcases hend : h.run launch k.machine with ⟨_ | _ | _, s⟩ <;>
    refine ⟨_, s, by simp only [KernelM.onMachine, Act.zoom, Shellout.run, hend]; rfl, rfl⟩

section Escapes

variable (p : Platform σ) {command : String} (k : Kernel σ)

theorem runShell_run (hargs : pipArguments? command = none) :
    ∃ result s, runShell p command k = (some result, { k with machine := s }) ∧
      result.isOk = completes p k command := by
  obtain ⟨result, s, hrun, hok⟩ := runLaunch_run p.host (Shellout.shellLaunch command
    k.context.workingDirectory k.context.environment k.context.config.shellTimeout) k
  refine ⟨result, s, hrun, ?_⟩
  simp only [completes, escapeLaunch?, hargs, hok]
  rfl

theorem runPip_run {args : String} (hargs : pipArguments? command = some args) :
    ∃ o s, runPip p args k = (some o, { k with machine := s }) ∧ o.isError = !completes p k command := by
  have hget : (Act.get : KernelM σ (Kernel σ)) k = (some k, k) := rfl
  rw [runPip, bind_run_of_some hget]
  cases hpython : k.context.config.pythonExecutable p.host k.machine with
  | error failure =>
    have hcompletes : completes p k command = false := by
      simp only [completes, escapeLaunch?, hargs, hpython]
      rfl
    refine ⟨.ofFailure failure, k.machine, rfl, ?_⟩
    rw [hcompletes]
    rfl
  | ok python =>
    obtain ⟨result, s, hrun, hok⟩ := runLaunch_run p.host (Shellout.pipLaunch python args
      k.context.workingDirectory k.context.environment k.context.config.pipTimeout) k
    have hcompletes : completes p k command = result.isOk := by
      simp only [completes, escapeLaunch?, hargs, hpython, hok]
      rfl
    dsimp only
    rw [bind_run_of_some hrun, hcompletes]
    cases result with
    | ok finished => exact ⟨_, s, rfl, rfl⟩
    | error failure => exact ⟨_, s, rfl, isError_shelloutFailed failure⟩

/-- The output is an error exactly when the command did not run to its end. -/
theorem shellEscape_run (command : String) :
    ∃ o s, shellEscape p command k
        = (some (o, completes p k command || (pipArguments? command).isSome), { k with machine := s }) ∧
      o.isError = !completes p k command := by
  cases hargs : pipArguments? command with
  | none =>
    obtain ⟨result, s, hrun, hok⟩ := runShell_run p k hargs
    simp only [shellEscape, hargs, bind_run_of_some hrun, ← hok, Option.isSome_none, Bool.or_false]
    cases result with
    | ok finished => exact ⟨_, s, rfl, rfl⟩
    | error failure => exact ⟨_, s, rfl, isError_shelloutFailed failure⟩
  | some args =>
    obtain ⟨o, s, hrun, herror⟩ := runPip_run p k hargs
    simp only [shellEscape, hargs, bind_run_of_some hrun, Option.isSome_some, Bool.or_true]
    exact ⟨o, s, rfl, herror⟩

/-- A shell escape counts if its command runs to its end, and a call of the package installer anyway. -/
theorem counts_of_shellEscape {k' : Kernel σ} {o : Output} {counts : Bool}
    (hrun : shellEscape p command k = (some (o, counts), k'))
    (hpip : (pipArguments? command).isSome = true → completes p k command = true) :
    counts = completes p k command := by
  obtain ⟨o', s, hrun', -⟩ := shellEscape_run p k command
  rw [hrun'] at hrun
  cases hrun
  cases hinstaller : (pipArguments? command).isSome with
  | true => rw [Bool.or_true, hpip hinstaller]
  | false => rw [Bool.or_false]

end Escapes

/-! ## One cell -/

section Routes

variable {p : Platform σ} {r : Registry (Handler σ)} {cell : String}

theorem isEmpty_of_blank (h : Route.ofCell r cell = .blank) : (trim cell).isEmpty = true := by
  simp only [Route.ofCell] at h
  split at h
  · next hcode => exact hcode
  · split at h
    · cases h
    · split at h <;> cases h

theorem route_of_escape {command : String} (h : Route.ofCell r cell = .escape command) :
    (trim cell).isEmpty = false ∧ route p r (trim cell) = shellEscape p command := by
  simp only [Route.ofCell] at h
  split at h
  · cases h
  next hcode =>
    refine ⟨by simpa using hcode, ?_⟩
    split at h
    · next command hstrip =>
      cases h
      simp only [route, hstrip]
    · split at h <;> cases h

theorem route_of_stripStart? {command : String} (h : stripStart? "!" (trim cell) = some command) :
    (trim cell).isEmpty = false ∧ route p r (trim cell) = shellEscape p (trim command) := by
  refine ⟨?_, by simp only [route, h]⟩
  by_contra hempty
  rw [Bool.not_eq_false, String.isEmpty_iff] at hempty
  rw [hempty] at h
  cases h

theorem route_of_magic {d : Directive} (h : Route.ofCell r cell = .magic d) :
    (trim cell).isEmpty = false ∧ ∃ handler, r.lookup d.scope d.name = some handler ∧
      route p r (trim cell) = (do pure (← handler d, true)) := by
  simp only [Route.ofCell] at h
  split at h
  · cases h
  next hcode =>
    refine ⟨by simpa using hcode, ?_⟩
    split at h
    · cases h
    next hstrip =>
      split at h
      · next d' hfound =>
        cases h
        obtain ⟨hdirective, hknown⟩ := Option.filter_eq_some_iff.mp hfound
        obtain ⟨handler, hlookup⟩ := Option.isSome_iff_exists.mp hknown
        refine ⟨handler, hlookup, ?_⟩
        simp only [route, hstrip, hdirective, Option.bind_some, hlookup, Option.map_some]
      · cases h

theorem route_of_code {text : String} (h : Route.ofCell r cell = .code text) :
    (trim cell).isEmpty = false ∧ route p r (trim cell) = executeCode p (trim cell) := by
  simp only [Route.ofCell] at h
  split at h
  · cases h
  next hcode =>
    refine ⟨by simpa using hcode, ?_⟩
    split at h
    · cases h
    next hstrip =>
      split at h
      · cases h
      next hunknown =>
        have hnone : ((Directive.ofCell? (trim cell)).bind fun d =>
            (r.lookup d.scope d.name).map fun handler => handler d) = none := by
          cases hd : Directive.ofCell? (trim cell) with
          | none => rfl
          | some d =>
            rw [hd, Option.filter_eq_none_iff] at hunknown
            have hlookup := hunknown d rfl
            simpa using hlookup
        simp only [route, hstrip, hnone]

/-- The kernel with one more cell counted. -/
def counted (k : Kernel σ) : Kernel σ :=
  { k with context := { k.context with executionCount := k.context.executionCount + 1 } }

/-- The kernel without the interrupt that was asked for. -/
def uninterrupted (k : Kernel σ) : Kernel σ :=
  { k with context := { k.context with interrupted := false } }

theorem execute_of_blank (h : Route.ofCell r cell = .blank) (k : Kernel σ) :
    execute p r cell k = (some (.text ""), k.uninterrupted) := by
  have hcode := isEmpty_of_blank h
  unfold execute
  simp only [hcode, if_true]
  rfl

/-- A cell is counted if its route says so and left the namespace in its place. -/
theorem execute_of_route {k k' : Kernel σ} {o : Output} {counts : Bool}
    (hcode : (trim cell).isEmpty = false)
    (hrun : route p r (trim cell) k.uninterrupted = (some (o, counts), k')) :
    execute p r cell k = if counts && k'.context.generation == k.context.generation then
      (some o, k'.counted) else (some o, k') := by
  have hclear : KernelM.modifyContext (fun c => { c with interrupted := false }) k
      = (some (), k.uninterrupted) := rfl
  have hbefore : KernelM.getContext k.uninterrupted
      = (some k.uninterrupted.context, k.uninterrupted) := rfl
  have hafter : KernelM.getContext k' = (some k'.context, k') := rfl
  rw [execute, bind_run_of_some hclear]
  simp only [hcode, Bool.false_eq_true, if_false]
  rw [bind_run_of_some hbefore, bind_run_of_some hrun]
  dsimp only
  rw [bind_run_of_some hafter]
  split
  · next h => exact (if_pos h).symm
  · next h => exact (if_neg h).symm

/-- A cell panics if its route does. -/
theorem execute_of_route_none {k k' : Kernel σ} (hcode : (trim cell).isEmpty = false)
    (hrun : route p r (trim cell) k.uninterrupted = (none, k')) : execute p r cell k = (none, k') := by
  have hclear : KernelM.modifyContext (fun c => { c with interrupted := false }) k
      = (some (), k.uninterrupted) := rfl
  have hbefore : KernelM.getContext k.uninterrupted
      = (some k.uninterrupted.context, k.uninterrupted) := rfl
  rw [execute, bind_run_of_some hclear]
  simp only [hcode, Bool.false_eq_true, if_false]
  rw [bind_run_of_some hbefore, bind_run_of_none hrun]

/-- A magic that keeps the namespace is counted unless it panics. -/
theorem execute_of_magic {act : KernelM σ Output} (hcode : (trim cell).isEmpty = false)
    (hroute : route p r (trim cell) = (do pure (← act, true))) {k : Kernel σ}
    (hkept : (act k.uninterrupted).2.context.generation = k.context.generation) :
    execute p r cell k = match act k.uninterrupted with
      | (some o, k') => (some o, k'.counted)
      | (none, k') => (none, k') := by
  have hrun := congrFun hroute k.uninterrupted
  rcases hact : act k.uninterrupted with ⟨_ | o, k'⟩
  · rw [bind_run_of_none hact] at hrun
    exact execute_of_route_none hcode hrun
  · rw [bind_run_of_some hact] at hrun
    rw [hact] at hkept
    rw [execute_of_route hcode hrun, hkept, beq_self_eq_true]
    rfl

/-- A cell whose route is steady adds one to the counter if the route says that it counts. -/
theorem execute_of_steady (hcode : (trim cell).isEmpty = false)
    (hroute : KernelM.Steady (route p r (trim cell))) (k : Kernel σ) :
    ∃ o counts k' k'', route p r (trim cell) k.uninterrupted = (some (o, counts), k') ∧
      execute p r cell k = (some o, k'') ∧ k''.context.executionCount =
        if counts then k.context.executionCount + 1 else k.context.executionCount := by
  obtain ⟨⟨o, counts⟩, k', hrun, hcount, hgeneration⟩ := hroute k.uninterrupted
  have hsame : k'.context.generation = k.context.generation := hgeneration
  have hexecute := execute_of_route hcode hrun
  cases counts with
  | true =>
    refine ⟨o, true, k', k'.counted, hrun, ?_, ?_⟩
    · rw [hexecute, hsame, beq_self_eq_true]
      rfl
    · exact congrArg (· + 1) hcount
  | false => exact ⟨o, false, k', k', hrun, hexecute, hcount⟩

/-- A reset sets the counter back and changes the generation, also when the evaluator refuses it. -/
theorem reset_run (hp : p.evaluator.AlwaysEnds) (k : Kernel σ) :
    ∃ result k', reset p k = (some result, k') ∧ k'.context.executionCount = 0 ∧
      k'.context.generation = k.context.generation + 1 := by
  obtain ⟨result, s, hrun⟩ := hp.reset k.context.config.preload k.machine
  let cleared : Context := { k.context with
    executionCount := 0
    interrupted := false
    generation := k.context.generation + 1 }
  have hreset : reset p k = ((p.evaluator.reset k.context.config.preload k.machine).1,
      ⟨cleared, (p.evaluator.reset k.context.config.preload k.machine).2⟩) := rfl
  exact ⟨result, ⟨cleared, s⟩, by rw [hreset, hrun], rfl, rfl⟩

/-- A cell that begins with an exclamation mark shows an error exactly when its command did not run to
its end. It counts if the command did, and a call of the package installer counts anyway. -/
theorem error_and_count_of_escape (p : Platform σ) (k : Kernel σ) (r : Registry (Handler σ))
    {cell command : String} (h : stripStart? "!" (trim cell) = some command) :
    ∃ o k', execute p r cell k = (some o, k') ∧
      o.isError = !completes p k (trim command) ∧
      k'.context.executionCount =
        if completes p k (trim command) || (pipArguments? (trim command)).isSome then
          k.context.executionCount + 1
        else k.context.executionCount := by
  obtain ⟨hcode, hroute⟩ := route_of_stripStart? (p := p) (r := r) h
  have hsame : completes p k.uninterrupted (trim command) = completes p k (trim command) := by
    unfold completes escapeLaunch?
    rfl
  obtain ⟨o, s, hrun, herror⟩ := shellEscape_run p k.uninterrupted (trim command)
  rw [hsame] at hrun herror
  rw [← hroute] at hrun
  have hgeneration : (({ k.uninterrupted with machine := s } : Kernel σ).context.generation
      == k.context.generation) = true :=
    beq_self_eq_true _
  rw [execute_of_route hcode hrun, hgeneration, Bool.and_true]
  cases completes p k (trim command) || (pipArguments? (trim command)).isSome with
  | true => exact ⟨o, _, rfl, herror, rfl⟩
  | false => exact ⟨o, _, rfl, herror, rfl⟩

/-- On a machine that starts no process, a command does not count. -/
theorem error_and_count_of_escape_not_started :
    let p : Platform Nat := ⟨Evaluator.bare, Host.bare⟩
    stripStart? "!" (trim "! ls ") = some " ls" ∧
      ∃ o k', execute p (Magic.builtins p) "! ls " Kernel.bare = (some o, k') ∧
        o.isError = true ∧ k'.context.executionCount = 0 := by
  intro p
  have hstrip : stripStart? "!" (trim "! ls ") = some " ls" := by decide +kernel
  have hcompletes : completes p Kernel.bare (trim " ls") = false := by decide +kernel
  have hpip : (pipArguments? (trim " ls")).isSome = false := by decide +kernel
  obtain ⟨o, k', hrun, herror, hcount⟩ :=
    error_and_count_of_escape p Kernel.bare (Magic.builtins p) hstrip
  rw [hcompletes] at herror
  rw [hcompletes, hpip] at hcount
  exact ⟨hstrip, o, k', hrun, herror, hcount⟩

/-- A call of the package installer counts though no interpreter was found for it. -/
theorem pip_counts_without_interpreter :
    let p : Platform Nat := ⟨Evaluator.bare, Host.bare⟩
    let run := execute p (Magic.builtins p) "!pip install numpy" Kernel.bare
    escapeLaunch? p Kernel.bare "pip install numpy" = none ∧ run.1.any (·.isError) = true ∧
      Kernel.bare.context.executionCount = 0 ∧ run.2.context.executionCount = 1 := by
  refine ⟨?_, ?_, rfl, ?_⟩ <;> decide +kernel

end Routes

section Steps

variable {p : Platform σ} {k : Kernel σ}

theorem executionCount_execute_of_reset (hp : p.evaluator.AlwaysEnds) {cell : String}
    {d : Directive} (hroute : Route.ofCell (Magic.builtins p) cell = .magic d)
    (hreset : d.isReset = true) :
    (execute p (Magic.builtins p) cell k).2.context.executionCount = 0 := by
  obtain ⟨hcode, handler, hlookup, hrun⟩ := route_of_magic (p := p) hroute
  rw [Magic.lookup_builtins_of_isReset hreset] at hlookup
  cases hlookup
  obtain ⟨result, k', hk', hcount, hgeneration⟩ := reset_run hp k.uninterrupted
  obtain ⟨o, ho⟩ : ∃ o, route p (Magic.builtins p) (trim cell) k.uninterrupted
      = (some (o, true), k') := by
    rw [hrun, Magic.resetNamespace]
    simp only [bind_run, hk']
    cases result <;> exact ⟨_, rfl⟩
  rw [execute_of_route hcode ho]
  have hchanged : (k'.context.generation == k.context.generation) = false := by
    rw [hgeneration]
    exact beq_false_of_ne (Nat.succ_ne_self _)
  rw [hchanged]
  exact hcount

/-- The kernel after a cell that does not set the counter back. -/
theorem executionCount_execute (hp : p.evaluator.AlwaysEnds) {cell : String}
    (hreset : (⟨.execute cell, k⟩ : Step σ).resets p = false)
    (hpip : (⟨.execute cell, k⟩ : Step σ).pipFails p = false) :
    (execute p (Magic.builtins p) cell k).2.context.executionCount =
      if (⟨.execute cell, k⟩ : Step σ).counts p then k.context.executionCount + 1
      else k.context.executionCount := by
  have hsteady := KernelM.composes_steady hp
  simp only [Step.resets, Step.pipFails] at hreset hpip
  cases hroute : Route.ofCell (Magic.builtins p) cell with
  | blank =>
    simp only [Step.counts, hroute, execute_of_blank hroute]
    rfl
  | escape command =>
    obtain ⟨hcode, hescape⟩ := route_of_escape (p := p) hroute
    obtain ⟨o, counts, k', k'', hrun, hexecute, hcount⟩ := execute_of_steady hcode
      (hescape ▸ hsteady.shellEscape command) k
    rw [hescape] at hrun
    have hcounts : counts = completes p k command := by
      refine counts_of_shellEscape p k.uninterrupted hrun fun hinstaller => ?_
      have hcompletes : completes p k command = true := by simpa [hroute, hinstaller] using hpip
      exact hcompletes
    simp only [Step.counts, hroute, hexecute, hcount, hcounts]
  | magic d =>
    obtain ⟨hcode, handler, hlookup, hmagic⟩ := route_of_magic (p := p) hroute
    have hd : d.isReset = false := by simpa only [hroute] using hreset
    obtain ⟨_, -, hhandler⟩ := hsteady.magic hlookup hd
    obtain ⟨o, counts, k', k'', hrun, hexecute, hcount⟩ := execute_of_steady hcode
      (hmagic ▸ hhandler.bind fun _ => KernelM.steady_pure _) k
    have hcounts : counts = true := by
      have hgives : Gives (fun result : Output × Bool => result.2 = true)
          (route p (Magic.builtins p) (trim cell)) :=
        hmagic ▸ gives_bind fun _ => gives_pure rfl
      exact hgives k.uninterrupted (o, counts) (by rw [hrun])
    simp only [Step.counts, hroute, hexecute, hcount, hcounts, hd, Bool.not_false]
  | code text =>
    obtain ⟨hcode, hplain⟩ := route_of_code (p := p) hroute
    obtain ⟨o, counts, k', k'', hrun, hexecute, hcount⟩ := execute_of_steady hcode
      (hplain ▸ hsteady.executeCode (trim cell)) k
    have hcounts : counts = !o.isError := by
      have hgives : Gives (fun result : Output × Bool => result.2 = !result.1.isError)
          (route p (Magic.builtins p) (trim cell)) :=
        hplain ▸ gives_bind fun captured => gives_pure captured.isOk_outcome
      exact hgives k.uninterrupted (o, counts) (by rw [hrun])
    simp only [Step.counts, hroute, hexecute, hcount, hcounts, Option.any_some]

theorem exists_magic_of_resets {cell : String}
    (h : (⟨.execute cell, k⟩ : Step σ).resets p = true) :
    ∃ d, Route.ofCell (Magic.builtins p) cell = .magic d ∧ d.isReset = true := by
  simp only [Step.resets] at h
  split at h
  · next d hroute => exact ⟨d, hroute, h⟩
  · cases h

/-- What a step does to the counter. -/
theorem executionCount_next (hp : p.evaluator.AlwaysEnds) (s : Step σ)
    (hpip : s.pipFails p = false) :
    (s.operation.next p s.before).context.executionCount =
      if s.resets p then 0
      else if s.counts p then s.before.context.executionCount + 1
      else s.before.context.executionCount := by
  have hsteady := KernelM.composes_steady hp
  obtain ⟨op, k⟩ := s
  -- An operation that is no cell and no reset is steady, and is never counted.
  have hother (hop : KernelM.Steady (op.perform p)) :
      (op.next p k).context.executionCount = k.context.executionCount := by
    obtain ⟨_, k', hrun, hcount, -⟩ := hop k
    rw [Operation.next, hrun, hcount]
  cases op with
  | execute cell =>
    cases hresets : Step.resets p ⟨.execute cell, k⟩ with
    | true =>
      obtain ⟨d, hroute, hd⟩ := exists_magic_of_resets hresets
      rw [next_execute, executionCount_execute_of_reset hp hroute hd, if_pos rfl]
    | false =>
      dsimp only
      rw [next_execute, executionCount_execute hp hresets hpip, if_neg Bool.false_ne_true]
  | reset =>
    obtain ⟨result, k', hrun, hcount, -⟩ := reset_run hp k
    have hnext : Operation.next p .reset k = k' := by
      rw [Operation.next, Operation.perform, bind_run_of_some hrun]
      rfl
    rw [hnext, hcount]
    rfl
  | listVariables =>
    exact hother ((hsteady.bindings.bind fun _ => KernelM.steady_pure _).bind fun _ =>
      KernelM.steady_pure _)
  | setWorkingDirectory raw =>
    exact hother ((hsteady.setWorkingDirectory raw).bind fun _ => KernelM.steady_pure _)
  | requestInterrupt => rfl

end Steps

/-! ## A whole run -/

/-- Whether an operation runs a cell. -/
def Operation.isCell : Operation → Bool
  | .execute _ => true
  | _ => false

/-- The steps since the last one that set the counter back. -/
def sinceReset (p : Platform σ) (history : List (Step σ)) : List (Step σ) :=
  history.rtakeWhile fun s => !s.resets p

variable {p : Platform σ} {k : Kernel σ}

theorem sinceReset_concat (history : List (Step σ)) (s : Step σ) :
    sinceReset p (history ++ [s]) = if s.resets p then [] else sinceReset p history ++ [s] := by
  rw [sinceReset, List.rtakeWhile_concat]
  cases s.resets p <;> rfl

theorem Step.isCell_of_counts {s : Step σ} (h : s.counts p = true) :
    s.operation.isCell = true := by
  obtain ⟨op, k⟩ := s
  cases op with
  | execute cell => rfl
  | _ => cases h

/-- No more is counted than there are cells. -/
theorem countP_counts_le (ops : List Operation) :
    (sinceReset p (steps p ops k)).countP (Step.counts p) ≤ ops.countP Operation.isCell := by
  calc (sinceReset p (steps p ops k)).countP (Step.counts p)
      ≤ (steps p ops k).countP (Step.counts p) := (List.rtakeWhile_suffix _ _).sublist.countP_le
    _ ≤ (steps p ops k).countP (Operation.isCell ∘ Step.operation) :=
        List.countP_mono_left fun s _ => Step.isCell_of_counts
    _ = ops.countP Operation.isCell := by rw [← List.countP_map, map_operation_steps]

/-- Where no call of the package installer breaks off and the cells are fewer than the counter can tell,
the counter is the number of steps that were counted since the last one that set it back. -/
theorem executionCount_after (hp : p.evaluator.AlwaysEnds) (hk : k.context.executionCount = 0)
    (ops : List Operation) (hpip : ∀ s ∈ steps p ops k, s.pipFails p = false)
    (hfew : ops.countP Operation.isCell < UInt32.size) :
    (after p ops k).context.executionCount.toNat =
      (sinceReset p (steps p ops k)).countP (Step.counts p) := by
  induction ops using List.reverseRecOn with
  | nil => exact congrArg UInt32.toNat hk
  | append_singleton ops op ih =>
    have hle := countP_counts_le (p := p) (k := k) (ops ++ [op])
    rw [steps_concat] at hpip hle ⊢
    have hearlier := ih (fun s hs => hpip s (List.mem_append_left _ hs)) (by
      rw [List.countP_append] at hfew
      omega)
    rw [after_concat, executionCount_next hp ⟨op, after p ops k⟩
      (hpip _ (List.mem_append_right _ List.mem_cons_self))]
    rw [sinceReset_concat] at hle ⊢
    cases hresets : Step.resets p ⟨op, after p ops k⟩ with
    | true => rfl
    | false =>
      simp only [hresets, Bool.false_eq_true, if_false, List.countP_append,
        List.countP_singleton] at hle hfew ⊢
      cases hcounts : Step.counts p ⟨op, after p ops k⟩ with
      | true =>
        simp only [hcounts, if_true] at hle ⊢
        -- The counter does not overflow, since even the cells of the whole run are too few for that.
        have hlt : (after p ops k).context.executionCount.toNat + 1 < UInt32.size := by
          rw [hearlier]
          exact hle.trans_lt hfew
        rw [UInt32.toNat_add, UInt32.toNat_one, Nat.mod_eq_of_lt hlt, hearlier]
      | false => simpa only [hcounts, Bool.false_eq_true, if_false, Nat.add_zero] using hearlier

/-- Of these nine operations, the last reset is the third one. Of those after it, the plain code that
does not fail, the call of the package installer and the magic are counted. -/
theorem executionCount_after_mixed_run :
    let h : Host Nat := { Host.bare with
      run := fun launch s =>
        if launch.args.contains "sleep 300" then (.timedOut, s) else (.finished (some 0) [] [], s) }
    let p : Platform Nat := ⟨Evaluator.bare, h⟩
    let k : Kernel Nat := { Kernel.bare with
      context := { Kernel.bare.context with
        config := { Kernel.bare.context.config with python := some ⟨"python3"⟩ } } }
    let ops : List Operation := [.execute "x = 1", .execute "!ls", .execute "%reset",
      .execute "x = 1", .execute "raise", .execute "!pip install numpy", .requestInterrupt,
      .execute "!sleep 300", .execute "%pwd"]
    p.evaluator.AlwaysEnds ∧ k.context.executionCount = 0 ∧
      (∀ s ∈ steps p ops k, s.pipFails p = false) ∧ ops.countP Operation.isCell < UInt32.size ∧
      (after p ops k).context.executionCount.toNat = 3 ∧
      (after p ops k).context.executionCount.toNat =
        (sinceReset p (steps p ops k)).countP (Step.counts p) := by
  intro h p k ops
  have hpip : ∀ s ∈ steps p ops k, s.pipFails p = false := by decide +kernel
  have hfew : ops.countP Operation.isCell < UInt32.size := by decide
  exact ⟨Evaluator.alwaysEnds_bare, rfl, hpip, hfew, by decide +kernel,
    executionCount_after Evaluator.alwaysEnds_bare rfl ops hpip hfew⟩

end Kernel

end NotebookKernel
