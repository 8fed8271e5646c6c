import NotebookKernel.Proofs.Kernel.Routes

/-!
# Processes that cells start

`Platform.launching` keeps a record of all processes that are started on a platform.
`Kernel.launching_execute` says that a cell starts one process at most, and this in the working directory
and with the variables of the kernel. Cells that hand their text to a process are listed by
`Kernel.ShellsOut`, and `Kernel.execute_of_shellsOut` says which process each of them starts.
-/

namespace NotebookKernel

open Source Text

open Act hiding pure

variable {σ α : Type}

/-- The platform with a record of all processes that were started. -/
def Platform.launching (p : Platform σ) : Platform (σ × List Launch) where
  evaluator := p.evaluator.zoom Prod.fst fun t s => (s, t.2)
  host := { p.host.zoom Prod.fst fun t s => (s, t.2) with
    run := fun launch (s, launched) =>
      ((p.host.run launch s).1, (p.host.run launch s).2, launched ++ [launch]) }

/-- The kernel on a machine with a record of processes. -/
def Kernel.withLaunched (k : Kernel σ) (launched : List Launch) : Kernel (σ × List Launch) :=
  ⟨k.context, k.machine, launched⟩

/-- The evaluator starts no processes. -/
theorem Evaluator.uniform_zoom (ev : Evaluator σ) (launched : List Launch) :
    Uniform (Agrees fun (t : σ × List Launch) s => t = (s, launched))
      (ev.zoom Prod.fst fun t s => (s, t.2)) ev where
  pure := agrees_pure
  bind := Agrees.bind
  onPanic := Agrees.onPanic
  runStatements _ := by rintro _ s rfl; exact ⟨rfl, rfl⟩
  evalExpression _ := by rintro _ s rfl; exact ⟨rfl, rfl⟩
  isExpression _ := by rintro _ s rfl; exact ⟨rfl, rfl⟩
  beginCapture := by rintro _ s rfl; exact ⟨rfl, rfl⟩
  endCapture := by rintro _ s rfl; exact ⟨rfl, rfl⟩
  takePlot := by rintro _ s rfl; exact ⟨rfl, rfl⟩
  runIsolated _ _ := by rintro _ s rfl; exact ⟨rfl, rfl⟩
  timeStatements _ _ := by rintro _ s rfl; exact ⟨rfl, rfl⟩

/-- The process that hands a command to the shell. -/
def Context.shellLaunch (c : Context) (command : String) : Launch :=
  Shellout.shellLaunch command c.workingDirectory c.environment c.config.shellTimeout

/-- The two contexts have the directory and the variables in common. -/
structure Context.Alike (c c' : Context) : Prop where
  directory : c'.workingDirectory = c.workingDirectory
  environment : c'.environment = c.environment

theorem Launch.Fits.of_alike {launch : Launch} {c c' : Context} (h : launch.Fits c')
    (hsame : c.Alike c') : launch.Fits c :=
  ⟨h.directory.trans hsame.directory, h.environment.trans hsame.environment⟩

namespace Kernel

variable {β : Type} {p : Platform σ}

/-- Starts no process and leaves the directory and the variables as they are. -/
abbrev Idle (act' : KernelM (σ × List Launch) α) (act : KernelM σ α) : Prop :=
  Traces withLaunched (fun k launched r => launched = [] ∧ k.context.Alike r.2.context) act' act

/-- Starts one process at most, and this in the directory and with the variables from before. -/
abbrev Launching (act' : KernelM (σ × List Launch) α) (act : KernelM σ α) : Prop :=
  Traces withLaunched
    (fun k launched _ => launched.length ≤ 1 ∧ ∀ launch ∈ launched, launch.Fits k.context) act' act

theorem idle_pure (a : α) :
    Idle (Pure.pure a : KernelM (σ × List Launch) α) (Pure.pure a : KernelM σ α) :=
  traces_pure fun _ => ⟨rfl, rfl, rfl⟩

theorem Idle.bind {act' : KernelM (σ × List Launch) α} {act : KernelM σ α}
    {next' : α → KernelM (σ × List Launch) β} {next : α → KernelM σ β} (h : Idle act' act)
    (hnext : ∀ a, Idle (next' a) (next a)) : Idle (act' >>= next') (act >>= next) := by
  refine Traces.bind h hnext (fun _ _ _ h => h) ?_
  rintro k _ a k' _ r ⟨rfl, hfirst⟩ ⟨rfl, hlater⟩
  exact ⟨rfl, hlater.directory.trans hfirst.directory, hlater.environment.trans hfirst.environment⟩

theorem idle_gets {f' : Kernel (σ × List Launch) → α} {f : Kernel σ → α}
    (h : ∀ k launched, f' (withLaunched k launched) = f k) : Idle (Act.gets f') (Act.gets f) := by
  refine Silent.traces (fun k launched => ?_) fun k => ⟨rfl, rfl, rfl⟩
  simp only [Act.gets, h]

/-- Nothing that is done on the machine touches the context. -/
theorem idle_onMachine {act' : Act (σ × List Launch) α} {act : Act σ α}
    (h : ∀ launched, Agrees (fun (t : σ × List Launch) s => t = (s, launched)) act' act) :
    Idle (KernelM.onMachine act') (KernelM.onMachine act) := by
  refine Silent.traces (fun k launched => ?_) fun k => ⟨rfl, rfl, rfl⟩
  obtain ⟨hsame, hstate⟩ := h launched (k.machine, launched) k.machine rfl
  have hrun : act' (withLaunched k launched).machine
      = ((act k.machine).1, ((act k.machine).2, launched)) := Prod.ext hsame hstate
  simp only [KernelM.onMachine, Act.zoom, hrun]
  rfl

theorem Idle.launching {act' : KernelM (σ × List Launch) α} {act : KernelM σ α} (h : Idle act' act) :
    Launching act' act :=
  h.mono fun _ _ _ h => by
    rw [h.1]
    exact ⟨Nat.zero_le 1, fun _ h => by cases h⟩

theorem resolve_launching (p : Platform σ) (raw : String) (k : Kernel σ) (launched : List Launch) :
    (k.withLaunched launched).context.resolve p.launching.host raw = k.context.resolve p.host raw :=
  have hhome : p.launching.host.home? = p.host.home? := rfl
  Context.resolve_congr hhome k.context raw

theorem Shellout_run_launching (p : Platform σ) (launch : Launch) (s : σ) (launched : List Launch) :
    Shellout.run p.launching.host launch (s, launched) =
      ((Shellout.run p.host launch s).1, (Shellout.run p.host launch s).2, launched ++ [launch]) := by
  have hrun : p.launching.host.run launch (s, launched)
      = ((p.host.run launch s).1, (p.host.run launch s).2, launched ++ [launch]) := rfl
  simp only [Shellout.run, hrun]
  rcases p.host.run launch s with ⟨_ | _ | _, t⟩ <;> rfl

theorem traces_runIn (p : Platform σ) (f : Context → Launch) :
    Traces withLaunched (fun k launched r => launched = [f k.context] ∧ r.2.context = k.context)
      (runIn p.launching f) (runIn p f) := by
  intro k launched
  refine ⟨[f k.context], ?_, rfl, rfl⟩
  have hrun : Shellout.run p.launching.host (f k.context) (k.withLaunched launched).machine = _ :=
    Shellout_run_launching p (f k.context) k.machine launched
  have hget : KernelM.getContext k = (some k.context, k) := rfl
  have hget' : KernelM.getContext (k.withLaunched launched)
      = (some k.context, k.withLaunched launched) := rfl
  rw [runIn, runIn, bind_run_of_some hget, bind_run_of_some hget']
  simp only [KernelM.onMachine, Act.zoom, hrun]
  rfl

theorem relates_launching (p : Platform σ) :
    KernelM.Relates p.launching p (fun act' act => Idle act' act)
      (fun act' act => Launching act' act) where
  home := rfl
  pure := idle_pure
  bind := Idle.bind
  context := idle_gets fun _ _ => rfl
  interpreter := idle_gets fun _ _ => rfl
  entries raw := idle_gets fun k launched => by
    have hread (dir : Path) : p.launching.host.readDirectory dir (k.withLaunched launched).machine
        = p.host.readDirectory dir k.machine := rfl
    simp only [entries, resolve_launching, hread]
  fileText raw := idle_gets fun k launched => by
    have hread (path : Path) : p.launching.host.readText path (k.withLaunched launched).machine
        = p.host.readText path k.machine := rfl
    simp only [fileText, resolve_launching, hread]
  launch f hf := (traces_runIn p f).mono fun k launched _ h => by
    rw [h.1]
    exact ⟨Nat.le_refl 1, List.forall_mem_singleton.mpr (hf k.context)⟩
  createDirectories _ := idle_onMachine fun launched => by rintro _ s rfl; exact ⟨rfl, rfl⟩
  writeFile _ _ := idle_onMachine fun launched => by rintro _ s rfl; exact ⟨rfl, rfl⟩
  monotonic := idle_onMachine fun launched => by rintro _ s rfl; exact ⟨rfl, rfl⟩
  bindings := idle_onMachine fun launched => by rintro _ s rfl; exact ⟨rfl, rfl⟩
  busy := Idle.launching
  before hact hnext := by
    refine Traces.bind hact hnext (fun _ _ _ h => ⟨by rw [h.1]; exact Nat.zero_le 1, ?_⟩) ?_
    · rw [h.1]
      exact fun _ h => by cases h
    · rintro k _ a k' later r ⟨rfl, hsame⟩ ⟨hlength, hfits⟩
      exact ⟨hlength, fun launch hlaunch => (hfits launch hlaunch).of_alike hsame⟩
  after hact hnext := by
    refine Traces.bind hact hnext (fun _ _ _ h => h) ?_
    rintro k earlier a k' _ r hearlier ⟨rfl, -⟩
    rw [List.append_nil]
    exact hearlier
  runCode code := (idle_onMachine fun launched =>
    (p.evaluator.uniform_zoom launched).runCode code).launching
  runIsolated code file := (idle_onMachine fun launched =>
    (p.evaluator.uniform_zoom launched).capture
      ((p.evaluator.uniform_zoom launched).runIsolated code file)).launching
  measure code := (idle_onMachine fun launched =>
    (p.evaluator.uniform_zoom launched).capture
      ((p.evaluator.uniform_zoom launched).measure code)).launching

/-- Starts no process. -/
abbrev Launchless (act' : KernelM (σ × List Launch) α) (act : KernelM σ α) : Prop :=
  Traces withLaunched (fun _ launched _ => launched = []) act' act

theorem Launchless.launching {act' : KernelM (σ × List Launch) α} {act : KernelM σ α}
    (h : Launchless act' act) : Launching act' act :=
  h.mono fun _ _ _ h => by
    rw [h]
    exact ⟨Nat.zero_le 1, fun _ h => by cases h⟩

theorem Launchless.bind {act' : KernelM (σ × List Launch) α} {act : KernelM σ α}
    {next' : α → KernelM (σ × List Launch) β} {next : α → KernelM σ β} (h : Launchless act' act)
    (hnext : ∀ a, Launchless (next' a) (next a)) : Launchless (act' >>= next') (act >>= next) :=
  Traces.bind h hnext (fun _ _ _ h => h) fun _ _ _ _ _ _ h h' => by rw [h, h', List.append_nil]

theorem launchless_setWorkingDirectory (p : Platform σ) (raw : String) :
    Launchless (setWorkingDirectory p.launching raw) (setWorkingDirectory p raw) := by
  rw [setWorkingDirectory_eq, setWorkingDirectory_eq]
  have hnamed : Launchless (Act.gets (directory? p.launching raw)) (Act.gets (directory? p raw)) := by
    refine (idle_gets fun k launched => ?_).mono fun _ _ _ h => h.1
    have hcanonical (path : Path) :
        p.launching.host.canonicalize path (k.withLaunched launched).machine
          = p.host.canonicalize path k.machine := rfl
    have hdirectory (path : Path) :
        p.launching.host.isDirectory path (k.withLaunched launched).machine
          = p.host.isDirectory path k.machine := rfl
    simp only [directory?, resolve_launching, hcanonical, hdirectory]
  refine hnamed.bind fun target => ?_
  cases target with
  | none => exact traces_pure fun _ => rfl
  | some target =>
    refine Silent.traces (fun k launched => ?_) fun _ => rfl
    have hask : KernelM.onMachine (p.evaluator.setDirectory target) k
        = ((p.evaluator.setDirectory target k.machine).1,
          k.onto (p.evaluator.setDirectory target k.machine).2) := rfl
    have hask' : KernelM.onMachine (p.launching.evaluator.setDirectory target)
          (k.withLaunched launched)
        = ((p.evaluator.setDirectory target k.machine).1,
          (k.onto (p.evaluator.setDirectory target k.machine).2).withLaunched launched) := rfl
    simp only [acceptDirectory, bind_run, hask, hask']
    rcases p.evaluator.setDirectory target k.machine with ⟨_ | _ | _, s⟩ <;> rfl

theorem launchless_changeDirectory (p : Platform σ) (d : Directive) :
    Launchless (Magic.changeDirectory p.launching d) (Magic.changeDirectory p d) := by
  have hhome : p.launching.host.home? = p.host.home? := rfl
  simp only [Magic.changeDirectory, hhome]
  split
  · exact traces_pure fun _ => rfl
  · refine (launchless_setWorkingDirectory p _).bind fun changed => ?_
    cases changed with
    | true => exact Silent.traces (fun _ _ => rfl) fun _ => rfl
    | false => exact traces_pure fun _ => rfl

theorem launchless_setVariable (p : Platform σ) (key value : String) :
    Launchless (setVariable p.launching key value) (setVariable p key value) := by
  refine Silent.traces (fun k launched => ?_) fun _ => rfl
  have hask : KernelM.onMachine (p.evaluator.setVariable key value) k
      = ((p.evaluator.setVariable key value k.machine).1,
        k.onto (p.evaluator.setVariable key value k.machine).2) := rfl
  have hask' : KernelM.onMachine (p.launching.evaluator.setVariable key value)
        (k.withLaunched launched)
      = ((p.evaluator.setVariable key value k.machine).1,
        (k.onto (p.evaluator.setVariable key value k.machine).2).withLaunched launched) := rfl
  simp only [setVariable, bind_run, hask, hask']
  rcases p.evaluator.setVariable key value k.machine with ⟨_ | _ | _, s⟩ <;> rfl

theorem launchless_environment (p : Platform σ) (d : Directive) :
    Launchless (Magic.environment p.launching d) (Magic.environment p d) := by
  unfold Magic.environment
  split
  · dsimp only
    split
    · exact traces_pure fun _ => rfl
    · refine (launchless_setVariable p _ _).bind fun result => ?_
      cases result <;> exact traces_pure fun _ => rfl
  · have hcontext : Launchless (KernelM.getContext (σ := σ × List Launch)) KernelM.getContext :=
      Silent.traces (fun _ _ => rfl) fun _ => rfl
    refine hcontext.bind fun context => ?_
    split <;> exact traces_pure fun _ => rfl

/-- Whatever a cell does, it starts one process at most, and this in the working directory and with the
variables that the kernel has before the cell. -/
theorem launching_execute (p : Platform σ) (cell : String) :
    Launching (execute p.launching (Magic.builtins p.launching) cell)
      (execute p (Magic.builtins p) cell) := by
  have hsilent (f : Context → Context) (hf : ∀ c, c.Alike (f c)) :
      Idle (KernelM.modifyContext (σ := σ × List Launch) f) (KernelM.modifyContext f) :=
    Silent.traces (fun _ _ => rfl) fun k => ⟨rfl, hf k.context⟩
  refine (relates_launching p).execute ?_ (hsilent _ fun _ => ⟨rfl, rfl⟩)
    (hsilent _ fun _ => ⟨rfl, rfl⟩) cell (fun d _ _ => (launchless_changeDirectory p d).launching)
    fun d _ _ => (launchless_environment p d).launching
  exact Silent.traces (fun _ _ => rfl) fun k => ⟨rfl, rfl, rfl⟩

/-! ## Cells that are handed to a process -/

/-- Starts just the process that `f` names, if it names one. -/
abbrev Starts (f : Kernel σ → Option Launch) (act' : KernelM (σ × List Launch) α) (act : KernelM σ α) :
    Prop :=
  Traces withLaunched (fun k launched _ => launched = (f k).toList) act' act

variable {f : Kernel σ → Option Launch}

/-- What is made of the result starts no process. -/
theorem Starts.bind_pure {act' : KernelM (σ × List Launch) α} {act : KernelM σ α}
    {next' : α → KernelM (σ × List Launch) β} {next : α → KernelM σ β} (h : Starts f act' act)
    (hnext : ∀ a, ∃ b, next' a = Pure.pure b ∧ next a = Pure.pure b) :
    Starts f (act' >>= next') (act >>= next) := by
  refine Traces.bind h (Q := fun _ _ later _ => later = []) (fun a => ?_) (fun _ _ _ h => h)
    fun _ _ _ _ _ _ h h' => by rw [h, h', List.append_nil]
  obtain ⟨b, hb', hb⟩ := hnext a
  rw [hb', hb]
  exact traces_pure fun _ => rfl

theorem starts_runShell (p : Platform σ) (command : String) :
    Starts (fun k => some (k.context.shellLaunch command)) (runShell p.launching command)
      (runShell p command) := by
  rw [runShell_eq, runShell_eq]
  exact (traces_runIn p _).mono fun _ _ _ h => h.1

/-- The process that runs the package installer, if there is an interpreter for it. -/
def pipLaunch? (p : Platform σ) (k : Kernel σ) (args : String) : Option Launch :=
  (interpreter p k).toOption.map fun python => Shellout.pipLaunch python args
    k.context.workingDirectory k.context.environment k.context.config.pipTimeout

theorem starts_runPip (p : Platform σ) (args : String) :
    Starts (pipLaunch? p · args) (runPip p.launching args) (runPip p args) := by
  have hfound : Traces withLaunched (fun k launched r => launched = [] ∧ r = (some (interpreter p k), k))
      (Act.gets (interpreter p.launching)) (Act.gets (interpreter p)) :=
    Silent.traces (fun _ _ => rfl) fun _ => ⟨rfl, rfl⟩
  rw [runPip_eq, runPip_eq]
  refine hfound.bind (Q := fun python k later _ => later = (python.toOption.map fun python =>
      Shellout.pipLaunch python args k.context.workingDirectory k.context.environment
        k.context.config.pipTimeout).toList) (fun python => ?_) (fun _ _ _ h => by cases h.2) ?_
  · cases python with
    | error failure => exact traces_pure fun _ => rfl
    | ok python =>
      have hstarts := (traces_runIn p fun c => Shellout.pipLaunch python args c.workingDirectory
        c.environment c.config.pipTimeout).mono fun _ _ _ h => h.1
      refine Starts.bind_pure hstarts fun result => ?_
      cases result <;> exact ⟨_, rfl, rfl⟩
  · rintro k _ python k' later r ⟨rfl, hrun⟩ hlater
    cases hrun
    exact hlater

theorem starts_shellEscape (p : Platform σ) (command : String) :
    Starts (escapeLaunch? p · command) (shellEscape p.launching command) (shellEscape p command) := by
  unfold shellEscape escapeLaunch?
  cases pipArguments? command with
  | some args => exact (starts_runPip p args).bind_pure fun _ => ⟨_, rfl, rfl⟩
  | none =>
    refine (starts_runShell p command).bind_pure fun result => ?_
    cases result <;> exact ⟨_, rfl, rfl⟩

theorem starts_shellScript (p : Platform σ) (d : Directive) :
    Starts (fun k => some (k.context.shellLaunch d.body)) (Magic.shellScript p.launching d)
      (Magic.shellScript p d) := by
  refine (starts_runShell p d.body).bind_pure fun result => ?_
  cases result <;> exact ⟨_, rfl, rfl⟩

/-- A cell starts the process that its route starts. -/
theorem starts_execute {cell : String} (hcode : (trim cell).isEmpty = false)
    (hf : ∀ k, f k.uninterrupted = f k)
    (hroute : Starts f (route p.launching (Magic.builtins p.launching) (trim cell))
      (route p (Magic.builtins p) (trim cell))) :
    Starts f (execute p.launching (Magic.builtins p.launching) cell)
      (execute p (Magic.builtins p) cell) := by
  intro k launched
  obtain ⟨started, hrun', hstarted⟩ := hroute k.uninterrupted launched
  refine ⟨started, ?_, hstarted.trans (by rw [hf])⟩
  have hrun : route p.launching (Magic.builtins p.launching) (trim cell)
      (k.withLaunched launched).uninterrupted = _ := hrun'
  rcases hact : route p (Magic.builtins p) (trim cell) k.uninterrupted with ⟨_ | ⟨o, counts⟩, k'⟩
  · rw [hact] at hrun
    rw [execute_of_route_none hcode hact, execute_of_route_none hcode hrun]
  · rw [hact] at hrun
    rw [execute_of_route hcode hact, execute_of_route hcode hrun]
    have hsame : (counts && (k'.withLaunched (launched ++ started)).context.generation ==
          (k.withLaunched launched).context.generation)
        = (counts && k'.context.generation == k.context.generation) := rfl
    rw [hsame]
    split <;> rfl

/-- A cell with a directive starts the process that its handler starts. -/
theorem starts_execute_of_directive {cell : String} {d : Directive} {handler : Handler σ}
    {handler' : Handler (σ × List Launch)} (hd : Directive.ofCell? (trim cell) = some d)
    (hlookup : (Magic.builtins p).lookup d.scope d.name = some handler)
    (hlookup' : (Magic.builtins p.launching).lookup d.scope d.name = some handler')
    (hf : ∀ k, f k.uninterrupted = f k) (hstarts : Starts f (handler' d) (handler d)) :
    Starts f (execute p.launching (Magic.builtins p.launching) cell)
      (execute p (Magic.builtins p) cell) := by
  obtain ⟨hcode, hroute⟩ := route_of_directive hd hlookup
  obtain ⟨-, hroute'⟩ := route_of_directive hd hlookup'
  refine starts_execute hcode hf ?_
  rw [hroute, hroute']
  exact hstarts.bind_pure fun _ => ⟨_, rfl, rfl⟩

end Kernel

/-- Whether a directive hands its body to the shell. -/
def Source.Directive.isScript (d : Directive) : Bool :=
  d.scope == .cell && (lowercase d.name == "bash" || lowercase d.name == "sh")

/-- Whether a directive hands its arguments to the package installer. -/
def Source.Directive.isInstaller (d : Directive) : Bool :=
  d.scope == .line && lowercase d.name == "pip"

namespace Magic

variable {p : Platform σ}

theorem lookup_builtins_of_isScript {d : Directive} (h : d.isScript = true) :
    (builtins p).lookup d.scope d.name = some (shellScript p) := by
  obtain ⟨hscope, hname⟩ : d.scope = .cell ∧ (lowercase d.name = "bash" ∨ lowercase d.name = "sh") := by
    simpa [Directive.isScript] using h
  rw [hscope]
  rcases hname with hname | hname
  · have hlower : lowercase "bash" = "bash" := by decide +kernel
    exact lookup_builtins_of_name (m := ("bash", shellScript p)) (List.mem_of_getElem? (i := 0) rfl)
      hlower hname
  · have hlower : lowercase "sh" = "sh" := by decide +kernel
    exact lookup_builtins_of_name (m := ("sh", shellScript p)) (List.mem_of_getElem? (i := 1) rfl)
      hlower hname

theorem lookup_builtins_of_isInstaller {d : Directive} (h : d.isInstaller = true) :
    (builtins p).lookup d.scope d.name = some fun d => Kernel.runPip p d.args :=
  have hlower : lowercase "pip" = "pip" := by decide +kernel
  lookup_builtins_of_line (m := ("pip", fun d => Kernel.runPip p d.args))
    (List.mem_of_getElem? (i := 0) rfl) hlower h

end Magic

namespace Kernel

variable {p : Platform σ}

/-- The cell hands its text to a process: as a command, as a script or to the package installer, for
which there may be no interpreter. -/
inductive ShellsOut (p : Platform σ) (k : Kernel σ) (cell : String) : Option Launch → Prop
  | command {command : String} : stripStart? "!" (trim cell) = some command →
    ShellsOut p k cell (escapeLaunch? p k (trim command))
  | script {d : Directive} : Directive.ofCell? (trim cell) = some d → d.isScript = true →
    ShellsOut p k cell (some (k.context.shellLaunch d.body))
  | installer {d : Directive} : Directive.ofCell? (trim cell) = some d → d.isInstaller = true →
    ShellsOut p k cell (pipLaunch? p k d.args)

theorem execute_of_shellsOut {cell : String} {k : Kernel σ} {launch? : Option Launch}
    (h : ShellsOut p k cell launch?) (launched : List Launch) :
    execute p.launching (Magic.builtins p.launching) cell (k.withLaunched launched) =
      ((execute p (Magic.builtins p) cell k).1,
        (execute p (Magic.builtins p) cell k).2.withLaunched (launched ++ launch?.toList)) := by
  suffices hstarts : ∃ f : Kernel σ → Option Launch, f k = launch? ∧
      Starts f (execute p.launching (Magic.builtins p.launching) cell)
        (execute p (Magic.builtins p) cell) by
    obtain ⟨f, hf, hstarts⟩ := hstarts
    obtain ⟨started, hrun, rfl⟩ := hstarts k launched
    rw [hrun, hf]
  cases h with
  | @command command hstrip =>
    obtain ⟨hcode, hroute⟩ := route_of_stripStart? (p := p) (r := Magic.builtins p) hstrip
    obtain ⟨-, hroute'⟩ :=
      route_of_stripStart? (p := p.launching) (r := Magic.builtins p.launching) hstrip
    refine ⟨(escapeLaunch? p · (trim command)), rfl, starts_execute hcode (fun _ => rfl) ?_⟩
    rw [hroute, hroute']
    exact starts_shellEscape p (trim command)
  | @script d hd hscript =>
    exact ⟨fun k => some (k.context.shellLaunch d.body), rfl,
      starts_execute_of_directive hd (Magic.lookup_builtins_of_isScript hscript)
        (Magic.lookup_builtins_of_isScript hscript) (fun _ => rfl) (starts_shellScript p d)⟩
  | @installer d hd hinstaller =>
    exact ⟨(pipLaunch? p · d.args), rfl,
      starts_execute_of_directive hd (Magic.lookup_builtins_of_isInstaller hinstaller)
        (Magic.lookup_builtins_of_isInstaller hinstaller) (fun _ => rfl) (starts_runPip p d.args)⟩

end Kernel

end NotebookKernel
