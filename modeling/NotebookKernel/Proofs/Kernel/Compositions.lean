import Mathlib.Data.List.Forall2
import NotebookKernel.Kernel.Dispatch
import NotebookKernel.Proofs.Kernel.PlainCells

/-!
# Cells as compositions

Every cell is put together from a few kinds of requests to the machine and the evaluator.
`KernelM.Composes` is a pair of relations between the actions of two platforms that carry over from the
requests to what is composed of them: `Quiet` is closed under sequencing, and `Busy` allows the user's
code to be run once among quiet actions. `KernelM.Composes.execute` then relates every cell on one
platform to the same cell on the other, so that a statement on all cells has to be shown for the
requests alone. `KernelM.Relates` leaves out the changes of the directory and of variables, and with them
the cells that make one. A property of one platform is a relation that looks at one side only;
`KernelM.Spares` is the one that the directory and the variables are left as they are.
-/

namespace NotebookKernel

open Source Text

variable {σ τ : Type}

/-- Whether a directive is the one that replaces the namespace. -/
def Source.Directive.isReset (d : Directive) : Bool :=
  d.scope == .line && lowercase d.name == "reset"

/-- Whether a directive is the one that changes the directory. -/
def Source.Directive.isChange (d : Directive) : Bool :=
  d.scope == .line && lowercase d.name == "cd"

/-- Whether a directive is the one for the variables of the environment. -/
def Source.Directive.isEnvironment (d : Directive) : Bool :=
  d.scope == .line && lowercase d.name == "env"

/-- Whether a directive calls the line magic of a name. -/
def Source.Directive.calls (d : Directive) (name : String) : Bool :=
  d.scope == .line && lowercase d.name == name

/-- The process is started in the working directory and with the variables of the context. -/
structure Launch.Fits (launch : Launch) (c : Context) : Prop where
  directory : launch.directory = c.workingDirectory
  environment : launch.environment = c.environment

namespace Magic

variable {p : Platform σ}

/-- A handler that is found is the one of a built-in magic of that name. -/
theorem exists_mem_of_lookup_builtins {scope : Scope} {name : String} {handler : Handler σ}
    (h : (builtins p).lookup scope name = some handler) :
    ∃ m ∈ magics p scope, lowercase m.1 = lowercase name ∧ m.2 = handler := by
  have hfound : ¬∀ m ∈ magics p scope, lowercase m.1 ≠ lowercase name := by
    rw [← lookup_builtins_eq_none_iff, h]
    exact Option.some_ne_none handler
  obtain ⟨m, hm, hname⟩ : ∃ m ∈ magics p scope, lowercase m.1 = lowercase name := by
    simpa only [Classical.not_forall, exists_prop, Classical.not_not] using hfound
  have hlookup := lookup_builtins_of_mem hm
  rw [Registry.lookup, hname, ← Registry.lookup, h] at hlookup
  exact ⟨m, hm, hname, (Option.some.inj hlookup).symm⟩

/-- A directive finds the magic of its name. -/
theorem lookup_builtins_of_name {scope : Scope} {name : String} {m : String × Handler σ}
    (hm : m ∈ magics p scope) (hlower : lowercase m.1 = m.1) (hname : lowercase name = m.1) :
    (builtins p).lookup scope name = some m.2 := by
  have hlookup := lookup_builtins_of_mem hm
  rw [Registry.lookup, hlower] at hlookup
  rw [Registry.lookup, hname, hlookup]

theorem lookup_builtins_of_line {d : Directive} {m : String × Handler σ} (hm : m ∈ lineMagics p)
    (hlower : lowercase m.1 = m.1) (hd : (d.scope == .line && lowercase d.name == m.1) = true) :
    (builtins p).lookup d.scope d.name = some m.2 := by
  obtain ⟨hscope, hname⟩ : d.scope = .line ∧ lowercase d.name = m.1 := by simpa using hd
  rw [hscope]
  exact lookup_builtins_of_name hm hlower hname

theorem lookup_builtins_of_isReset {d : Directive} (h : d.isReset = true) :
    (builtins p).lookup d.scope d.name = some (resetNamespace p) :=
  have hlower : lowercase "reset" = "reset" := by decide +kernel
  lookup_builtins_of_line (m := ("reset", resetNamespace p)) (List.mem_of_getElem? (i := 11) rfl)
    hlower h

theorem lookup_builtins_of_isChange {d : Directive} (h : d.isChange = true) :
    (builtins p).lookup d.scope d.name = some (changeDirectory p) :=
  have hlower : lowercase "cd" = "cd" := by decide +kernel
  lookup_builtins_of_line (m := ("cd", changeDirectory p)) (List.mem_of_getElem? (i := 1) rfl)
    hlower h

theorem lookup_builtins_of_isEnvironment {d : Directive} (h : d.isEnvironment = true) :
    (builtins p).lookup d.scope d.name = some (environment p) :=
  have hlower : lowercase "env" = "env" := by decide +kernel
  lookup_builtins_of_line (m := ("env", environment p)) (List.mem_of_getElem? (i := 12) rfl)
    hlower h

end Magic

/-! ## What is read of the machine -/

theorem Act.get_bind {α β : Type} (f : σ → α) (next : α → Act σ β) :
    (Act.get >>= fun s => next (f s)) = Act.gets f >>= next := rfl

theorem Shellout.ends_run (h : Host σ) (launch : Launch) : Act.Ends (Shellout.run h launch) := by
  intro s
  unfold Shellout.run
  split <;> exact ⟨_, _, rfl⟩

namespace Kernel

/-- The interpreter that the package installer runs in. -/
def interpreter (p : Platform σ) (k : Kernel σ) : Except Failure Path :=
  k.context.config.pythonExecutable p.host k.machine

/-- The path and the entries of a directory that the user named. -/
def entries (p : Platform σ) (raw : String) (k : Kernel σ) :
    Path × Except OsError (List DirectoryEntry) :=
  let dir := k.context.resolve p.host raw
  (dir, p.host.readDirectory dir k.machine)

/-- The path and the text of a file that the user named. -/
def fileText (p : Platform σ) (raw : String) (k : Kernel σ) : Path × Except OsError String :=
  let path := k.context.resolve p.host raw
  (path, p.host.readText path k.machine)

/-- Runs a process that depends on the context. -/
def runIn (p : Platform σ) (f : Context → Launch) : KernelM σ (Except Failure Finished) := do
  let c ← KernelM.getContext
  KernelM.onMachine (Shellout.run p.host (f c))

theorem runShell_eq (p : Platform σ) (command : String) :
    runShell p command = runIn p fun c =>
      Shellout.shellLaunch command c.workingDirectory c.environment c.config.shellTimeout := rfl

theorem runPip_eq (p : Platform σ) (args : String) :
    runPip p args = (do
      match ← Act.gets (interpreter p) with
      | .error failure => pure (.ofFailure failure)
      | .ok python =>
        match ← runIn p fun c =>
            Shellout.pipLaunch python args c.workingDirectory c.environment c.config.pipTimeout with
        | .ok finished => pure (.text finished.combined)
        | .error failure => pure (shelloutFailed failure)) := by
  funext k
  simp only [runPip, Act.bind_run, Act.get, Act.gets, interpreter]
  cases k.context.config.pythonExecutable p.host k.machine <;> rfl

end Kernel

namespace Magic

theorem listDirectory_eq (p : Platform σ) (d : Directive) :
    listDirectory p d = (do
      let listed ← Act.gets (Kernel.entries p (if d.args.isEmpty then "." else d.args))
      match listed.2 with
      | .error e => pure (refused listed.1 e)
      | .ok entries => pure (.text (listing entries))) := by
  rw [← Act.get_bind]
  refine bind_congr fun k => ?_
  cases hread : (Kernel.entries p (if d.args.isEmpty then "." else d.args) k).2
  all_goals
    simp only [Kernel.entries] at hread
    simp only [hread, Kernel.entries]

theorem readArgument_eq (p : Platform σ) (raw : String) :
    readArgument p raw =
      if raw.isEmpty then pure (.error (.error "missing file path"))
      else (do
        let file ← Act.gets (Kernel.fileText p raw)
        match file.2 with
        | .ok text => pure (.ok (file.1, text))
        | .error e => pure (.error (refused file.1 e))) := by
  rw [← Act.get_bind]
  unfold readArgument
  split
  · rfl
  refine bind_congr fun k => ?_
  cases hread : (Kernel.fileText p raw k).2
  all_goals
    simp only [Kernel.fileText] at hread
    simp only [hread, Kernel.fileText]

/-- Creates the directory of a file that is to be written. -/
def makeParent (p : Platform σ) (path : Path) : KernelM σ (Except OsError Unit) :=
  match path.parent? with
  | some dir => KernelM.onMachine (Act.ofUpdate (p.host.createDirectories dir))
  | none => pure (.ok ())

theorem writeFile_eq (p : Platform σ) (d : Directive) :
    writeFile p d =
      if d.args.isEmpty then pure (.error "writefile: missing file path")
      else (do
        let c ← KernelM.getContext
        match ← makeParent p (c.resolve p.host d.args) with
        | .error e => pure (refused (c.resolve p.host d.args) e)
        | .ok () =>
          match ← KernelM.onMachine (Act.ofUpdate
              (p.host.writeFile (c.resolve p.host d.args) (Utf8.encode d.body))) with
          | .error e => pure (refused (c.resolve p.host d.args) e)
          | .ok () => pure (.text ("Writing " ++ d.args))) := by
  unfold writeFile makeParent
  split
  · rfl
  · refine congrArg (KernelM.getContext >>= ·) (funext fun c => ?_)
    dsimp only
    cases (c.resolve p.host d.args).parent? <;> rfl

end Magic

theorem Context.resolve_congr {h : Host σ} {h' : Host τ} (hhome : h.home? = h'.home?) (c : Context)
    (raw : String) : c.resolve h raw = c.resolve h' raw := by
  simp only [Context.resolve, Context.expandHome, hhome]

/-! ## Compositions -/

theorem exists_mem_of_forall₂ {α β : Type} {R : α → β → Prop} {xs : List α} {ys : List β}
    (h : List.Forall₂ R xs ys) {x : α} (hx : x ∈ xs) : ∃ y ∈ ys, R x y := by
  induction h with
  | nil => cases hx
  | cons hR _ ih =>
    cases hx with
    | head => exact ⟨_, List.mem_cons_self, hR⟩
    | tail _ hx =>
      obtain ⟨y, hy, hRy⟩ := ih hx
      exact ⟨y, List.mem_cons_of_mem _ hy, hRy⟩

namespace KernelM

/-- Two relations between the actions of two platforms that carry over from the parts to the whole, where
nothing is said of a change of the directory or of a variable. -/
structure Relates (p : Platform σ) (q : Platform τ)
    (Quiet Busy : {α : Type} → KernelM σ α → KernelM τ α → Prop) : Prop where
  home : p.host.home? = q.host.home?
  pure {α : Type} (a : α) : Quiet (Pure.pure a) (Pure.pure a)
  bind {α β : Type} {act : KernelM σ α} {act' : KernelM τ α} {next : α → KernelM σ β}
    {next' : α → KernelM τ β} :
    Quiet act act' → (∀ a, Quiet (next a) (next' a)) → Quiet (act >>= next) (act' >>= next')
  context : Quiet getContext getContext
  interpreter : Quiet (Act.gets (Kernel.interpreter p)) (Act.gets (Kernel.interpreter q))
  entries (raw : String) : Quiet (Act.gets (Kernel.entries p raw)) (Act.gets (Kernel.entries q raw))
  fileText (raw : String) :
    Quiet (Act.gets (Kernel.fileText p raw)) (Act.gets (Kernel.fileText q raw))
  launch (f : Context → Launch) :
    (∀ c, (f c).Fits c) → Busy (Kernel.runIn p f) (Kernel.runIn q f)
  createDirectories (dir : Path) :
    Quiet (onMachine (Act.ofUpdate (p.host.createDirectories dir)))
      (onMachine (Act.ofUpdate (q.host.createDirectories dir)))
  writeFile (path : Path) (bytes : Bytes) :
    Quiet (onMachine (Act.ofUpdate (p.host.writeFile path bytes)))
      (onMachine (Act.ofUpdate (q.host.writeFile path bytes)))
  monotonic :
    Quiet (onMachine (Act.ofUpdate p.host.monotonic)) (onMachine (Act.ofUpdate q.host.monotonic))
  bindings : Quiet (onMachine p.evaluator.bindings) (onMachine q.evaluator.bindings)
  busy {α : Type} {act : KernelM σ α} {act' : KernelM τ α} : Quiet act act' → Busy act act'
  before {α β : Type} {act : KernelM σ α} {act' : KernelM τ α} {next : α → KernelM σ β}
    {next' : α → KernelM τ β} :
    Quiet act act' → (∀ a, Busy (next a) (next' a)) → Busy (act >>= next) (act' >>= next')
  after {α β : Type} {act : KernelM σ α} {act' : KernelM τ α} {next : α → KernelM σ β}
    {next' : α → KernelM τ β} :
    Busy act act' → (∀ a, Quiet (next a) (next' a)) → Busy (act >>= next) (act' >>= next')
  runCode (code : String) :
    Busy (onMachine (p.evaluator.runCode code)) (onMachine (q.evaluator.runCode code))
  runIsolated (code file : String) :
    Busy (onMachine (p.evaluator.capture (p.evaluator.runIsolated code file)))
      (onMachine (q.evaluator.capture (q.evaluator.runIsolated code file)))
  measure (code : String) :
    Busy (onMachine (p.evaluator.capture (Timing.measure p.evaluator code)))
      (onMachine (q.evaluator.capture (Timing.measure q.evaluator code)))

/-- Two relations between the actions of two platforms that carry over from the parts to the whole. -/
structure Composes (p : Platform σ) (q : Platform τ)
    (Quiet Busy : {α : Type} → KernelM σ α → KernelM τ α → Prop) : Prop
    extends Relates p q Quiet Busy where
  setWorkingDirectory (raw : String) :
    Quiet (Kernel.setWorkingDirectory p raw) (Kernel.setWorkingDirectory q raw)
  setVariable (key value : String) :
    Quiet (Kernel.setVariable p key value) (Kernel.setVariable q key value)

variable {p : Platform σ} {q : Platform τ}
  {Quiet Busy : {α : Type} → KernelM σ α → KernelM τ α → Prop}

namespace Relates

theorem runShell (h : Relates p q Quiet Busy) (command : String) :
    Busy (Kernel.runShell p command) (Kernel.runShell q command) := by
  rw [Kernel.runShell_eq, Kernel.runShell_eq]
  exact h.launch _ fun _ => ⟨rfl, rfl⟩

theorem runPip (h : Relates p q Quiet Busy) (args : String) :
    Busy (Kernel.runPip p args) (Kernel.runPip q args) := by
  rw [Kernel.runPip_eq, Kernel.runPip_eq]
  refine h.before h.interpreter fun python => ?_
  cases python with
  | error failure => exact h.busy (h.pure _)
  | ok python =>
    refine h.after (h.launch _ fun _ => ⟨rfl, rfl⟩) fun result => ?_
    cases result <;> exact h.pure _

theorem executeCode (h : Relates p q Quiet Busy) (code : String) :
    Busy (Kernel.executeCode p code) (Kernel.executeCode q code) :=
  h.after (h.runCode code) fun _ => h.pure _

theorem runPlainCode (h : Relates p q Quiet Busy) (code : String) :
    Busy (Kernel.runCode p code) (Kernel.runCode q code) :=
  h.after (h.executeCode code) fun _ => h.pure _

theorem wallTime (h : Relates p q Quiet Busy) (code : String) :
    Busy (Timing.wallTime p code) (Timing.wallTime q code) :=
  h.before h.monotonic fun _ => h.after (h.runPlainCode code) fun _ =>
    h.bind h.monotonic fun _ => h.pure _

theorem timeit (h : Relates p q Quiet Busy) (code : String) :
    Busy (Timing.timeit p code) (Timing.timeit q code) := by
  unfold Timing.timeit
  split
  · exact h.busy (h.pure _)
  · refine h.after (h.measure code) fun captured => ?_
    cases captured.outcome <;> exact h.pure _

theorem printDirectory (h : Relates p q Quiet Busy) (d : Directive) :
    Quiet (Magic.printDirectory p d) (Magic.printDirectory q d) :=
  h.bind h.context fun _ => h.pure _

theorem listDirectory (h : Relates p q Quiet Busy) (d : Directive) :
    Quiet (Magic.listDirectory p d) (Magic.listDirectory q d) := by
  rw [Magic.listDirectory_eq, Magic.listDirectory_eq]
  refine h.bind (h.entries _) fun listed => ?_
  cases listed.2 <;> exact h.pure _

theorem readArgument (h : Relates p q Quiet Busy) (raw : String) :
    Quiet (Magic.readArgument p raw) (Magic.readArgument q raw) := by
  rw [Magic.readArgument_eq, Magic.readArgument_eq]
  split
  · exact h.pure _
  · refine h.bind (h.fileText raw) fun file => ?_
    cases file.2 <;> exact h.pure _

theorem showFile (h : Relates p q Quiet Busy) (d : Directive) :
    Quiet (Magic.showFile p d) (Magic.showFile q d) := by
  refine h.bind (h.readArgument d.args) fun result => ?_
  cases result <;> exact h.pure _

theorem loadFile (h : Relates p q Quiet Busy) (d : Directive) :
    Quiet (Magic.loadFile p d) (Magic.loadFile q d) := by
  refine h.bind (h.readArgument d.args) fun result => ?_
  cases result <;> exact h.pure _

theorem runFile (h : Relates p q Quiet Busy) (d : Directive) :
    Busy (Magic.runFile p d) (Magic.runFile q d) := by
  refine h.before (h.readArgument d.args) fun result => ?_
  cases result with
  | error output => exact h.busy (h.pure _)
  | ok file =>
    refine h.after (h.runIsolated file.2 file.1.text) fun captured => ?_
    cases captured.outcome <;> exact h.pure _

theorem makeParent (h : Relates p q Quiet Busy) (path : Path) :
    Quiet (Magic.makeParent p path) (Magic.makeParent q path) := by
  unfold Magic.makeParent
  split
  · exact h.createDirectories _
  · exact h.pure _

theorem writeMagic (h : Relates p q Quiet Busy) (d : Directive) :
    Quiet (Magic.writeFile p d) (Magic.writeFile q d) := by
  simp only [Magic.writeFile_eq, Context.resolve_congr h.home]
  split
  · exact h.pure _
  · refine h.bind h.context fun context => h.bind (h.makeParent _) fun made => ?_
    cases made with
    | error e => exact h.pure _
    | ok =>
      refine h.bind (h.writeFile _ _) fun written => ?_
      cases written <;> exact h.pure _

theorem showBindings (h : Relates p q Quiet Busy) (view : List Binding → String) (d : Directive) :
    Quiet (Magic.showBindings p view d) (Magic.showBindings q view d) := by
  refine h.bind h.bindings fun result => ?_
  cases result <;> exact h.pure _

theorem environment (h : Relates p q Quiet Busy) (hset : ∀ key value,
      Quiet (Kernel.setVariable p key value) (Kernel.setVariable q key value)) (d : Directive) :
    Quiet (Magic.environment p d) (Magic.environment q d) := by
  unfold Magic.environment
  split
  · dsimp only
    split
    · exact h.pure _
    · refine h.bind (hset _ _) fun result => ?_
      cases result <;> exact h.pure _
  · refine h.bind h.context fun context => ?_
    split <;> exact h.pure _

theorem plotBackend (h : Relates p q Quiet Busy) (d : Directive) :
    Quiet (Magic.plotBackend d) (Magic.plotBackend d) := by
  unfold Magic.plotBackend
  split <;> exact h.pure _

theorem shellScript (h : Relates p q Quiet Busy) (d : Directive) :
    Busy (Magic.shellScript p d) (Magic.shellScript q d) := by
  refine h.after (h.runShell d.body) fun result => ?_
  cases result <;> exact h.pure _

/-- The line magics of the two platforms are the same, and all are related but the reset and the changes
of the directory and of a variable. -/
theorem lineMagics (h : Relates p q Quiet Busy) :
    List.Forall₂ (fun m m' => m.1 = m'.1 ∧
        (m.1 ≠ "reset" → m.1 ≠ "cd" → m.1 ≠ "env" → ∀ d, Busy (m.2 d) (m'.2 d)))
      (Magic.lineMagics p) (Magic.lineMagics q) :=
  .cons ⟨rfl, fun _ _ _ d => h.runPip d.args⟩ <|
  .cons ⟨rfl, fun _ hname => absurd rfl hname⟩ <|
  .cons ⟨rfl, fun _ _ _ d => h.busy (h.printDirectory d)⟩ <|
  .cons ⟨rfl, fun _ _ _ d => h.busy (h.listDirectory d)⟩ <|
  .cons ⟨rfl, fun _ _ _ d => h.busy (h.showFile d)⟩ <|
  .cons ⟨rfl, fun _ _ _ d => h.busy (h.loadFile d)⟩ <|
  .cons ⟨rfl, fun _ _ _ d => h.runFile d⟩ <|
  .cons ⟨rfl, fun _ _ _ d => h.wallTime d.code⟩ <|
  .cons ⟨rfl, fun _ _ _ d => h.timeit d.code⟩ <|
  .cons ⟨rfl, fun _ _ _ d => h.busy (h.showBindings _ d)⟩ <|
  .cons ⟨rfl, fun _ _ _ d => h.busy (h.showBindings _ d)⟩ <|
  .cons ⟨rfl, fun hname => absurd rfl hname⟩ <|
  .cons ⟨rfl, fun _ _ hname => absurd rfl hname⟩ <|
  .cons ⟨rfl, fun _ _ _ d => h.busy (h.plotBackend d)⟩ .nil

/-- The cell magics of the two platforms are the same, and they are related. -/
theorem cellMagics (h : Relates p q Quiet Busy) :
    List.Forall₂ (fun m m' => m.1 = m'.1 ∧ ∀ d, Busy (m.2 d) (m'.2 d))
      (Magic.cellMagics p) (Magic.cellMagics q) :=
  .cons ⟨rfl, fun d => h.shellScript d⟩ <|
  .cons ⟨rfl, fun d => h.shellScript d⟩ <|
  .cons ⟨rfl, fun d => h.runPlainCode d.body⟩ <|
  .cons ⟨rfl, fun d => h.runPlainCode d.body⟩ <|
  .cons ⟨rfl, fun d => h.runPlainCode d.body⟩ <|
  .cons ⟨rfl, fun d => h.busy (h.writeMagic d)⟩ <|
  .cons ⟨rfl, fun d => h.wallTime d.body⟩ <|
  .cons ⟨rfl, fun d => h.timeit d.body⟩ <|
  .cons ⟨rfl, fun _ => h.busy (h.pure _)⟩ <|
  .cons ⟨rfl, fun _ => h.busy (h.pure _)⟩ <|
  .cons ⟨rfl, fun _ => h.busy (h.pure _)⟩ .nil

theorem shellEscape (h : Relates p q Quiet Busy) (command : String) :
    Busy (Kernel.shellEscape p command) (Kernel.shellEscape q command) := by
  unfold Kernel.shellEscape
  split
  · exact h.after (h.runPip _) fun _ => h.pure _
  · refine h.after (h.runShell command) fun result => ?_
    cases result <;> exact h.pure _

/-- A magic that neither replaces the namespace nor changes the directory or a variable. -/
theorem magic (h : Relates p q Quiet Busy) {d : Directive} {handler : Handler σ}
    (hlookup : (Magic.builtins p).lookup d.scope d.name = some handler)
    (hreset : d.isReset = false) (hchange : d.isChange = false)
    (henvironment : d.isEnvironment = false) :
    ∃ handler', (Magic.builtins q).lookup d.scope d.name = some handler' ∧
      Busy (handler d) (handler' d) := by
  obtain ⟨m, hm, hname, rfl⟩ := Magic.exists_mem_of_lookup_builtins hlookup
  obtain ⟨m', hm', hsame, hbusy⟩ : ∃ m' ∈ Magic.magics q d.scope, m'.1 = m.1 ∧
      Busy (m.2 d) (m'.2 d) := by
    obtain ⟨scope, name, args, body⟩ := d
    cases scope with
    | line =>
      obtain ⟨m', hm', hsame, hbusy⟩ := exists_mem_of_forall₂ h.lineMagics hm
      have hother {known : String} (hlower : lowercase known = known) (hd : lowercase name ≠ known) :
          m.1 ≠ known := fun heq => hd (by rw [← hname, heq, hlower])
      refine ⟨m', hm', hsame.symm, hbusy (hother (by decide +kernel) ?_)
        (hother (by decide +kernel) ?_) (hother (by decide +kernel) ?_) _⟩
      · simpa [Directive.isReset] using hreset
      · simpa [Directive.isChange] using hchange
      · simpa [Directive.isEnvironment] using henvironment
    | cell =>
      obtain ⟨m', hm', hsame, hbusy⟩ := exists_mem_of_forall₂ h.cellMagics hm
      exact ⟨m', hm', hsame.symm, hbusy _⟩
  refine ⟨m'.2, ?_, hbusy⟩
  rw [Registry.lookup, ← hname, ← hsame, ← Registry.lookup, Magic.lookup_builtins_of_mem hm']

theorem resetNamespace (h : Relates p q Quiet Busy)
    (hreset : Quiet (Kernel.reset p) (Kernel.reset q)) (d : Directive) :
    Quiet (Magic.resetNamespace p d) (Magic.resetNamespace q d) := by
  refine h.bind hreset fun result => ?_
  cases result <;> exact h.pure _

theorem route (h : Relates p q Quiet Busy) (hreset : Quiet (Kernel.reset p) (Kernel.reset q))
    (code : String)
    (hchange : ∀ d, Directive.ofCell? code = some d → d.isChange = true →
      Busy (Magic.changeDirectory p d) (Magic.changeDirectory q d))
    (henvironment : ∀ d, Directive.ofCell? code = some d → d.isEnvironment = true →
      Busy (Magic.environment p d) (Magic.environment q d)) :
    Busy (Kernel.route p (Magic.builtins p) code) (Kernel.route q (Magic.builtins q) code) := by
  unfold Kernel.route
  split
  · exact h.shellEscape _
  · cases hd : Directive.ofCell? code with
    | none => exact h.executeCode code
    | some d =>
      simp only [Option.bind_some]
      cases hlookup : (Magic.builtins p).lookup d.scope d.name with
      | none =>
        rw [(Magic.lookup_builtins_eq_none_congr p q d.scope d.name).mp hlookup]
        exact h.executeCode code
      | some handler =>
        by_cases hisReset : d.isReset = true
        · rw [Magic.lookup_builtins_of_isReset hisReset] at hlookup ⊢
          cases hlookup
          exact h.after (h.busy (h.resetNamespace hreset d)) fun _ => h.pure _
        by_cases hisChange : d.isChange = true
        · rw [Magic.lookup_builtins_of_isChange hisChange] at hlookup ⊢
          cases hlookup
          exact h.after (hchange d hd hisChange) fun _ => h.pure _
        by_cases hisEnvironment : d.isEnvironment = true
        · rw [Magic.lookup_builtins_of_isEnvironment hisEnvironment] at hlookup ⊢
          cases hlookup
          exact h.after (henvironment d hd hisEnvironment) fun _ => h.pure _
        · obtain ⟨handler', hlookup', hbusy⟩ :=
            h.magic hlookup (by simpa using hisReset) (by simpa using hisChange) (by simpa using hisEnvironment)
          rw [hlookup']
          exact h.after hbusy fun _ => h.pure _

/-- What relates the requests, a reset, the changes of the directory and of a variable and the two changes
that are made around every cell relates the whole cell. -/
theorem execute (h : Relates p q Quiet Busy) (hreset : Quiet (Kernel.reset p) (Kernel.reset q))
    (hinterrupted : Quiet (modifyContext (σ := σ) fun c => { c with interrupted := false })
      (modifyContext fun c => { c with interrupted := false }))
    (hcount : Quiet
      (modifyContext (σ := σ) fun c => { c with executionCount := c.executionCount + 1 })
      (modifyContext fun c => { c with executionCount := c.executionCount + 1 }))
    (cell : String)
    (hchange : ∀ d, Directive.ofCell? (trim cell) = some d → d.isChange = true →
      Busy (Magic.changeDirectory p d) (Magic.changeDirectory q d))
    (henvironment : ∀ d, Directive.ofCell? (trim cell) = some d → d.isEnvironment = true →
      Busy (Magic.environment p d) (Magic.environment q d)) :
    Busy (Kernel.execute p (Magic.builtins p) cell) (Kernel.execute q (Magic.builtins q) cell) := by
  refine h.before hinterrupted fun _ => ?_
  dsimp only
  split
  · exact h.busy (h.pure _)
  · refine h.before h.context fun before => h.after (h.route hreset _ hchange henvironment) fun result => ?_
    refine h.bind h.context fun after => ?_
    split
    · exact h.bind hcount fun _ => h.pure _
    · exact h.pure _

end Relates

namespace Composes

theorem changeDirectory (h : Composes p q Quiet Busy) (d : Directive) :
    Quiet (Magic.changeDirectory p d) (Magic.changeDirectory q d) := by
  simp only [Magic.changeDirectory, h.home]
  split
  · exact h.pure _
  · refine h.bind (h.setWorkingDirectory _) fun changed => ?_
    cases changed with
    | true => exact h.printDirectory d
    | false => exact h.pure _

theorem environment (h : Composes p q Quiet Busy) (d : Directive) :
    Quiet (Magic.environment p d) (Magic.environment q d) :=
  h.toRelates.environment h.setVariable d

/-- A magic that does not replace the namespace. -/
theorem magic (h : Composes p q Quiet Busy) {d : Directive} {handler : Handler σ}
    (hlookup : (Magic.builtins p).lookup d.scope d.name = some handler)
    (hreset : d.isReset = false) :
    ∃ handler', (Magic.builtins q).lookup d.scope d.name = some handler' ∧
      Busy (handler d) (handler' d) := by
  by_cases hchange : d.isChange = true
  · rw [Magic.lookup_builtins_of_isChange hchange] at hlookup ⊢
    cases hlookup
    exact ⟨_, rfl, h.busy (h.changeDirectory d)⟩
  by_cases henvironment : d.isEnvironment = true
  · rw [Magic.lookup_builtins_of_isEnvironment henvironment] at hlookup ⊢
    cases hlookup
    exact ⟨_, rfl, h.busy (h.environment d)⟩
  · exact h.toRelates.magic hlookup hreset (by simpa using hchange) (by simpa using henvironment)

/-- What relates the requests, a reset and the two changes that are made around every cell relates the
whole cell. -/
theorem execute (h : Composes p q Quiet Busy) (hreset : Quiet (Kernel.reset p) (Kernel.reset q))
    (hinterrupted : Quiet (modifyContext (σ := σ) fun c => { c with interrupted := false })
      (modifyContext fun c => { c with interrupted := false }))
    (hcount : Quiet
      (modifyContext (σ := σ) fun c => { c with executionCount := c.executionCount + 1 })
      (modifyContext fun c => { c with executionCount := c.executionCount + 1 }))
    (cell : String) : Busy (Kernel.execute p (Magic.builtins p) cell)
      (Kernel.execute q (Magic.builtins q) cell) :=
  h.toRelates.execute hreset hinterrupted hcount cell
    (fun d _ _ => h.busy (h.changeDirectory d)) fun d _ _ => h.busy (h.environment d)

end Composes

/-! ## What only few cells change -/

section Leaves

open Act hiding pure bind

variable {α γ : Type} (p) (f : Path → SortedMap String → γ)

/-- The action leaves alone what `f` reads of the directory and of the variables. -/
def Spares (act : KernelM σ α) : Prop :=
  Leaves (fun k => f k.context.workingDirectory k.context.environment) act

theorem spares_onMachine (act : Act σ α) : Spares f (onMachine act) := fun _ => rfl

theorem relates_spares : Relates p p (fun act _ => Spares f act) (fun act _ => Spares f act) where
  home := rfl
  pure _ := leaves_pure _
  bind := Leaves.bind
  context _ := rfl
  interpreter _ := rfl
  entries _ _ := rfl
  fileText _ _ := rfl
  launch _ _ := Leaves.bind (fun _ => rfl) fun _ => spares_onMachine f _
  createDirectories _ := spares_onMachine f _
  writeFile _ _ := spares_onMachine f _
  monotonic := spares_onMachine f _
  bindings := spares_onMachine f _
  busy hact := hact
  before := Leaves.bind
  after := Leaves.bind
  runCode _ := spares_onMachine f _
  runIsolated _ _ := spares_onMachine f _
  measure _ := spares_onMachine f _

/-- Only the two directives change the directory or the variables. -/
theorem spares_execute {cell : String}
    (hchange : ∀ d, Directive.ofCell? (trim cell) = some d → d.isChange = true →
      Spares f (Magic.changeDirectory p d))
    (henvironment : ∀ d, Directive.ofCell? (trim cell) = some d → d.isEnvironment = true →
      Spares f (Magic.environment p d)) :
    Spares f (Kernel.execute p (Magic.builtins p) cell) :=
  (relates_spares p f).execute (fun _ => rfl) (fun _ => rfl) (fun _ => rfl) cell hchange henvironment

end Leaves

end KernelM

end NotebookKernel
