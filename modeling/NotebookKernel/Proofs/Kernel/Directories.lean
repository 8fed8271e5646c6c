import NotebookKernel.Proofs.Kernel.Accounts
import NotebookKernel.Proofs.Kernel.Routes

/-!
# The working directory

`Kernel.workingDirectory_after` is about runs in which the file system may change between the steps in
any way: the working directory is the one of the last change that the evaluator accepted, and it was the
canonical path of a directory at that moment. It changes only in a step that reports success.
-/

namespace NotebookKernel

open Source Text

open Act hiding pure

variable {σ α : Type}

/-- What the operating system promises of paths: a canonical one is absolute and is its own canonical
form, and what was just created as a directory is one. -/
structure Host.Canonical (h : Host σ) : Prop where
  isAbsolute : ∀ {raw path s}, h.canonicalize raw s = .ok path → path.isAbsolute = true
  canonicalize : ∀ {raw path s}, h.canonicalize raw s = .ok path → h.canonicalize path s = .ok path
  createDirectories : ∀ {dir path s s'}, h.createDirectories dir s = (.ok (), s') →
    h.canonicalize dir s' = .ok path → h.isDirectory path s' = true

/-- In this state the path is the canonical path of a directory. -/
structure Host.Settled (h : Host σ) (dir : Path) (s : σ) : Prop where
  isAbsolute : dir.isAbsolute = true
  canonical : h.canonicalize dir s = .ok dir
  isDirectory : h.isDirectory dir s = true

/-- The directory that the evaluator was asked to work in, if it accepted. -/
def Evaluator.acceptedDirectory? (ev : Evaluator σ) (a : Asked σ) : Option Path :=
  match a.command with
  | .chdir path => if (ev.setDirectory ⟨path⟩ a.before).1.any Except.isOk then some ⟨path⟩ else none
  | _ => none

/-- The last change of the directory that the evaluator accepted is to this one, which was a directory
when the evaluator was asked. -/
def Platform.LastAccepted (p : Platform σ) (dir : Path) (asked : List (Asked σ)) : Prop :=
  ∃ earlier a later, asked = earlier ++ a :: later ∧ p.evaluator.acceptedDirectory? a = some dir ∧
    p.host.Settled dir a.before ∧ ∀ b ∈ later, p.evaluator.acceptedDirectory? b = none

namespace Kernel

variable (p : Platform σ)

/-! ## What the requests do to the directory -/

/-- Either no change of the directory was accepted and it is the same as before, or it is the last one
that was accepted. -/
def Moves (k : Kernel σ) (asked : List (Asked σ)) (k' : Kernel σ) : Prop :=
  (k'.context.workingDirectory = k.context.workingDirectory ∧
    ∀ a ∈ asked, p.evaluator.acceptedDirectory? a = none) ∨
  p.LastAccepted k'.context.workingDirectory asked

variable {p}

theorem lastAccepted_append {k k' : Kernel σ} {earlier later : List (Asked σ)}
    (h : p.LastAccepted k.context.workingDirectory earlier) (h' : Moves p k later k') :
    p.LastAccepted k'.context.workingDirectory (earlier ++ later) := by
  -- The last change is in the later part, unless nothing was accepted there.
  rcases h' with ⟨hsame, hnone⟩ | ⟨first, a, rest, rfl, haccepted, hsettled, hrest⟩
  · obtain ⟨first, a, rest, rfl, haccepted, hsettled, hrest⟩ := h
    rw [← hsame] at haccepted hsettled
    refine ⟨first, a, rest ++ later, by simp, haccepted, hsettled, fun b hb => ?_⟩
    exact (List.mem_append.mp hb).elim (hrest b) (hnone b)
  · exact ⟨earlier ++ first, a, rest, by simp, haccepted, hsettled, hrest⟩

theorem Moves.append {k k' k'' : Kernel σ} {earlier later : List (Asked σ)}
    (h : Moves p k earlier k') (h' : Moves p k' later k'') : Moves p k (earlier ++ later) k'' := by
  rcases h with ⟨hsame, hnone⟩ | hlast
  · rcases h' with ⟨hsame', hnone'⟩ | ⟨first, a, rest, rfl, haccepted, hsettled, hrest⟩
    · refine .inl ⟨hsame'.trans hsame, fun b hb => ?_⟩
      exact (List.mem_append.mp hb).elim (hnone b) (hnone' b)
    · exact .inr ⟨earlier ++ first, a, rest, by simp, haccepted, hsettled, hrest⟩
  · exact .inr (lastAccepted_append hlast h')

theorem Moves.of_ne_chdir {k k' : Kernel σ} {a : Asked σ}
    (hsame : k'.context.workingDirectory = k.context.workingDirectory)
    (hcommand : ∀ path, a.command ≠ .chdir path) : Moves p k [a] k' := by
  refine .inl ⟨hsame, fun b hb => ?_⟩
  rw [List.mem_singleton.mp hb, Evaluator.acceptedDirectory?]
  split
  · next path hpath => exact absurd hpath (hcommand path)
  · rfl

theorem directory?_eq_some_iff {raw : String} {k : Kernel σ} {path : Path} :
    directory? p raw k = some path ↔
      p.host.canonicalize (k.context.resolve p.host raw) k.machine = .ok path ∧
        p.host.isDirectory path k.machine = true := by
  unfold directory?
  rw [Option.filter_eq_some_iff]
  cases p.host.canonicalize (k.context.resolve p.host raw) k.machine <;> simp [Except.toOption]

theorem settled_of_directory? (hhost : p.host.Canonical) {raw : String} {k : Kernel σ} {path : Path}
    (h : directory? p raw k = some path) : p.host.Settled path k.machine := by
  obtain ⟨hcanonical, hdirectory⟩ := directory?_eq_some_iff.mp h
  exact ⟨hhost.isAbsolute hcanonical, hhost.canonicalize hcanonical, hdirectory⟩

theorem moves_directed (hhost : p.host.Canonical) {raw : String} {k : Kernel σ} {path : Path}
    (h : directory? p raw k = some path) :
    Moves p k [⟨.chdir path.text, k.machine⟩] (k.directed p path) := by
  have haccepted : p.evaluator.acceptedDirectory? ⟨.chdir path.text, k.machine⟩
      = if (p.evaluator.setDirectory path k.machine).1.any Except.isOk then some path else none := rfl
  unfold directed
  rcases hrun : p.evaluator.setDirectory path k.machine with ⟨_ | _ | _, s⟩ <;>
    rw [hrun] at haccepted
  · exact .inl ⟨rfl, fun b hb => by rw [List.mem_singleton.mp hb, haccepted]; rfl⟩
  · exact .inl ⟨rfl, fun b hb => by rw [List.mem_singleton.mp hb, haccepted]; rfl⟩
  · exact .inr ⟨[], _, [], rfl, haccepted, settled_of_directory? hhost h, by simp⟩

theorem workingDirectory_assigned (key value : String) (k : Kernel σ) :
    (k.assigned p key value).context.workingDirectory = k.context.workingDirectory := by
  unfold assigned
  split <;> rfl

theorem account_moves (hhost : p.host.Canonical) :
    Account p (fun k asked _ k' => Moves p k asked k') where
  nil _ := .inl ⟨rfl, by simp⟩
  append h h' := h.append h'
  cleanup h h' := h.append h'
  runStatements _ _ := .of_ne_chdir rfl nofun
  evalExpression _ _ := .of_ne_chdir rfl nofun
  isExpression _ _ := .of_ne_chdir rfl nofun
  beginCapture _ := .of_ne_chdir rfl nofun
  endCapture _ := .of_ne_chdir rfl nofun
  takePlot _ := .of_ne_chdir rfl nofun
  runIsolated _ _ _ := .of_ne_chdir rfl nofun
  timeStatements _ _ _ := .of_ne_chdir rfl nofun
  bindings _ := .of_ne_chdir rfl nofun
  reset _ := .of_ne_chdir rfl nofun
  setDirectory := moves_directed hhost
  setVariable key value k := .of_ne_chdir (workingDirectory_assigned key value k) nofun
  run _ _ := .inl ⟨rfl, by simp⟩
  createDirectories _ _ := .inl ⟨rfl, by simp⟩
  writeFile _ _ _ := .inl ⟨rfl, by simp⟩
  monotonic _ := .inl ⟨rfl, by simp⟩
  context _ _ _ := .inl ⟨rfl, by simp⟩

/-! ## Runs on a machine that others use as well -/

/-- A step of a run: the machine changes in some way, and then the kernel does something. -/
structure Turn (σ : Type) where
  meanwhile : σ → σ
  operation : Operation

namespace Turn

/-- The kernel after a turn. -/
def take (p : Platform σ) (turn : Turn σ) (k : Kernel σ) : Kernel σ :=
  turn.operation.next p (k.onto (turn.meanwhile k.machine))

/-- The turn on a machine with a record. -/
def recorded (turn : Turn σ) : Turn (σ × List (Asked σ)) where
  meanwhile s := (turn.meanwhile s.1, s.2)
  operation := turn.operation

/-- The kernel after some turns. -/
def takeAll (p : Platform σ) (turns : List (Turn σ)) (k : Kernel σ) : Kernel σ :=
  turns.foldl (fun k turn => turn.take p k) k

end Turn

/-- Whatever happens to the machine, the directory moves with the record. -/
theorem exists_moves_takeAll (hhost : p.host.Canonical) (turns : List (Turn σ)) (k : Kernel σ)
    (record : List (Asked σ)) :
    ∃ asked, Turn.takeAll p.recorded (turns.map Turn.recorded) (k.withRecord record)
        = (Turn.takeAll p turns k).withRecord (record ++ asked) ∧
      Moves p k asked (Turn.takeAll p turns k) := by
  -- A turn leaves another kernel and a longer record, so both are general.
  induction turns generalizing k record with
  | nil => exact ⟨[], by rw [List.append_nil]; rfl, .inl ⟨rfl, by simp⟩⟩
  | cons turn turns ih =>
    let k' := k.onto (turn.meanwhile k.machine)
    obtain ⟨earlier, hrun, hmoves⟩ :=
      (account_moves hhost).perform turn.operation k' record
    have htake : turn.recorded.take p.recorded (k.withRecord record)
        = (turn.take p k).withRecord (record ++ earlier) := congrArg Prod.snd hrun
    obtain ⟨later, hrun', hmoves'⟩ := ih (turn.take p k) (record ++ earlier)
    refine ⟨earlier ++ later, ?_, Moves.append hmoves hmoves'⟩
    rw [← List.append_assoc]
    exact (congrArg (Turn.takeAll p.recorded (turns.map Turn.recorded)) htake).trans hrun'

/-! ## The first directory -/

theorem silent_prepareDirectory (p : Platform σ) (dir : Path) :
    Silent Prod.mk (prepareDirectory p.recorded.host dir) (prepareDirectory p.host dir) := by
  intro s record
  have hcreate : p.recorded.host.createDirectories dir (s, record)
      = ((p.host.createDirectories dir s).1, (p.host.createDirectories dir s).2, record) := rfl
  simp only [prepareDirectory, hcreate]
  rcases p.host.createDirectories dir s with ⟨_ | _, s⟩ <;> rfl

/-- A directory that was prepared was created, and it is the canonical path. -/
theorem of_prepareDirectory {h : Host σ} {dir path : Path} {s s' : σ}
    (hprepared : prepareDirectory h dir s = (some (.ok path), s')) :
    h.createDirectories dir s = (.ok (), s') ∧ h.canonicalize dir s' = .ok path := by
  unfold prepareDirectory at hprepared
  rcases hcreate : h.createDirectories dir s with ⟨_ | _, t⟩ <;>
    simp only [hcreate, Prod.mk.injEq, Option.some.injEq, reduceCtorEq, false_and] at hprepared
  obtain ⟨hcanonical, rfl⟩ := hprepared
  refine ⟨rfl, ?_⟩
  cases hpath : h.canonicalize dir t with
  | error e =>
    rw [hpath] at hcanonical
    cases hcanonical
  | ok path' =>
    rw [hpath] at hcanonical
    cases hcanonical
    rfl

/-- A kernel is set up in a directory that was just created and that the evaluator accepted. -/
theorem lastAccepted_setUp (hhost : p.host.Canonical) {config : Config} {s s' : σ}
    {context : Context} (hsetup : setUp p config s = (some (.ok context), s')) :
    ∃ first, setUp p.recorded config (s, []) = (some (.ok context), s', first) ∧
      p.LastAccepted context.workingDirectory first := by
  obtain ⟨prepared, s₁, hprepared, hsetup⟩ := exists_of_bind_run hsetup
  cases prepared with
  | error failure => cases hsetup
  | ok dir =>
    obtain ⟨accepted, s₂, haccepted, hsetup⟩ := exists_of_bind_run hsetup
    cases accepted with
    | error failure => cases hsetup
    | ok =>
      cases hsetup
      have hprepared' := silent_prepareDirectory p config.workingDirectory s []
      rw [hprepared] at hprepared'
      have haccepted' : p.recorded.evaluator.setDirectory dir (s₁, [])
          = ((p.evaluator.setDirectory dir s₁).1, (p.evaluator.setDirectory dir s₁).2,
            [⟨.chdir dir.text, s₁⟩]) := rfl
      rw [haccepted] at haccepted'
      obtain ⟨hcreated, hcanonical⟩ := of_prepareDirectory hprepared
      refine ⟨[⟨.chdir dir.text, s₁⟩], ?_, [], _, [], rfl, ?_, ?_, by simp⟩
      · rw [setUp, bind_run_of_some hprepared']
        dsimp only
        rw [bind_run_of_some haccepted']
        rfl
      · have hasked : p.evaluator.acceptedDirectory? ⟨.chdir dir.text, s₁⟩
            = if (p.evaluator.setDirectory dir s₁).1.any Except.isOk then some dir else none := rfl
        rw [hasked, haccepted]
        rfl
      · exact ⟨hhost.isAbsolute hcanonical, hhost.canonicalize hcanonical,
          hhost.createDirectories hcreated hcanonical⟩

/-! ## Cells that do not change the directory -/

/-- The action stays in the directory. -/
def Stays (act : KernelM σ α) : Prop := Leaves (fun k => k.context.workingDirectory) act

theorem stays_onMachine (act : Act σ α) : Stays (KernelM.onMachine act) := fun _ => rfl

theorem stays_setVariable (p : Platform σ) (key value : String) :
    Stays (Kernel.setVariable p key value) := by
  refine Leaves.bind (stays_onMachine _) fun result => ?_
  cases result with
  | error failure => exact leaves_pure _
  | ok => exact fun _ => rfl

/-- Only a cell with the directive for it changes the directory. -/
theorem stays_execute {cell : String}
    (hcell : ∀ d, Directive.ofCell? (trim cell) = some d → d.isChange = false) :
    Stays (execute p (Magic.builtins p) cell) := by
  refine KernelM.spares_execute p (fun dir _ => dir) (fun d hd hchange => ?_) fun d _ _ => ?_
  · rw [hcell d hd] at hchange
    cases hchange
  · exact (KernelM.relates_spares p fun dir _ => dir).environment (stays_setVariable p) d

/-! ## Cells that change the directory -/

/-- What comes of the wish to work in a directory: nothing if the evaluator panics, else the directory
that the evaluator accepted, if the user named a directory and the evaluator accepted it. -/
def granted (p : Platform σ) (raw : String) (k : Kernel σ) : Option (Option Path) :=
  match directory? p raw k with
  | none => some none
  | some path => (p.evaluator.setDirectory path k.machine).1.map fun result =>
    if result.isOk then some path else none

theorem setWorkingDirectory_run (p : Platform σ) (raw : String) (k : Kernel σ) :
    ∃ k', Kernel.setWorkingDirectory p raw k = ((granted p raw k).map Option.isSome, k') ∧
      k'.context.generation = k.context.generation ∧
      k'.context.workingDirectory = (granted p raw k).join.getD k.context.workingDirectory := by
  have hread : Act.gets (directory? p raw) k = (some (directory? p raw k), k) := rfl
  rw [setWorkingDirectory_eq, bind_run_of_some hread, granted]
  cases directory? p raw k with
  | none => exact ⟨k, rfl, rfl, rfl⟩
  | some path =>
    have hask : KernelM.onMachine (p.evaluator.setDirectory path) k
        = ((p.evaluator.setDirectory path k.machine).1,
          k.onto (p.evaluator.setDirectory path k.machine).2) := rfl
    dsimp only
    rw [acceptDirectory, bind_run, hask]
    rcases p.evaluator.setDirectory path k.machine with ⟨_ | _ | _, s⟩ <;>
      exact ⟨_, rfl, rfl, rfl⟩

end Kernel

namespace Magic

/-- The directory that a directive names, which is the home directory if it has no arguments. -/
def target? (p : Platform σ) (d : Directive) : Option String :=
  if d.args.isEmpty then p.host.home?.map (·.text) else some d.args

/-- What a change of the directory says: the directory that was accepted, or that there is none. -/
def changeOutput (target : String) : Option Path → Output
  | some path => .text path.text
  | none => .error ("cd: no such directory: " ++ target)

theorem changeDirectory_run {p : Platform σ} {d : Directive} {target : String}
    (htarget : target? p d = some target) (k : Kernel σ) :
    ∃ k', changeDirectory p d k = ((Kernel.granted p target k).map (changeOutput target), k') ∧
      k'.context.generation = k.context.generation ∧
      k'.context.workingDirectory
        = (Kernel.granted p target k).join.getD k.context.workingDirectory := by
  obtain ⟨k', hrun, hkept, hdirectory⟩ := Kernel.setWorkingDirectory_run p target k
  unfold target? at htarget
  refine ⟨k', ?_, hkept, hdirectory⟩
  simp only [changeDirectory, htarget]
  rw [bind_run, hrun]
  rcases hgranted : Kernel.granted p target k with _ | _ | path
  · rfl
  · rfl
  · rw [hgranted] at hdirectory
    have hshown : printDirectory p d k' = (some (.text k'.context.workingDirectory.text), k') := rfl
    exact hshown.trans (by rw [hdirectory]; rfl)

end Magic

namespace Kernel

/-- What the directive for a change of the directory does. -/
theorem execute_of_isChange {cell : String} {d : Directive} {target : String}
    (hd : Directive.ofCell? (trim cell) = some d) (hchange : d.isChange = true)
    (htarget : Magic.target? p d = some target) (k : Kernel σ) :
    (execute p (Magic.builtins p) cell k).1
        = (granted p target k).map (Magic.changeOutput target) ∧
      (execute p (Magic.builtins p) cell k).2.context.workingDirectory
        = (granted p target k).join.getD k.context.workingDirectory := by
  obtain ⟨hcode, hroute⟩ := route_of_directive hd (Magic.lookup_builtins_of_isChange hchange)
  obtain ⟨k', hrun, hkept, hdirectory⟩ := Magic.changeDirectory_run htarget k.uninterrupted
  have hexecute := execute_of_magic hcode hroute (k := k) (by rw [hrun]; exact hkept)
  have hsame : granted p target k.uninterrupted = granted p target k := rfl
  rw [hrun, hsame] at hexecute
  rw [hexecute]
  rw [hsame] at hdirectory
  rcases hgranted : granted p target k with _ | granted <;> rw [hgranted] at hdirectory <;>
    exact ⟨rfl, hdirectory⟩

/-- Without an argument and a home directory there is no change. -/
theorem execute_of_isChange_none {cell : String} {d : Directive}
    (hd : Directive.ofCell? (trim cell) = some d) (hchange : d.isChange = true)
    (htarget : Magic.target? p d = none) (k : Kernel σ) :
    (execute p (Magic.builtins p) cell k).2.context.workingDirectory
      = k.context.workingDirectory := by
  obtain ⟨hcode, hroute⟩ := route_of_directive hd (Magic.lookup_builtins_of_isChange hchange)
  have hrun : Magic.changeDirectory p d k.uninterrupted
      = (some (.error "cd: could not determine home directory"), k.uninterrupted) := by
    unfold Magic.target? at htarget
    simp only [Magic.changeDirectory, htarget]
    rfl
  rw [execute_of_magic hcode hroute (by rw [hrun]; rfl), hrun]
  rfl

end Kernel

/-- Whether a directive is the one that shows the directory. -/
def Source.Directive.isPrint (d : Directive) : Bool :=
  d.scope == .line && lowercase d.name == "pwd"

theorem Magic.lookup_builtins_of_isPrint {p : Platform σ} {d : Directive} (h : d.isPrint = true) :
    (builtins p).lookup d.scope d.name = some (printDirectory p) :=
  have hlower : lowercase "pwd" = "pwd" := by decide +kernel
  lookup_builtins_of_line (m := ("pwd", printDirectory p)) (List.mem_of_getElem? (i := 2) rfl)
    hlower h

namespace Kernel

/-! ## Steps and runs -/

/-- The step reports success: the method gives `true`, or the cell has the directive for a change and its
output is the directory that the kernel is in afterwards. -/
def Operation.Reports (p : Platform σ) (k : Kernel σ) : Operation → Prop
  | .setWorkingDirectory raw => (Kernel.setWorkingDirectory p raw k).1 = some true
  | .execute cell =>
    let ran := Kernel.execute p (Magic.builtins p) cell k
    (∃ d, Directive.ofCell? (trim cell) = some d ∧ d.isChange = true) ∧
      ran.1 = some (.text ran.2.context.workingDirectory.text)
  | _ => False

/-- A directory was accepted if the directory is another one now. -/
theorem exists_granted_of_ne {raw : String} {k : Kernel σ} {dir : Path}
    (hne : (granted p raw k).join.getD dir ≠ dir) : ∃ path, granted p raw k = some (some path) := by
  rcases hgranted : granted p raw k with _ | _ | path
  · rw [hgranted] at hne
    exact absurd rfl hne
  · rw [hgranted] at hne
    exact absurd rfl hne
  · exact ⟨path, rfl⟩

theorem reports_of_ne {op : Operation} {k : Kernel σ}
    (hne : (op.next p k).context.workingDirectory ≠ k.context.workingDirectory) :
    op.Reports p k := by
  cases op with
  | execute cell =>
    rw [next_execute] at hne
    obtain ⟨d, hd, hchange⟩ : ∃ d, Directive.ofCell? (trim cell) = some d ∧ d.isChange = true := by
      by_contra hnone
      refine hne (stays_execute (fun d hd => ?_) k)
      by_contra hchange
      exact hnone ⟨d, hd, by simpa using hchange⟩
    refine ⟨⟨d, hd, hchange⟩, ?_⟩
    cases htarget : Magic.target? p d with
    | none => exact absurd (execute_of_isChange_none hd hchange htarget k) hne
    | some target =>
      obtain ⟨houtput, hdirectory⟩ := execute_of_isChange hd hchange htarget k
      rw [hdirectory] at hne
      obtain ⟨path, hgranted⟩ := exists_granted_of_ne hne
      rw [houtput, hdirectory, hgranted]
      rfl
  | setWorkingDirectory raw =>
    obtain ⟨k', hrun, -, hdirectory⟩ := setWorkingDirectory_run p raw k
    have hnext : Operation.next p (.setWorkingDirectory raw) k = k' := by
      rcases hgranted : granted p raw k with _ | g <;> rw [hgranted] at hrun
      · exact congrArg Prod.snd (bind_run_of_none hrun _)
      · exact congrArg Prod.snd (bind_run_of_some hrun _)
    rw [hnext, hdirectory] at hne
    suffices hreport : (Kernel.setWorkingDirectory p raw k).1 = some true from hreport
    obtain ⟨path, hgranted⟩ := exists_granted_of_ne hne
    rw [hrun, hgranted]
    rfl
  | reset =>
    have hstays : Stays (Kernel.reset p) := fun _ => rfl
    exact absurd (hstays.bind (fun _ => leaves_pure _) k) hne
  | listVariables =>
    have hstays : Stays (panel p) := Leaves.bind (stays_onMachine _) fun _ => leaves_pure _
    exact absurd (hstays.bind (fun _ => leaves_pure _) k) hne
  | requestInterrupt => exact absurd rfl hne

/-- The directive for the directory shows the one that the kernel is in. -/
theorem execute_of_isPrint {cell : String} {d : Directive}
    (hd : Directive.ofCell? (trim cell) = some d) (hprint : d.isPrint = true) (k : Kernel σ) :
    (execute p (Magic.builtins p) cell k).1 = some (.text k.context.workingDirectory.text) ∧
      (execute p (Magic.builtins p) cell k).2.context.workingDirectory
        = k.context.workingDirectory := by
  obtain ⟨hcode, hroute⟩ := route_of_directive hd (Magic.lookup_builtins_of_isPrint hprint)
  rw [execute_of_magic hcode hroute (k := k) rfl]
  exact ⟨rfl, rfl⟩

/-- Whatever happens on the machine between the steps of a run, and whatever the evaluator refuses: the
working directory is the one of the last change that the evaluator accepted, and it was the canonical
path of a directory then. It changes only in a step that reports so. The directive for a change shows
the new directory, or it leaves the directory and says that there is no such directory, and the directive
for the directory shows it. -/
theorem workingDirectory_after (p : Platform σ) :
    (p.host.Canonical → ∀ {config s s' context},
      setUp p config s = (some (.ok context), s') → ∀ turns : List (Turn σ),
      let k := Turn.takeAll p turns ⟨context, s'⟩
      ∃ first asked, setUp p.recorded config (s, []) = (some (.ok context), s', first) ∧
        Turn.takeAll p.recorded (turns.map Turn.recorded) ⟨context, s', first⟩
          = k.withRecord asked ∧
        p.LastAccepted k.context.workingDirectory asked) ∧
    ∀ k : Kernel σ,
      (∀ op : Operation, (op.next p k).context.workingDirectory ≠ k.context.workingDirectory →
        op.Reports p k) ∧
      ∀ cell d, Directive.ofCell? (trim cell) = some d →
        let ran := execute p (Magic.builtins p) cell k
        (d.isChange = true → ∀ target, Magic.target? p d = some target →
          ran.1 = (granted p target k).map (Magic.changeOutput target) ∧
          ran.2.context.workingDirectory
            = (granted p target k).join.getD k.context.workingDirectory) ∧
        (d.isPrint = true → ran.1 = some (.text k.context.workingDirectory.text) ∧
          ran.2.context.workingDirectory = k.context.workingDirectory) := by
  refine ⟨fun hhost config s s' context hsetup turns => ?_, fun k => ⟨fun op => reports_of_ne, ?_⟩⟩
  · obtain ⟨first, hfirst, hlast⟩ := lastAccepted_setUp hhost hsetup
    obtain ⟨asked, hrun, hmoves⟩ := exists_moves_takeAll hhost turns ⟨context, s'⟩ first
    exact ⟨first, first ++ asked, hfirst, hrun, lastAccepted_append hlast hmoves⟩
  · intro cell d hd
    exact ⟨fun hchange target htarget => execute_of_isChange hd hchange htarget k,
      fun hprint => execute_of_isPrint hd hprint k⟩

/-- A machine with two directories, of which the second one is there while the state is even. -/
def twoDirectories : Host Nat :=
  let isThere (path : Path) (s : Nat) : Bool := path = ⟨"/"⟩ || path = ⟨"/tmp"⟩ && s % 2 = 0
  { Host.bare with
    canonicalize := fun path s => if isThere path s then .ok path else .error .notFound
    isDirectory := isThere
    createDirectories := fun path s =>
      (if isThere path s then .ok () else .error .permissionDenied, s) }

theorem canonical_twoDirectories : twoDirectories.Canonical where
  isAbsolute {raw path s} h := by
    simp only [twoDirectories] at h
    split at h
    · next hthere =>
      cases h
      rcases (Bool.or_eq_true _ _).mp hthere with hroot | hother
      · rw [of_decide_eq_true hroot]
        decide
      · rw [of_decide_eq_true ((Bool.and_eq_true _ _).mp hother).1]
        decide
    · cases h
  canonicalize {raw path s} h := by
    simp only [twoDirectories] at h ⊢
    split at h
    · next hthere =>
      cases h
      exact if_pos hthere
    · cases h
  createDirectories {dir path s s'} _ h := by
    simp only [twoDirectories] at h ⊢
    split at h
    · next hthere =>
      cases h
      exact hthere
    · cases h

/-- The second directory goes away while the kernel is in it. The kernel stays there and cannot change
to it again, but it can leave. -/
theorem workingDirectory_after_lost_directory :
    let p : Platform Nat := ⟨Evaluator.bare, twoDirectories⟩
    let config := Config.standard p.host
    let context : Context := ⟨config, 0, false, ⟨"/"⟩, ∅, 0⟩
    let turns : List (Turn Nat) :=
      [⟨id, .execute "%cd tmp"⟩, ⟨(· + 1), .setWorkingDirectory "/tmp"⟩]
    let k := Turn.takeAll p turns ⟨context, 0⟩
    p.host.Canonical ∧ setUp p config 0 = (some (.ok context), 0) ∧
      (∃ first asked, setUp p.recorded config (0, []) = (some (.ok context), 0, first) ∧
        Turn.takeAll p.recorded (turns.map Turn.recorded) ⟨context, 0, first⟩
          = k.withRecord asked ∧
        p.LastAccepted k.context.workingDirectory asked) ∧
      (Operation.execute "%cd /").Reports p k ∧
      (execute p (Magic.builtins p) "%cd /tmp" k).1
        = some (.error "cd: no such directory: /tmp") ∧
      (execute p (Magic.builtins p) "%pwd" k).1 = some (.text "/tmp") := by
  intro p config context turns k
  have hsetup : setUp p config 0 = (some (.ok context), 0) := rfl
  have hdirectory : k.context.workingDirectory = ⟨"/tmp"⟩ := by decide +kernel
  have hleft : ((Operation.execute "%cd /").next p k).context.workingDirectory
      ≠ k.context.workingDirectory := by decide +kernel
  have hchange : Directive.ofCell? (trim "%cd /tmp") = some ⟨.line, "cd", "/tmp", ""⟩ := by
    decide +kernel
  have hprint : Directive.ofCell? (trim "%pwd") = some ⟨.line, "pwd", "", ""⟩ := by decide +kernel
  have hgranted : granted p "/tmp" k = some none := by decide +kernel
  obtain ⟨hafter, hsteps⟩ := workingDirectory_after p
  have hrefused := (((hsteps k).2 _ _ hchange).1 (by decide +kernel) "/tmp" rfl).1
  have hshown := (((hsteps k).2 _ _ hprint).2 (by decide +kernel)).1
  rw [hgranted] at hrefused
  rw [hdirectory] at hshown
  exact ⟨canonical_twoDirectories, hsetup, hafter canonical_twoDirectories hsetup turns,
    (hsteps k).1 _ hleft, hrefused, hshown⟩

end Kernel

end NotebookKernel
