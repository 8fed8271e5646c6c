import NotebookKernel.Proofs.Host.Files
import NotebookKernel.Proofs.Kernel.PlainCells
import NotebookKernel.Worker.Session

/-!
# Losing a worker in the middle of a cell

`Session.loses` tells whether the worker is lost over a command: there is one, but the exchange with it
breaks off. `Session.isError_execute_iff` says when the cell shows it. A worker that is
lost over the begin of the capture or over the code makes the output an error. One that is lost over the
probe, the end of the capture or the plot does not: the next request starts a fresh worker, and
`Session.not_isError_of_lost_probe` is a cell that ends as if nothing had happened.
-/

namespace NotebookKernel

open Act hiding pure

variable {σ : Type}

namespace Session

/-- Whether there is a worker for a command, but the exchange with it breaks off. -/
def loses (ps : Processes σ) (c : Command) (b : Workbench σ) : Bool :=
  match ensureWorker ps b with
  | (some (.ok pid), b) => !(exchange ps pid c b.machine).1.isOk
  | _ => false

theorem exists_fault_of_loses {ps : Processes σ} {c : Command} {b : Workbench σ}
    (h : loses ps c b = true) : ∃ pid b' fault machine, ensureWorker ps b = (some (.ok pid), b') ∧
      exchange ps pid c b'.machine = (.error fault, machine) := by
  unfold loses at h
  split at h
  · next pid b' hworker =>
    rcases hexchange : exchange ps pid c b'.machine with ⟨fault | reply, machine⟩
    · exact ⟨pid, b', fault, machine, hworker, hexchange⟩
    · simp [hexchange, Except.isOk, Except.toBool] at h
  · cases h

/-- A lost worker fails the call, and the session has no worker any more. -/
theorem call_of_loses {ps : Processes σ} {c : Command} {b : Workbench σ}
    (h : loses ps c b = true) :
    ∃ b', call ps c b = (some (.error lost), b') ∧ b'.session.worker = none := by
  obtain ⟨pid, b', fault, machine, hworker, hexchange⟩ := exists_fault_of_loses h
  refine ⟨{ session := { b'.session with worker := none }, machine := giveUp ps pid machine }, ?_, rfl⟩
  rw [call, bind_run_of_some hworker]
  simp only [hexchange]

theorem ask_of_loses {α : Type} {ps : Processes σ} {c : Command} {b : Workbench σ}
    (h : loses ps c b = true) (read : Reply → Option α) :
    (ask ps c read b).1 = some (.error lost) := by
  obtain ⟨b', hcall, -⟩ := call_of_loses h
  rw [ask, bind_run_of_some hcall]
  rfl

theorem ends_ensureWorker (ps : Processes σ) : Ends (ensureWorker ps) := by
  intro b
  unfold ensureWorker
  cases b.session.worker with
  | none => exact ⟨_, _, rfl⟩
  | some pid =>
    dsimp only
    split <;> exact ⟨_, _, rfl⟩

theorem ends_call (ps : Processes σ) (c : Command) : Ends (call ps c) := by
  refine (ends_ensureWorker ps).bind fun worker => ?_
  cases worker with
  | error failure => exact ends_pure _
  | ok pid =>
    intro b
    dsimp only
    split <;> exact ⟨_, _, rfl⟩

theorem ends_ask {α : Type} (ps : Processes σ) (c : Command) (read : Reply → Option α) :
    Ends (ask ps c read) := by
  refine (ends_call ps c).bind fun result => ?_
  cases result with
  | error failure => exact ends_pure _
  | ok reply =>
    dsimp only
    split <;> exact ends_pure _

theorem neverPanics_evaluator (ps : Processes σ) : (evaluator ps).NeverPanics where
  runStatements _ := ends_ask ps _ _
  evalExpression _ := ends_ask ps _ _
  isExpression line := by
    refine (ends_call ps (.probe line)).bind fun result => ?_
    split <;> exact ends_pure _
  beginCapture := ends_ask ps _ _
  endCapture := ends_ask ps _ _
  takePlot := by
    refine (ends_ask ps .plot _).bind fun png => ?_
    split
    · exact ends_pure _
    · exact ends_pure _
    · split <;> exact ends_pure _

/-- The commands on which the outcome of plain code depends. -/
def isOutcome : Command → Bool
  | .captureBegin => true
  | .exec _ => true
  | .eval _ => true
  | _ => false

/-- A loss is taken for a failure just where the outcome depends on the command. -/
theorem refused_iff_of_loses {ps : Processes σ} {a : Asked (Workbench σ)}
    (h : loses ps a.command a.before = true) :
    (evaluator ps).Refused a ↔ isOutcome a.command = true := by
  obtain ⟨command, before⟩ := a
  cases command
  case captureBegin => exact iff_of_true ⟨lost, ask_of_loses h _⟩ rfl
  case exec code => exact iff_of_true ⟨lost, ask_of_loses h _⟩ rfl
  case eval code => exact iff_of_true ⟨lost, ask_of_loses h _⟩ rfl
  all_goals exact iff_of_false id Bool.false_ne_true

/-- Workers that answer what they are going to answer in any case. There is a tape of bytes for each, and
the first one belongs to the worker that runs. -/
def tapes : Processes (List Bytes) where
  spawn _ _ _ s := (.ok 0, s)
  isAlive _ s := (true, s)
  write _ _ s := (.ok (), s)
  read _ count s := ((s.headD []).take count, (s.headD []).drop count :: s.tail)
  kill _ s := s.tail

/-- The frames of some replies. -/
def tape (replies : List Reply) : Bytes :=
  replies.flatMap fun r => (Frame.encode r.toJson).toOption.getD []

/-- The output of a cell with plain code is an error exactly when the begin of the capture or the code
failed. Of the requests over which the worker is lost, just those count among the failures. -/
theorem isError_execute_iff {h : Host σ} {ps : Processes σ} {cell code : String}
    (hcode : Kernel.plainCode? (Workbench.platform h ps) cell = some code)
    (k : Kernel (Workbench σ)) :
    let p := Workbench.platform h ps
    ∃ o k' asked, Kernel.execute p (Magic.builtins p) cell k = (some o, k') ∧
      Kernel.execute p.recorded (Magic.builtins p.recorded) cell (k.withRecord [])
        = (some o, k'.withRecord asked) ∧
      (o.isError = true ↔ ∃ a ∈ asked, (evaluator ps).Refused a) ∧
      ∀ a ∈ asked, loses ps a.command a.before = true →
        ((evaluator ps).Refused a ↔ isOutcome a.command = true) := by
  intro p
  obtain ⟨o, k', hrun⟩ := Kernel.ends_execute_of_plainCode? (p := p) (neverPanics_evaluator ps) hcode k
  obtain ⟨asked, hrecorded, hshows⟩ := Kernel.records_execute_of_plainCode? hcode k []
  rw [hrun] at hrecorded hshows
  exact ⟨o, k', asked, hrun, hrecorded, hshows o rfl, fun a _ hloses => refused_iff_of_loses hloses⟩

theorem isError_execute_iff_on_tapes :
    let p := Workbench.platform Host.bare tapes
    let k : Kernel (Workbench (List Bytes)) := {
      context := {
        config := Config.standard (σ := List Bytes) Host.bare
        executionCount := 0
        interrupted := false
        workingDirectory := ⟨"/"⟩
        environment := ∅
        generation := 0 }
      machine := Workbench.idle [tape [.pong, .done, .done]] }
    Kernel.plainCode? p "x = 1" = some "x = 1" ∧
    ∃ o k' asked, Kernel.execute p (Magic.builtins p) "x = 1" k = (some o, k') ∧
      Kernel.execute p.recorded (Magic.builtins p.recorded) "x = 1" (k.withRecord [])
        = (some o, k'.withRecord asked) ∧
      (o.isError = true ↔ ∃ a ∈ asked, (evaluator tapes).Refused a) ∧
      ∀ a ∈ asked, loses tapes a.command a.before = true →
        ((evaluator tapes).Refused a ↔ isOutcome a.command = true) := by
  intro p k
  have hcode : Kernel.plainCode? p "x = 1" = some "x = 1" := by decide +kernel
  exact ⟨hcode, isError_execute_iff hcode k⟩

/-! ## A loss that does not show -/

/-- A kernel that was just set up on workers with these replies, if it can be. -/
def kernelOnTapes? (workers : List (List Reply)) : Option (Kernel (Workbench (List Bytes))) :=
  let config := { Config.standard (σ := List Bytes) Host.bare with python := some ⟨"python"⟩ }
  match Kernel.setUpWorker Host.bare tapes config (Workbench.idle (workers.map tape)) with
  | (some (.ok context), b) => some ⟨context, b⟩
  | _ => none

/-- The first worker answers the ping, the reset and the change of the directory, and is lost over the
probe. The second one does all that is asked of it, and the cell ends without an error. -/
theorem not_isError_of_lost_probe :
    let p := Workbench.platform Host.bare tapes
    let workers : List (List Reply) := [[.pong, .done, .done],
      [.pong, .done, .done, .done, .streams "" "", .plot none]]
    ∃ k o k' asked, kernelOnTapes? workers = some k ∧ Kernel.plainCode? p "x" = some "x" ∧
      Kernel.execute p (Magic.builtins p) "x" k = (some o, k') ∧
      Kernel.execute p.recorded (Magic.builtins p.recorded) "x" (k.withRecord [])
        = (some o, k'.withRecord asked) ∧
      o.isError = false ∧
      ∃ a ∈ asked, a.command = .probe "x" ∧ loses tapes a.command a.before = true := by
  intro p workers
  have hcode : Kernel.plainCode? p "x" = some "x" := by decide +kernel
  have hchecked : ((kernelOnTapes? workers).any fun k =>
      let r := Kernel.execute p.recorded (Magic.builtins p.recorded) "x" (k.withRecord [])
      r.1.any (fun o => !o.isError) && r.2.machine.2.any fun a =>
        a.command == .probe "x" && loses tapes a.command a.before) = true := by
    decide +kernel
  obtain ⟨k, hk, hchecked⟩ := (Option.any_eq_true _ _).mp hchecked
  obtain ⟨o, k', hrun⟩ := Kernel.ends_execute_of_plainCode? (neverPanics_evaluator tapes) hcode k
  obtain ⟨asked, hrecorded, -⟩ := Kernel.records_execute_of_plainCode? hcode k []
  rw [hrun, List.nil_append] at hrecorded
  simp only [hrecorded, Option.any_some, Bool.and_eq_true, List.any_eq_true, beq_iff_eq] at hchecked
  obtain ⟨hsilent, a, ha, hprobe⟩ := hchecked
  exact ⟨k, o, k', asked, hk, hcode, hrun, hrecorded, by simpa using hsilent, a, ha, hprobe⟩

end Session

end NotebookKernel
