import Mathlib.Algebra.BigOperators.Group.List.Basic
import NotebookKernel.Proofs.Worker.Conversations
import NotebookKernel.Proofs.Worker.Losses

/-!
# Commands that are too long

A command that makes too long a frame is refused before a byte of it is written, so its worker is as it
was. The session gives the worker up all the same: `Session.gives_up_over_oversized` says that all the
worker gets is the command to end, and that the next request needs a new one.
-/

namespace NotebookKernel

open Act hiding pure

variable {σ : Type}

namespace Session

/-! ## A command that is refused -/

section

variable (ps : Processes σ)

theorem exchange_of_oversized {c : Command} (hlong : Frame.maxLength < (Frame.body c.toJson).length)
    (pid : Nat) (s : σ) :
    exchange ps pid c s = (.error (.tooLarge (Frame.body c.toJson).length), s) := by
  have hencode : Frame.encode c.toJson = .error (.tooLarge (Frame.body c.toJson).length) :=
    if_pos hlong
  simp only [exchange, send, hencode]

theorem ensureWorker_of_alive {b : Workbench σ} {pid : Nat} (hworker : b.session.worker = some pid)
    (halive : (ps.isAlive pid b.machine).1 = true) :
    ensureWorker ps b = (some (.ok pid), { b with machine := (ps.isAlive pid b.machine).2 }) := by
  simp only [ensureWorker, hworker, halive, if_true]

theorem call_of_oversized {c : Command} {b : Workbench σ} {pid : Nat}
    (hworker : b.session.worker = some pid) (halive : (ps.isAlive pid b.machine).1 = true)
    (hlong : Frame.maxLength < (Frame.body c.toJson).length) :
    call ps c b = (some (.error lost),
      ⟨{ b.session with worker := none }, giveUp ps pid (ps.isAlive pid b.machine).2⟩) := by
  rw [call_eq, bind_run_of_some (ensureWorker_of_alive ps hworker halive)]
  simp only [askWorker, exchange_of_oversized ps hlong]

/-- The session without a worker, of which it has given this one up. -/
def givenUp (q : Request) (pid : Nat) (b : Workbench σ) : Workbench σ :=
  ⟨{ q.noted b.session with worker := none }, giveUp ps pid (ps.isAlive pid b.machine).2⟩

theorem perform_of_oversized {q : Request} {b : Workbench σ} {pid : Nat}
    (hworker : b.session.worker = some pid) (halive : (ps.isAlive pid b.machine).1 = true)
    (hlong : Frame.maxLength < (Frame.body q.command.toJson).length) :
    q.perform ps b = (q.settle (.error lost), givenUp ps q pid b) := by
  have hnoted : (q.noted b.session).worker = some pid := (q.worker_noted b.session).trans hworker
  have hcall := call_of_oversized ps (b := { b with session := q.noted b.session }) hnoted halive hlong
  rw [perform_eq]
  dsimp only
  rw [hnoted, Option.isNone_some, Bool.and_false, if_neg Bool.false_ne_true]
  exact bind_run_of_some hcall _

/-- A request of which the command is too long costs the worker. Nothing of the command is written, and
the command to end is all that the worker gets before it is killed; the request gets the answer that a
lost worker would give, and whoever needs a worker next starts another one. -/
theorem gives_up_over_oversized (q : Request) (b : Workbench σ) {pid : Nat}
    (hworker : b.session.worker = some pid) (halive : (ps.isAlive pid b.machine).1 = true)
    (hlong : Frame.maxLength < (Frame.body q.command.toJson).length) :
    let b' := givenUp ps q pid b
    q.perform ps b = (q.settle (.error lost), b') ∧
      (∀ log, ∃ frame complete, Frame.encode Command.shutdown.toJson = .ok frame ∧
        q.perform ps.logged (b.withLog log) = (q.settle (.error lost),
          b'.withLog (log ++ [.wrote pid frame complete, .killed pid]))) ∧
      b'.session.worker = none ∧
      (ensureWorker ps b').1 = some (start ps b'.session b'.machine).1 := by
  refine ⟨perform_of_oversized ps hworker halive hlong, fun log => ?_, rfl, rfl⟩
  obtain ⟨traffic, hgiveUp, hrenders⟩ := giveUp_logged ps pid (ps.isAlive pid b.machine).2 log
  cases hrenders with
  | @ended _ frame complete hframe =>
    refine ⟨frame, complete, hframe, ?_⟩
    rw [perform_of_oversized ps.logged (b := b.withLog log) hworker halive hlong]
    exact congrArg (fun machine => (q.settle (.error lost),
      (⟨{ q.noted b.session with worker := none }, machine⟩ : Workbench (σ × List Traffic)))) hgiveUp

end

/-! ## Code that is too long -/

theorem length_le_length_flatMap {α β : Type} {f : α → List β} (h : ∀ a, f a ≠ []) (l : List α) :
    l.length ≤ (l.flatMap f).length := by
  have hsum := List.length_le_sum_of_one_le (l.map fun a => (f a).length)
    (List.forall_mem_map.mpr fun a _ => List.length_pos_iff.mpr (h a))
  rwa [List.length_map, ← List.length_flatMap] at hsum

theorem length_le_stringChars (s : String) : s.toList.length ≤ (Json.stringChars s).length := by
  have hescape (c : Char) : Json.escapeChar c ≠ [] := by
    unfold Json.escapeChar
    repeat' split
    all_goals exact List.cons_ne_nil _ _
  have hchars := length_le_length_flatMap hescape s.toList
  rw [Json.stringChars, List.length_cons, List.length_append]
  omega

/-- The body of a frame has at least as many bytes as its message has characters. -/
theorem length_le_body (message : Json) :
    (Json.compactChars message).length ≤ (Frame.body message).length := by
  have hbytes (c : Char) : String.utf8EncodeChar c ≠ [] := by
    rw [← List.length_pos_iff, String.length_utf8EncodeChar]
    exact c.utf8Size_pos
  rw [Frame.body, Utf8.encode, Json.compact, String.toList_ofList]
  exact length_le_length_flatMap hbytes _

/-- The frame of some code is at least as long as the code. -/
theorem length_le_body_exec (code : String) :
    code.toList.length ≤ (Frame.body (Command.exec code).toJson).length := by
  refine Nat.le_trans ?_ (length_le_body _)
  have hcode := length_le_stringChars code
  simp only [Command.toJson, Command.toJson.op, Json.compactChars, Json.compactFields,
    List.length_cons, List.length_append]
  omega

/-- Code that no frame can hold. -/
def overlongCode : String := String.ofList (List.replicate (Frame.maxLength + 1) 'x')

theorem maxLength_lt_overlongCode :
    Frame.maxLength < (Frame.body (Request.runStatements overlongCode).command.toJson).length := by
  refine Nat.lt_of_lt_of_le ?_ (length_le_body_exec overlongCode)
  rw [overlongCode, String.toList_ofList, List.length_replicate]
  exact Nat.lt_succ_self _

/-- A workbench with a worker that runs, whatever it would answer. -/
def benchOnTapes (workers : List (List Reply)) : Workbench (List Bytes) :=
  let b := Workbench.idle (workers.map tape)
  { b with session := { b.session with worker := some 0 } }

theorem gives_up_over_oversized_code :
    let b := benchOnTapes [[.done], [.pong]]
    let q : Request := .runStatements overlongCode
    b.session.worker = some 0 ∧ (tapes.isAlive 0 b.machine).1 = true ∧
      Frame.maxLength < (Frame.body q.command.toJson).length ∧
      q.perform tapes b = (some (.error lost), givenUp tapes q 0 b) ∧
      (ensureWorker tapes (givenUp tapes q 0 b)).1
        = some (start tapes (givenUp tapes q 0 b).session (givenUp tapes q 0 b).machine).1 := by
  intro b q
  have hworker : b.session.worker = some 0 := rfl
  obtain ⟨hrun, -, -, hstart⟩ :=
    gives_up_over_oversized tapes q b hworker rfl maxLength_lt_overlongCode
  exact ⟨hworker, rfl, maxLength_lt_overlongCode, hrun, hstart⟩

/-- The worker would have done what it was asked, but it is gone. -/
theorem worker_lost_over_oversized_code :
    let b := benchOnTapes [[.done], [.pong]]
    let q : Request := .runStatements overlongCode
    b.session.worker = some 0 ∧ (tapes.isAlive 0 b.machine).1 = true ∧
      Frame.maxLength < (Frame.body q.command.toJson).length ∧
      (q.perform tapes b).1 = some (.error lost) ∧ (q.perform tapes b).2.session.worker = none := by
  intro b q
  have hworker : b.session.worker = some 0 := rfl
  have hrun := perform_of_oversized tapes (q := q) hworker rfl maxLength_lt_overlongCode
  exact ⟨hworker, rfl, maxLength_lt_overlongCode, congrArg Prod.fst hrun,
    congrArg (fun r => r.2.session.worker) hrun⟩

end Session

end NotebookKernel
