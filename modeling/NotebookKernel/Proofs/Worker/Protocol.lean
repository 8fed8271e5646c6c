import NotebookKernel.Proofs.Act
import NotebookKernel.Proofs.Evaluator.Traces
import NotebookKernel.Proofs.Worker.Traffic

/-!
# The protocol between a session and its workers

`Session.Phase` is how far the session is with its worker, and `Session.Phase.step` says which events may
come next: a worker that was started gets a ping, after a pong the reset with the modules to preload, and
once that is done any command; after a fault or an unwanted answer it is given up, and only then the
next one is started. `Session.traces_call` says that calls keep to this, and that the command of a call
is part of one exchange at most.
-/

namespace NotebookKernel

open Act hiding pure

variable {σ : Type}

namespace Session

/-- How far a session is with its worker. -/
inductive Phase where
  /-- There is no worker. -/
  | absent
  | started (pid : Nat)
  /-- The worker has answered the ping. -/
  | greeted (pid : Nat)
  /-- The reset is done. -/
  | ready (pid : Nat)
  /-- The worker has to be given up. -/
  | failed (pid : Nat)
  deriving DecidableEq, Repr

/-- The phase after an event, if the event may come now. -/
def Phase.step (preload : List Preload) : Phase → Event → Option Phase
  | .absent, .spawned pid => some (.started pid)
  | .absent, .notSpawned => some .absent
  | .started pid, .answered pid' .ping reply =>
    if pid' = pid then some (if isPong reply then .greeted pid else .failed pid) else none
  | .started pid, .broke pid' .ping _ => if pid' = pid then some (.failed pid) else none
  | .greeted pid, .answered pid' (.reset preload') reply =>
    if pid' = pid ∧ preload' = preload then
      some (if isDone reply then .ready pid else .failed pid)
    else none
  | .greeted pid, .broke pid' (.reset preload') _ =>
    if pid' = pid ∧ preload' = preload then some (.failed pid) else none
  | .ready pid, .answered pid' _ _ => if pid' = pid then some (.ready pid) else none
  | .ready pid, .broke pid' _ _ => if pid' = pid then some (.failed pid) else none
  | .ready pid, .ended pid' => if pid' = pid then some .absent else none
  | .failed pid, .ended pid' => if pid' = pid then some .absent else none
  | _, _ => none

/-- The phase after some events, if they may come in this order. -/
def Phase.run (preload : List Preload) (phase : Phase) (events : List Event) : Option Phase :=
  events.foldlM (Phase.step preload) phase

/-- The phase between two operations. -/
def Phase.ofWorker : Option Nat → Phase
  | none => .absent
  | some pid => .ready pid

section

variable (preload : List Preload) (pid : Nat) (c : Command)

theorem Phase.run_answered (reply : Reply) :
    Phase.run preload (.ready pid) [.answered pid c reply] = some (.ready pid) := by
  simp [Phase.run, Phase.step]

theorem Phase.run_broke (fault : Frame.Fault) :
    Phase.run preload (.ready pid) [.broke pid c fault, .ended pid] = some .absent := by
  simp [Phase.run, Phase.step]

theorem Phase.run_ended : Phase.run preload (.ready pid) [.ended pid] = some .absent := by
  simp [Phase.run, Phase.step]

end

theorem Phase.run_append {preload : List Preload} {phase next last : Phase}
    {earlier later : List Event} (h : phase.run preload earlier = some next)
    (hlater : next.run preload later = some last) :
    phase.run preload (earlier ++ later) = some last := by
  rw [Phase.run, List.foldlM_append]
  exact (congrArg (· >>= _) h).trans hlater

/-! ## Starting and calling a worker -/

/-- Whether an event is one of those in which a worker is started: no exchange, a ping or the reset. -/
def Event.opens (preload : List Preload) (e : Event) : Prop :=
  ∀ c, e.command? = some c → c = .ping ∨ c = .reset preload

/-- Events in which a worker is found, or none in spite of an attempt. -/
structure Finds (preload : List Preload) (phase : Phase) (events : List Event)
    (found : Except Failure Nat) : Prop where
  opens : ∀ e ∈ events, e.opens preload
  phase : phase.run preload events = some (.ofWorker found.toOption)
  attempt : events = [] → found.isOk = true

section Starting

variable (ps : Processes σ) (pid : Nat) (c : Command) (s : σ) (log : List Traffic)

/-- A demand leads to the next phase, or the worker is given up. -/
theorem demand_logged (wanted : Reply → Bool) (preload : List Preload) (phase next : Phase)
    (hanswered : ∀ reply, phase.step preload (.answered pid c reply)
      = some (if wanted reply then next else .failed pid))
    (hbroke : ∀ fault, phase.step preload (.broke pid c fault) = some (.failed pid)) :
    ∃ events traffic, demand ps.logged pid c wanted (s, log)
        = ((demand ps pid c wanted s).1, (demand ps pid c wanted s).2, log ++ traffic) ∧
      RendersAll events traffic ∧ (∀ e ∈ events, ∀ c', e.command? = some c' → c' = c) ∧
      phase.run preload events
        = some (if (demand ps pid c wanted s).1.isOk then next else .absent) := by
  obtain ⟨first, hexchange, hfirst⟩ := exchange_logged ps pid c s log
  have hended : Phase.step preload (.failed pid) (.ended pid) = some .absent := if_pos rfl
  unfold demand
  rw [hexchange]
  rcases hrun : exchange ps pid c s with ⟨fault | reply, t⟩
  · rw [hrun] at hfirst
    obtain ⟨last, hgiveUp, hlast⟩ := giveUp_logged ps pid t (log ++ first)
    refine ⟨[.broke pid c fault, .ended pid], first ++ last, ?_, .cons hfirst (.single hlast), ?_, ?_⟩
    · simp only [hgiveUp, List.append_assoc]
    · simp [Event.command?]
    · simp [Phase.run, hbroke, hended, Except.isOk, Except.toBool]
  · rw [hrun] at hfirst
    cases hwanted : wanted reply with
    | true =>
      simp only [hwanted, if_true]
      refine ⟨[.answered pid c reply], first, rfl, .single hfirst, ?_, ?_⟩
      · simp [Event.command?]
      · simp [Phase.run, hanswered, hwanted, Except.isOk, Except.toBool]
    | false =>
      obtain ⟨last, hgiveUp, hlast⟩ := giveUp_logged ps pid t (log ++ first)
      simp only [hwanted, Bool.false_eq_true, if_false, hgiveUp, List.append_assoc]
      refine ⟨[.answered pid c reply, .ended pid], first ++ last, rfl,
        .cons hfirst (.single hlast), ?_, ?_⟩
      · simp [Event.command?]
      · simp [Phase.run, hanswered, hwanted, hended, Except.isOk, Except.toBool]

/-- A start goes through the ping and the reset, or leaves no worker behind. -/
theorem start_logged (w : Session) : ∃ events traffic,
    start ps.logged w (s, log) = ((start ps w s).1, (start ps w s).2, log ++ traffic) ∧
    RendersAll events traffic ∧ Finds w.preload .absent events (start ps w s).1 := by
  unfold start
  rcases hspawn : ps.spawn w.python w.directory w.environment s with ⟨e | pid, t⟩
  · have hlogged : ps.logged.spawn w.python w.directory w.environment (s, log)
        = (.error e, t, log ++ [.notSpawned]) := by simp only [Processes.logged, hspawn]
    rw [hlogged]
    exact ⟨[.notSpawned], [.notSpawned], rfl, .single .notSpawned,
      by simp [Event.opens, Event.command?], rfl, by simp⟩
  have hlogged : ps.logged.spawn w.python w.directory w.environment (s, log)
      = (.ok pid, t, log ++ [.spawned pid]) := by simp only [Processes.logged, hspawn]
  have hspawned : Phase.run w.preload .absent [.spawned pid] = some (.started pid) := rfl
  obtain ⟨greeting, first, hping, hfirst, hpings, hgreeted⟩ :=
    demand_logged ps pid .ping t (log ++ [.spawned pid]) isPong w.preload (.started pid)
      (.greeted pid) (fun _ => if_pos rfl) fun _ => if_pos rfl
  have hrendered : RendersAll ([.spawned pid] ++ greeting) ([.spawned pid] ++ first) :=
    (RendersAll.single .spawned).append hfirst
  have hopens : ∀ e ∈ [.spawned pid] ++ greeting, e.opens w.preload := by
    intro e he c' hc
    rcases List.mem_append.mp he with he | he
    · cases List.mem_singleton.mp he
      cases hc
    · exact .inl (hpings e he c' hc)
  have hphase := Phase.run_append hspawned hgreeted
  rw [hlogged]
  dsimp only
  rw [hping]
  rcases hasked : demand ps pid .ping isPong t with ⟨failure | _, u⟩
  · rw [hasked] at hphase
    exact ⟨_, _, by simp only [List.append_assoc], hrendered, hopens, hphase, by simp⟩
  · rw [hasked] at hphase
    obtain ⟨rest, second, hreset, hsecond, hresets, hready⟩ :=
      demand_logged ps pid (.reset w.preload) u (log ++ [.spawned pid] ++ first) isDone w.preload
        (.greeted pid) (.ready pid) (fun _ => if_pos ⟨rfl, rfl⟩) fun _ => if_pos ⟨rfl, rfl⟩
    dsimp only
    rw [hreset]
    refine ⟨_, _, ?_, hrendered.append hsecond, ?_, ?_, by simp⟩
    · rcases demand ps pid (.reset w.preload) isDone u with ⟨failure | _, v⟩ <;>
        simp only [List.append_assoc]
    · intro e he c' hc
      rcases List.mem_append.mp he with he | he
      · exact hopens e he c' hc
      · exact .inr (hresets e he c' hc)
    · refine (Phase.run_append hphase hready).trans ?_
      rcases demand ps pid (.reset w.preload) isDone u with ⟨failure | _, v⟩ <;> rfl

end Starting

/-! ## Calls -/

/-- Events with their traffic, and the session before and after them. -/
structure Moves (w : Session) (events : List Event) (traffic : List Traffic) (w' : Session) :
    Prop where
  renders : RendersAll events traffic
  phase : Phase.run w.preload (.ofWorker w.worker) events = some (.ofWorker w'.worker)
  preload : w'.preload = w.preload

theorem Moves.refl (w : Session) : Moves w [] [] w := ⟨.nil, rfl, rfl⟩

theorem Moves.trans {w w' w'' : Session} {earlier later : List Event} {first rest : List Traffic}
    (h : Moves w earlier first w') (hlater : Moves w' later rest w'') :
    Moves w (earlier ++ later) (first ++ rest) w'' where
  renders := h.renders.append hlater.renders
  phase := Phase.run_append h.phase (h.preload ▸ hlater.phase)
  preload := hlater.preload.trans h.preload

/-- What the reply to a command is to the one who gave it. -/
def answerOf : Reply → Except Failure Reply
  | .raised e => .error (.raised e)
  | .failed message => .error (.worker message)
  | reply => .ok reply

/-- What may come of a command, and the answer that it gets: it is never sent if no worker was found.
Else it is sent to this worker, and the reply to it is the answer, or this breaks off and the worker is
given up. -/
inductive Outcome (c : Command) : Except Failure Nat → List Event → Except Failure Reply → Prop
  | unsent (failure : Failure) : Outcome c (.error failure) [] (.error failure)
  | answered (pid : Nat) (reply : Reply) :
    Outcome c (.ok pid) [.answered pid c reply] (answerOf reply)
  | broke (pid : Nat) (fault : Frame.Fault) :
    Outcome c (.ok pid) [.broke pid c fault, .ended pid] (.error lost)

end Session

/-- A workbench with a log of the traffic of its machine. -/
def Workbench.withLog (b : Workbench σ) (log : List Traffic) : Workbench (σ × List Traffic) :=
  ⟨b.session, b.machine, log⟩

namespace Session

variable (ps : Processes σ)

/-- A worker is kept, or the one that has ended is given up and another one started. -/
theorem traces_ensureWorker : Traces Workbench.withLog (fun b traffic r =>
    ∃ events found, Moves b.session events traffic r.2.session ∧
      Finds b.session.preload (.ofWorker b.session.worker) events found ∧ r.1 = some found ∧
      found.toOption = r.2.session.worker)
    (ensureWorker ps.logged) (ensureWorker ps) := by
  rintro ⟨w, s⟩ log
  unfold ensureWorker
  cases hworker : w.worker with
  | none =>
    obtain ⟨events, traffic, hstart, hrenders, hfinds⟩ := start_logged ps s log w
    simp only [Workbench.withLog, hworker, hstart]
    refine ⟨traffic, rfl, events, _, ⟨hrenders, ?_, rfl⟩, hfinds, rfl, rfl⟩
    rw [hworker]
    exact hfinds.phase
  | some pid =>
    have halive (t : List Traffic) : ps.logged.isAlive pid (s, t)
        = ((ps.isAlive pid s).1, (ps.isAlive pid s).2, t) := rfl
    simp only [Workbench.withLog, hworker, halive]
    cases (ps.isAlive pid s).1 with
    | true =>
      refine ⟨[], by simp, [], .ok pid, .refl w, ⟨by simp, rfl, fun _ => rfl⟩, rfl, ?_⟩
      exact hworker.symm
    | false =>
      obtain ⟨last, hgiveUp, hlast⟩ := giveUp_logged ps pid (ps.isAlive pid s).2 log
      obtain ⟨events, traffic, hstart, hrenders, hfinds⟩ :=
        start_logged ps (giveUp ps pid (ps.isAlive pid s).2) (log ++ last) { w with worker := none }
      have hphase := Phase.run_append (Phase.run_ended w.preload pid) hfinds.phase
      simp only [Bool.false_eq_true, if_false, hgiveUp, hstart]
      refine ⟨last ++ traffic, by rw [List.append_assoc], .ended pid :: events, _,
        ⟨.cons hlast hrenders, ?_, rfl⟩, ⟨?_, hphase, by simp⟩, rfl, rfl⟩
      · rw [hworker]
        exact hphase
      · intro e he c hc
        rcases List.mem_cons.mp he with rfl | he
        · cases hc
        · exact hfinds.opens e he c hc

/-- The exchange of a call. -/
def askWorker (pid : Nat) (c : Command) : Act (Workbench σ) (Except Failure Reply) := fun b =>
  match exchange ps pid c b.machine with
  | (.ok reply, machine) => (some (answerOf reply), { b with machine })
  | (.error _, machine) =>
    (some (.error lost),
      { session := { b.session with worker := none }, machine := giveUp ps pid machine })

theorem call_eq (c : Command) : call ps c = ensureWorker ps >>= fun result =>
    match result with
    | .error failure => Pure.pure (.error failure)
    | .ok pid => askWorker ps pid c := by
  unfold call
  congr 1
  funext result
  cases result with
  | error failure => rfl
  | ok pid =>
    funext b
    dsimp only [askWorker]
    rcases exchange ps pid c b.machine with ⟨fault | reply, s⟩
    · rfl
    · cases reply <;> rfl

theorem traces_askWorker (pid : Nat) (c : Command) :
    Traces Workbench.withLog (fun b traffic r => b.session.worker = some pid →
      ∃ main answer, Moves b.session main traffic r.2.session ∧ Outcome c (.ok pid) main answer ∧
        r.1 = some answer)
      (askWorker ps.logged pid c) (askWorker ps pid c) := by
  rintro ⟨w, s⟩ log
  obtain ⟨first, hexchange, hfirst⟩ := exchange_logged ps pid c s log
  simp only [askWorker, Workbench.withLog, hexchange]
  rcases hrun : exchange ps pid c s with ⟨fault | reply, t⟩ <;> rw [hrun] at hfirst
  · obtain ⟨last, hgiveUp, hlast⟩ := giveUp_logged ps pid t (log ++ first)
    refine ⟨first ++ last, by simp only [hgiveUp, List.append_assoc], fun hworker => ?_⟩
    refine ⟨[.broke pid c fault, .ended pid], _, ⟨.cons hfirst (.single hlast), ?_, rfl⟩,
      .broke pid fault, rfl⟩
    rw [hworker]
    exact Phase.run_broke w.preload pid c fault
  · refine ⟨first, rfl, fun hworker => ?_⟩
    refine ⟨[.answered pid c reply], _, ⟨.single hfirst, ?_, rfl⟩, .answered pid reply, rfl⟩
    rw [hworker]
    exact Phase.run_answered w.preload pid c reply

/-- A call makes sure that there is a worker, and then there is one exchange at most. -/
theorem traces_call (c : Command) : Traces Workbench.withLog (fun b traffic r =>
    ∃ opening main found answer, Moves b.session (opening ++ main) traffic r.2.session ∧
      Finds b.session.preload (.ofWorker b.session.worker) opening found ∧
      Outcome c found main answer ∧ r.1 = some answer)
    (call ps.logged c) (call ps c) := by
  rw [call_eq, call_eq]
  refine (traces_ensureWorker ps).bind (Q := fun found b traffic r =>
    found.toOption = b.session.worker → ∃ main answer,
      Moves b.session main traffic r.2.session ∧ Outcome c found main answer ∧ r.1 = some answer)
    (fun found => ?_) ?_ ?_
  · cases found with
    | error failure =>
      exact traces_pure fun b _ => ⟨[], _, .refl b.session, .unsent failure, rfl⟩
    | ok pid => exact (traces_askWorker ps pid c).mono fun _ _ _ h hworker => h hworker.symm
  · rintro b events t ⟨_, _, _, _, h, _⟩
    cases h
  · rintro b first found t rest r ⟨opening, _, hopening, hfinds, ⟨⟩, hworker⟩ hmain
    obtain ⟨main, answer, hmain, houtcome, hanswer⟩ := hmain hworker
    exact ⟨opening, main, found, answer, hopening.trans hmain, hfinds, houtcome, hanswer⟩

end Session

end NotebookKernel
