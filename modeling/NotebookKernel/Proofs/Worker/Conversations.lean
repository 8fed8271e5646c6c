import NotebookKernel.Proofs.Worker.Protocol

/-!
# Conversations with worker processes

A `Session.Request` is what an evaluator is asked, with the command in which the worker is asked for it
and what is made of the answer. `Session.conversation_performAll` says that any operations, one after the
other, make a conversation by the rules of `Session.Phase`, in which the command of each request is sent
once at most and the reply that is read next is the answer to it.
-/

namespace NotebookKernel

open Act hiding pure

variable {σ α : Type}

namespace Session

/-! ## Requests -/

/-- What the evaluator is asked. -/
inductive Request where
  | runStatements (code : String)
  | evalExpression (code : String)
  | isExpression (line : String)
  | beginCapture
  | endCapture
  | takePlot
  | runIsolated (code file : String)
  | timeStatements (code : String) (loops : Nat)
  | bindings
  | reset (preload : List Preload)
  | setDirectory (path : Path)
  | setVariable (key value : String)

/-- The answer of a worker, when the reply is read by `read`. -/
def readAs (read : Reply → Option α) : Except Failure Reply → Except Failure α
  | .error failure => .error failure
  | .ok reply =>
    match read reply with
    | some a => .ok a
    | none => .error (unexpected reply)

/-- Whether the worker has done what it was told. -/
def acknowledged : Except Failure Reply → Except Failure Unit :=
  readAs fun reply => if isDone reply then some () else none

namespace Request

def Result : Request → Type
  | .runStatements _ => Except Failure Unit
  | .evalExpression _ => Except Failure (Option String)
  | .isExpression _ => Bool
  | .beginCapture => Except Failure Unit
  | .endCapture => Except Failure Streams
  | .takePlot => Except Failure (Option Bytes)
  | .runIsolated .. => Except Failure Unit
  | .timeStatements .. => Except Failure Duration
  | .bindings => Except Failure (List Binding)
  | .reset _ => Except Failure Unit
  | .setDirectory _ => Except Failure Unit
  | .setVariable .. => Except Failure Unit

/-- The request to the evaluator. -/
def perform (ps : Processes σ) : (q : Request) → Act (Workbench σ) q.Result
  | .runStatements code => (evaluator ps).runStatements code
  | .evalExpression code => (evaluator ps).evalExpression code
  | .isExpression line => (evaluator ps).isExpression line
  | .beginCapture => (evaluator ps).beginCapture
  | .endCapture => (evaluator ps).endCapture
  | .takePlot => (evaluator ps).takePlot
  | .runIsolated code file => (evaluator ps).runIsolated code file
  | .timeStatements code loops => (evaluator ps).timeStatements code loops
  | .bindings => (evaluator ps).bindings
  | .reset preload => (evaluator ps).reset preload
  | .setDirectory path => (evaluator ps).setDirectory path
  | .setVariable key value => (evaluator ps).setVariable key value

/-- The command in which the worker is asked for it. -/
def command : Request → Command
  | .runStatements code => .exec code
  | .evalExpression code => .eval code
  | .isExpression line => .probe line
  | .beginCapture => .captureBegin
  | .endCapture => .captureEnd
  | .takePlot => .plot
  | .runIsolated code file => .runFile code file
  | .timeStatements code loops => .time code (UInt64.ofNat loops)
  | .bindings => .bindings
  | .reset preload => .reset preload
  | .setDirectory path => .chdir path.text
  | .setVariable key value => .setenv key value

/-- The modules to preload from now on. -/
def preload : Request → List Preload → List Preload
  | .reset preload, _ => preload
  | _, current => current

/-- The session with what it has to remember of the request. -/
def noted : Request → Session → Session
  | .reset preload, w => { w with preload }
  | .setDirectory path, w => { w with directory := path }
  | .setVariable key value, w => { w with environment := w.environment.insert key value }
  | _, w => w

/-- Whether no worker is started for the request. -/
def waits : Request → Bool
  | .setDirectory _ => true
  | .setVariable .. => true
  | _ => false

/-- What is made of the answer. A time that is too long for a duration is a panic. -/
def settle : (q : Request) → Except Failure Reply → Option q.Result
  | .runStatements _, answer => some (acknowledged answer)
  | .evalExpression _, answer => some (readAs (fun
    | .value representation => some representation
    | _ => none) answer)
  | .isExpression _, answer => some (match answer with
    | .ok (.probe expression) => expression
    | _ => false)
  | .beginCapture, answer => some (acknowledged answer)
  | .endCapture, answer => some (readAs (fun
    | .streams stdout stderr => some ⟨stdout, stderr⟩
    | _ => none) answer)
  | .takePlot, answer => some (match readAs (fun
      | .plot png => some png
      | _ => none) answer with
    | .error failure => .error failure
    | .ok none => .ok none
    | .ok (some image) =>
      match Base64.decode? image with
      | some bytes => .ok (some bytes)
      | none => .error (.serialization "invalid plot data"))
  | .runIsolated .., answer => some (acknowledged answer)
  | .timeStatements .., answer =>
    match readAs (fun
      | .timing seconds => some seconds
      | _ => none) answer with
    | .error failure => some (.error failure)
    | .ok seconds => (Duration.ofSecondsFloat? seconds).map .ok
  | .bindings, answer => some (readAs (fun
    | .bindings all => some all
    | _ => none) answer)
  | .reset _, answer => some (acknowledged answer)
  | .setDirectory _, answer => some (acknowledged answer)
  | .setVariable .., answer => some (acknowledged answer)

theorem preload_noted (q : Request) (w : Session) : (q.noted w).preload = q.preload w.preload := by
  cases q <;> rfl

theorem worker_noted (q : Request) (w : Session) : (q.noted w).worker = w.worker := by
  cases q <;> rfl

end Request

/-- Asking is a call, and then the answer is read. -/
theorem ask_eq (ps : Processes σ) (c : Command) (read : Reply → Option α) :
    ask ps c read = call ps c >>= fun answer => Pure.pure (readAs read answer) := by
  unfold ask
  congr 1
  funext answer
  cases answer with
  | error failure => rfl
  | ok reply =>
    dsimp only [readAs]
    cases read reply <;> rfl

/-- What a request comes to once it is noted. -/
def Request.ask (ps : Processes σ) (q : Request) : Act (Workbench σ) q.Result :=
  call ps q.command >>= fun answer b => (q.settle answer, b)

theorem orderIfStarted_eq (ps : Processes σ) (c : Command) (b : Workbench σ) :
    orderIfStarted ps c b = if b.session.worker.isNone then (some (.ok ()), b)
      else (call ps c >>= fun answer => Pure.pure (acknowledged answer)) b := by
  have hask : order ps c = call ps c >>= fun answer => Pure.pure (acknowledged answer) :=
    ask_eq ps c _
  rw [orderIfStarted, bind_run, hask]
  dsimp only [Act.get]
  split <;> rfl

theorem takePlot_eq (ps : Processes σ) : takePlot ps = Request.takePlot.ask ps := by
  unfold takePlot
  rw [ask_eq, bind_assoc]
  refine bind_congr fun answer => ?_
  rw [pure_bind]
  funext b
  dsimp only [Request.settle]
  rcases readAs _ answer with failure | _ | image
  · rfl
  · rfl
  · dsimp only
    cases Base64.decode? image <;> rfl

theorem timeStatements_eq (ps : Processes σ) (code : String) (loops : Nat) :
    timeStatements ps code loops = (Request.timeStatements code loops).ask ps := by
  unfold timeStatements
  rw [ask_eq, bind_assoc]
  refine bind_congr fun answer => ?_
  rw [pure_bind]
  funext b
  dsimp only [Request.settle]
  rcases readAs _ answer with failure | seconds
  · rfl
  · dsimp only
    cases Duration.ofSecondsFloat? seconds <;> rfl

theorem isExpression_eq (ps : Processes σ) (line : String) :
    (evaluator ps).isExpression line = (Request.isExpression line).ask ps := by
  refine bind_congr fun answer => ?_
  funext b
  rcases answer with failure | reply
  · rfl
  · cases reply <;> rfl

/-- A request is noted, and then it is a call, unless it waits for a worker. -/
theorem perform_eq (ps : Processes σ) (q : Request) (b : Workbench σ) :
    q.perform ps b =
      let b := { b with session := q.noted b.session }
      if q.waits && b.session.worker.isNone then (q.settle (.ok .done), b) else q.ask ps b := by
  cases q with
  | runStatements code => exact congrFun (ask_eq ps _ _) b
  | evalExpression code => exact congrFun (ask_eq ps _ _) b
  | isExpression line => exact congrFun (isExpression_eq ps line) b
  | beginCapture => exact congrFun (ask_eq ps _ _) b
  | endCapture => exact congrFun (ask_eq ps _ _) b
  | takePlot => exact congrFun (takePlot_eq ps) b
  | runIsolated code file => exact congrFun (ask_eq ps _ _) b
  | timeStatements code loops => exact congrFun (timeStatements_eq ps code loops) b
  | bindings => exact congrFun (ask_eq ps _ _) b
  | reset preload =>
    exact congrFun (ask_eq ps _ _) { b with session := { b.session with preload } }
  | setDirectory path =>
    exact orderIfStarted_eq ps _ { b with session := { b.session with directory := path } }
  | setVariable key value =>
    exact orderIfStarted_eq ps _ { b with session :=
      { b.session with environment := b.session.environment.insert key value } }

/-! ## Rounds -/

/-- A request to the evaluator, or the start of its worker before it is needed. -/
inductive Operation where
  | start
  | request (q : Request)

namespace Operation

abbrev Result : Operation → Type
  | .start => Except Failure Nat
  | .request q => q.Result

def perform (ps : Processes σ) : (op : Operation) → Act (Workbench σ) op.Result
  | .start => ensureWorker ps
  | .request q => q.perform ps

/-- The modules to preload from now on. -/
def preload : Operation → List Preload → List Preload
  | .start, current => current
  | .request q, current => q.preload current

end Operation

/-- Performs one operation after the other. One that panics does not keep the next from being tried. -/
def performAll (ps : Processes σ) : List Operation → Workbench σ →
    List ((op : Operation) × Option op.Result) × Workbench σ
  | [], b => ([], b)
  | op :: ops, b =>
    let (result, b) := op.perform ps b
    let (results, b) := performAll ps ops b
    (⟨op, result⟩ :: results, b)

/-- An operation, with what it made happen and its result, which is missing if it panicked. -/
structure Round where
  operation : Operation
  /-- The events until there is a worker. -/
  opening : List Event
  /-- The events after that. -/
  main : List Event
  result : Option operation.Result

namespace Round

def events (round : Round) : List Event := round.opening ++ round.main

/-- The operation of a round with its result. -/
def ending (round : Round) : (op : Operation) × Option op.Result := ⟨round.operation, round.result⟩

/-- A round in which a worker is found, being asked for nothing but what is needed to start it, and is
then asked for what the operation is about, and in which this answer makes the result. -/
inductive Orderly (preload : List Preload) (phase : Phase) : Round → Prop
  | started {opening : List Event} {found : Except Failure Nat} :
    Finds preload phase opening found → Orderly preload phase ⟨.start, opening, [], some found⟩
  /-- There is no worker, and none is started. -/
  | unasked {q : Request} : q.waits = true → phase = .absent →
    Orderly preload phase ⟨.request q, [], [], q.settle (.ok .done)⟩
  | asked {q : Request} {opening main : List Event} {found : Except Failure Nat}
    {answer : Except Failure Reply} :
    Finds preload phase opening found → Outcome q.command found main answer →
    Orderly preload phase ⟨.request q, opening, main, q.settle answer⟩

end Round

/-- Rounds that may follow one another, from a phase and modules to preload to the phase at the end. -/
inductive Conversation : Phase → List Preload → List Round → Phase → Prop
  | nil {phase : Phase} {preload : List Preload} : Conversation phase preload [] phase
  | cons {phase next last : Phase} {preload preload' : List Preload} {round : Round}
    {rest : List Round} : preload' = round.operation.preload preload →
    round.Orderly preload' phase → phase.run preload' round.events = some next →
    Conversation next preload' rest last → Conversation phase preload (round :: rest) last

/-- Whether code of the user is sent. -/
def Event.carriesCode (e : Event) : Bool :=
  match e.command? with
  | some (.exec _) => true
  | some (.eval _) => true
  | some (.probe _) => true
  | some (.runFile ..) => true
  | some (.time ..) => true
  | _ => false

theorem Event.carriesCode_of_opens {preload : List Preload} {e : Event} (h : e.opens preload) :
    e.carriesCode = false := by
  unfold Event.carriesCode
  cases hc : e.command? with
  | none => rfl
  | some c =>
    rcases h c hc with rfl | rfl
    · rfl
    · rfl

theorem Finds.countP_carriesCode {preload : List Preload} {phase : Phase} {opening : List Event}
    {found : Except Failure Nat} (h : Finds preload phase opening found) :
    opening.countP Event.carriesCode = 0 := by
  refine List.countP_eq_zero.mpr fun e he => ?_
  rw [Event.carriesCode_of_opens (h.opens e he)]
  exact Bool.false_ne_true

/-- In a round code is sent once at most, to whatever worker. -/
theorem Round.Orderly.countP_carriesCode_le {preload : List Preload} {phase : Phase}
    {round : Round} (h : round.Orderly preload phase) :
    round.events.countP Event.carriesCode ≤ 1 := by
  unfold Round.events
  rw [List.countP_append]
  cases h with
  | started hfinds =>
    rw [hfinds.countP_carriesCode]
    exact Nat.zero_le 1
  | unasked => exact Nat.zero_le 1
  | asked hfinds houtcome =>
    rw [hfinds.countP_carriesCode, Nat.zero_add]
    cases houtcome with
    | unsent failure => exact Nat.zero_le 1
    | answered pid reply => exact List.countP_le_length
    | broke pid fault =>
      have hended : Event.carriesCode (.ended pid) = false := rfl
      rw [List.countP_cons, List.countP_cons_of_neg (by simp [hended]), List.countP_nil]
      split <;> decide

/-! ## Operations -/

variable (ps : Processes σ)

/-- What is said of an operation that begins on a workbench and ends with a result on another one. -/
def RoundOf (op : Operation) (b : Workbench σ) (traffic : List Traffic)
    (r : Option op.Result × Workbench σ) : Prop :=
  ∃ opening main, Round.Orderly (op.preload b.session.preload) (.ofWorker b.session.worker)
      ⟨op, opening, main, r.1⟩ ∧
    RendersAll (opening ++ main) traffic ∧
    Phase.run (op.preload b.session.preload) (.ofWorker b.session.worker) (opening ++ main)
      = some (.ofWorker r.2.session.worker) ∧
    r.2.session.preload = op.preload b.session.preload

theorem traces_ask (q : Request) : Traces Workbench.withLog (fun b traffic r =>
    ∃ opening main found answer, Moves b.session (opening ++ main) traffic r.2.session ∧
      Finds b.session.preload (.ofWorker b.session.worker) opening found ∧
      Outcome q.command found main answer ∧ r.1 = q.settle answer)
    (q.ask ps.logged) (q.ask ps) := by
  have hsettle (answer : Except Failure Reply) : Traces Workbench.withLog
      (fun (b : Workbench σ) traffic r => traffic = [] ∧ r = (q.settle answer, b))
      (fun b => (q.settle answer, b)) (fun b => (q.settle answer, b)) :=
    Silent.traces (fun _ _ => rfl) fun _ => ⟨rfl, rfl⟩
  refine (traces_call ps q.command).bind hsettle ?_ ?_
  · rintro b traffic b' ⟨_, _, _, _, _, _, _, h⟩
    cases h
  · rintro b traffic answer b' _ _ ⟨opening, main, found, _, hmoves, hfinds, houtcome, ⟨⟩⟩ ⟨rfl, rfl⟩
    rw [List.append_nil]
    exact ⟨opening, main, found, answer, hmoves, hfinds, houtcome, rfl⟩

theorem traces_request (q : Request) :
    Traces Workbench.withLog (RoundOf (.request q)) (q.perform ps.logged) (q.perform ps) := by
  intro b log
  have hworker := q.worker_noted b.session
  have hpreload := q.preload_noted b.session
  rw [perform_eq, perform_eq]
  dsimp only [Workbench.withLog]
  by_cases hwaits : (q.waits && (q.noted b.session).worker.isNone) = true
  · simp only [hwaits, if_true]
    obtain ⟨hwaits, hnone⟩ := Bool.and_eq_true_iff.mp hwaits
    have habsent : Phase.ofWorker b.session.worker = .absent := by
      rw [← hworker, Option.isNone_iff_eq_none.mp hnone]
      rfl
    refine ⟨[], by simp, [], [], .unasked hwaits habsent, .nil, ?_, hpreload⟩
    rw [hworker]
    rfl
  · simp only [hwaits, Bool.false_eq_true, if_false]
    obtain ⟨traffic, hrun, opening, main, found, answer, hmoves, hfinds, houtcome, hresult⟩ :=
      traces_ask ps q { b with session := q.noted b.session } log
    have hphase := hmoves.phase
    rw [hworker, hpreload] at hphase
    rw [hworker, hpreload] at hfinds
    refine ⟨traffic, hrun, opening, main, ?_, hmoves.renders, hphase, hmoves.preload.trans hpreload⟩
    rw [hresult]
    exact .asked hfinds houtcome

/-- An operation is one round. -/
theorem traces_perform (op : Operation) :
    Traces Workbench.withLog (RoundOf op) (op.perform ps.logged) (op.perform ps) := by
  cases op with
  | start =>
    refine (traces_ensureWorker ps).mono ?_
    rintro b traffic ⟨_, b'⟩ ⟨opening, found, hmoves, hfinds, ⟨⟩, -⟩
    refine ⟨opening, [], .started hfinds, ?_, ?_, hmoves.preload⟩
    · rw [List.append_nil]
      exact hmoves.renders
    · rw [List.append_nil]
      exact hmoves.phase
  | request q => exact traces_request ps q

/-- Whatever the workers do: any operations, from any state on, make a conversation. -/
theorem exists_conversation (ops : List Operation) (b : Workbench σ) (log : List Traffic) :
    ∃ rounds traffic,
      performAll ps.logged ops (b.withLog log) =
        ((performAll ps ops b).1, (performAll ps ops b).2.withLog (log ++ traffic)) ∧
      rounds.map Round.ending = (performAll ps ops b).1 ∧
      RendersAll (rounds.flatMap Round.events) traffic ∧
      Conversation (.ofWorker b.session.worker) b.session.preload rounds
        (.ofWorker (performAll ps ops b).2.session.worker) := by
  induction ops generalizing b log with
  | nil =>
    refine ⟨[], [], ?_, rfl, .nil, .nil⟩
    rw [List.append_nil]
    rfl
  | cons op ops ih =>
    obtain ⟨first, hrun, opening, main, horderly, hfirst, hphase, hpreload⟩ :=
      traces_perform ps op b log
    obtain ⟨rounds, rest, hruns, hendings, hrest, hconversation⟩ :=
      ih (op.perform ps b).2 (log ++ first)
    refine ⟨⟨op, opening, main, (op.perform ps b).1⟩ :: rounds, first ++ rest, ?_, ?_, ?_, ?_⟩
    · simp only [performAll, hrun, hruns, List.append_assoc]
    · rw [List.map_cons, hendings]
      rfl
    · rw [List.flatMap_cons]
      exact hfirst.append hrest
    · rw [hpreload] at hconversation
      exact .cons rfl horderly hphase hconversation

theorem Conversation.orderly {phase last : Phase} {preload : List Preload} {rounds : List Round}
    (h : Conversation phase preload rounds last) :
    ∀ round ∈ rounds, ∃ preload phase, round.Orderly preload phase := by
  induction h with
  | nil => simp
  | cons _ horderly _ _ ih =>
    intro round hround
    rcases List.mem_cons.mp hround with rfl | hround
    · exact ⟨_, _, horderly⟩
    · exact ih round hround

/-- Whatever the workers do: from a fresh session on, any operations make a conversation, and all the
traffic is that of the events of its rounds. So a worker gets a ping, then the reset and then one command
at a time, with the reply to each read before the next, until it is given up, which is what follows a
fault; a result is made of the reply to the operation's own command; and in no round is code sent twice. -/
theorem conversation_performAll (config : Config) (python : Path)
    (environment : SortedMap String) (s : σ) (ops : List Operation) :
    let b : Workbench σ := ⟨ofConfig config python environment, s⟩
    let (results, b') := performAll ps ops b
    ∃ rounds traffic,
      performAll ps.logged ops (b.withLog []) = (results, b'.withLog traffic) ∧
      rounds.map Round.ending = results ∧
      RendersAll (rounds.flatMap Round.events) traffic ∧
      Conversation .absent config.preload rounds (.ofWorker b'.session.worker) ∧
      ∀ round ∈ rounds, round.events.countP Event.carriesCode ≤ 1 := by
  intro b
  obtain ⟨rounds, traffic, hrun, hendings, hrenders, hconversation⟩ :=
    exists_conversation ps ops b []
  refine ⟨rounds, traffic, hrun, hendings, hrenders, hconversation, fun round hround => ?_⟩
  obtain ⟨_, _, horderly⟩ := hconversation.orderly round hround
  exact horderly.countP_carriesCode_le

end Session

end NotebookKernel
