import NotebookKernel.Worker.Session

/-!
# The traffic with worker processes

`Processes.logged` does what the processes do and writes down what is started, written, read and killed.
`Session.Event` is what this traffic means: an exchange is one command and the reply to it, and
`Session.Renders` says which bytes an event stands for.
-/

namespace NotebookKernel

variable {σ : Type}

/-- What passes between a session and the operating system. -/
inductive Traffic where
  | spawned (pid : Nat)
  /-- A process was to be started, and there is none. -/
  | notSpawned
  /-- Bytes were written to a process, all of them unless an error was reported. -/
  | wrote (pid : Nat) (bytes : Bytes) (complete : Bool)
  | read (pid count : Nat) (bytes : Bytes)
  | killed (pid : Nat)
  deriving DecidableEq, Repr

/-- The processes with a log of the traffic, the earliest first. -/
def Processes.logged (ps : Processes σ) : Processes (σ × List Traffic) where
  spawn python directory environment := fun (s, log) =>
    match ps.spawn python directory environment s with
    | (.ok pid, s) => (.ok pid, s, log ++ [.spawned pid])
    | (.error e, s) => (.error e, s, log ++ [.notSpawned])
  isAlive pid := fun (s, log) => ((ps.isAlive pid s).1, (ps.isAlive pid s).2, log)
  write pid bytes := fun (s, log) =>
    ((ps.write pid bytes s).1, (ps.write pid bytes s).2,
      log ++ [.wrote pid bytes (ps.write pid bytes s).1.isOk])
  read pid count := fun (s, log) =>
    ((ps.read pid count s).1, (ps.read pid count s).2,
      log ++ [.read pid count (ps.read pid count s).1])
  kill pid := fun (s, log) => (ps.kill pid s, log ++ [.killed pid])

namespace Session

/-- What happens between a session and its workers. -/
inductive Event where
  | spawned (pid : Nat)
  | notSpawned
  /-- A command was sent and the reply to it was read. -/
  | answered (pid : Nat) (c : Command) (reply : Reply)
  /-- An exchange broke off. -/
  | broke (pid : Nat) (c : Command) (fault : Frame.Fault)
  /-- A process was given up. -/
  | ended (pid : Nat)

/-- The command of an exchange. -/
def Event.command? : Event → Option Command
  | .answered _ c _ => some c
  | .broke _ c _ => some c
  | _ => none

/-- An exchange with what came of it. -/
def Event.ofExchange (pid : Nat) (c : Command) : Except Frame.Fault Reply → Event
  | .ok reply => .answered pid c reply
  | .error fault => .broke pid c fault

/-- The traffic that an event stands for. In an exchange a command is written at most once and in one
piece, and only one reply is read, after that. -/
inductive Renders : Event → List Traffic → Prop
  | spawned {pid : Nat} : Renders (.spawned pid) [.spawned pid]
  | notSpawned : Renders .notSpawned [.notSpawned]
  | answered {pid : Nat} {c : Command} {reply : Reply} {frame body : Bytes} {b₀ b₁ b₂ b₃ : UInt8} :
    Frame.encode c.toJson = .ok frame → Frame.decode Reply.reader body = .ok reply →
    Renders (.answered pid c reply) [.wrote pid frame true, .read pid 4 [b₀, b₁, b₂, b₃],
      .read pid (Frame.ofLengthBytes b₀ b₁ b₂ b₃) body]
  /-- The command is too long, and nothing is written. -/
  | refused {pid : Nat} {c : Command} {fault : Frame.Fault} :
    Frame.encode c.toJson = .error fault → Renders (.broke pid c fault) []
  | unwritten {pid : Nat} {c : Command} {reason : String} {frame : Bytes} :
    Frame.encode c.toJson = .ok frame →
    Renders (.broke pid c (.notWritten reason)) [.wrote pid frame false]
  /-- The length of the reply cannot be read, or is too great. -/
  | unread {pid : Nat} {c : Command} {fault : Frame.Fault} {frame length : Bytes} :
    Frame.encode c.toJson = .ok frame →
    Renders (.broke pid c fault) [.wrote pid frame true, .read pid 4 length]
  /-- The body of the reply cannot be read, or makes no reply. -/
  | unreadable {pid : Nat} {c : Command} {fault : Frame.Fault} {frame body : Bytes}
    {b₀ b₁ b₂ b₃ : UInt8} : Frame.encode c.toJson = .ok frame →
    Renders (.broke pid c fault) [.wrote pid frame true, .read pid 4 [b₀, b₁, b₂, b₃],
      .read pid (Frame.ofLengthBytes b₀ b₁ b₂ b₃) body]
  | ended {pid : Nat} {frame : Bytes} {complete : Bool} :
    Frame.encode Command.shutdown.toJson = .ok frame →
    Renders (.ended pid) [.wrote pid frame complete, .killed pid]

/-- The traffic that some events stand for. -/
inductive RendersAll : List Event → List Traffic → Prop
  | nil : RendersAll [] []
  | cons {e : Event} {events : List Event} {first rest : List Traffic} :
    Renders e first → RendersAll events rest → RendersAll (e :: events) (first ++ rest)

theorem RendersAll.single {e : Event} {traffic : List Traffic} (h : Renders e traffic) :
    RendersAll [e] traffic := by
  simpa only [List.append_nil] using RendersAll.cons h .nil

theorem RendersAll.append {earlier later : List Event} {first rest : List Traffic}
    (h : RendersAll earlier first) (hlater : RendersAll later rest) :
    RendersAll (earlier ++ later) (first ++ rest) := by
  induction h with
  | nil => exact hlater
  | cons he _ ih =>
    rw [List.append_assoc]
    exact .cons he ih

/-! ## Exchanges -/

variable (ps : Processes σ) (pid : Nat) (c : Command) (s : σ) (log : List Traffic)

/-- What is sent. The frame is that of the command. -/
theorem send_logged : ∃ traffic,
    send ps.logged pid c (s, log) = ((send ps pid c s).1, (send ps pid c s).2, log ++ traffic) ∧
    match Frame.encode c.toJson with
    | .error fault => (send ps pid c s).1 = .error fault ∧ traffic = []
    | .ok frame => traffic = [.wrote pid frame (send ps pid c s).1.isOk] ∧
      ∀ fault, (send ps pid c s).1 = .error fault → ∃ reason, fault = .notWritten reason := by
  unfold send
  cases Frame.encode c.toJson with
  | error fault => exact ⟨[], by simp, rfl, rfl⟩
  | ok frame =>
    have hwrite : ps.logged.write pid frame (s, log) = ((ps.write pid frame s).1,
        (ps.write pid frame s).2, log ++ [.wrote pid frame (ps.write pid frame s).1.isOk]) := rfl
    simp only [hwrite]
    rcases ps.write pid frame s with ⟨reason | _, t⟩
    · exact ⟨_, rfl, rfl, fun _ h => ⟨reason, by cases h; rfl⟩⟩
    · exact ⟨_, rfl, rfl, fun _ h => by cases h⟩

theorem receive_logged : ∃ reads,
    receive ps.logged pid (s, log) = ((receive ps pid s).1, (receive ps pid s).2, log ++ reads) ∧
    match (receive ps pid s).1 with
    | .ok reply => ∃ b₀ b₁ b₂ b₃ body, Frame.decode Reply.reader body = .ok reply ∧
      reads = [.read pid 4 [b₀, b₁, b₂, b₃], .read pid (Frame.ofLengthBytes b₀ b₁ b₂ b₃) body]
    | .error _ => (∃ length, reads = [.read pid 4 length]) ∨ ∃ b₀ b₁ b₂ b₃ body,
      reads = [.read pid 4 [b₀, b₁, b₂, b₃], .read pid (Frame.ofLengthBytes b₀ b₁ b₂ b₃) body] := by
  have hread (count : Nat) (s : σ) (log : List Traffic) : ps.logged.read pid count (s, log) =
      ((ps.read pid count s).1, (ps.read pid count s).2,
        log ++ [.read pid count (ps.read pid count s).1]) := rfl
  -- Only a length of four bytes is followed by a body.
  rcases hfirst : ps.read pid 4 s with ⟨length, t⟩
  rcases length with _ | ⟨b₀, _ | ⟨b₁, _ | ⟨b₂, _ | ⟨b₃, _ | ⟨b₄, rest⟩⟩⟩⟩⟩
  case cons.cons.cons.cons.nil =>
    by_cases hlarge : Frame.maxLength < Frame.ofLengthBytes b₀ b₁ b₂ b₃
    · simp only [receive, hread, hfirst, hlarge, if_true]
      exact ⟨_, rfl, .inl ⟨_, rfl⟩⟩
    · rcases hsecond : ps.read pid (Frame.ofLengthBytes b₀ b₁ b₂ b₃) t with ⟨body, u⟩
      by_cases hbody : body.length < Frame.ofLengthBytes b₀ b₁ b₂ b₃
      · simp only [receive, hread, hfirst, hlarge, if_false, hsecond, hbody, if_true,
          List.append_assoc]
        exact ⟨_, rfl, .inr ⟨b₀, b₁, b₂, b₃, body, rfl⟩⟩
      · simp only [receive, hread, hfirst, hlarge, if_false, hsecond, hbody, List.append_assoc]
        refine ⟨_, rfl, ?_⟩
        cases hdecode : Frame.decode Reply.reader body with
        | ok reply => exact ⟨b₀, b₁, b₂, b₃, body, hdecode, rfl⟩
        | error fault => exact .inr ⟨b₀, b₁, b₂, b₃, body, rfl⟩
  all_goals
    simp only [receive, hread, hfirst]
    exact ⟨_, rfl, .inl ⟨_, rfl⟩⟩

/-- An exchange is one event. -/
theorem exchange_logged : ∃ traffic, exchange ps.logged pid c (s, log)
      = ((exchange ps pid c s).1, (exchange ps pid c s).2, log ++ traffic) ∧
    Renders (.ofExchange pid c (exchange ps pid c s).1) traffic := by
  obtain ⟨sent, hsend, hsent⟩ := send_logged ps pid c s log
  unfold exchange
  rw [hsend]
  cases hencode : Frame.encode c.toJson with
  | error fault =>
    rw [hencode] at hsent
    obtain ⟨hfault, rfl⟩ := hsent
    rcases hrun : send ps pid c s with ⟨result, t⟩
    rw [hrun] at hfault
    cases hfault
    exact ⟨[], rfl, .refused hencode⟩
  | ok frame =>
    rw [hencode] at hsent
    obtain ⟨rfl, hreason⟩ := hsent
    rcases hrun : send ps pid c s with ⟨fault | _, t⟩
    · obtain ⟨reason, rfl⟩ := hreason fault (by rw [hrun])
      exact ⟨_, rfl, .unwritten hencode⟩
    · obtain ⟨reads, hreceive, hreads⟩ := receive_logged ps pid t (log ++ [.wrote pid frame true])
      refine ⟨.wrote pid frame true :: reads, ?_, ?_⟩
      · have hlog : log ++ Traffic.wrote pid frame true :: reads
            = log ++ [.wrote pid frame true] ++ reads := by
          rw [List.append_assoc, List.singleton_append]
        rw [hlog]
        exact hreceive
      · dsimp only
        cases hresult : (receive ps pid t).1 with
        | ok reply =>
          rw [hresult] at hreads
          obtain ⟨b₀, b₁, b₂, b₃, body, hdecode, rfl⟩ := hreads
          exact .answered hencode hdecode
        | error fault =>
          rw [hresult] at hreads
          obtain ⟨length, rfl⟩ | ⟨b₀, b₁, b₂, b₃, body, rfl⟩ := hreads
          · exact .unread hencode
          · exact .unreadable hencode

theorem giveUp_logged : ∃ traffic,
    giveUp ps.logged pid (s, log) = (giveUp ps pid s, log ++ traffic) ∧
    Renders (.ended pid) traffic := by
  obtain ⟨sent, hsend, hsent⟩ := send_logged ps pid .shutdown s log
  have hencode : (Frame.encode Command.shutdown.toJson).isOk = true := by decide +kernel
  cases hframe : Frame.encode Command.shutdown.toJson with
  | error fault =>
    rw [hframe] at hencode
    cases hencode
  | ok frame =>
    rw [hframe] at hsent
    obtain ⟨rfl, -⟩ := hsent
    refine ⟨[.wrote pid frame (send ps pid .shutdown s).1.isOk, .killed pid], ?_, .ended hframe⟩
    unfold giveUp
    rw [hsend]
    have hlog (t : Traffic) : log ++ [t, .killed pid] = log ++ [t] ++ [.killed pid] := by
      rw [List.append_assoc, List.singleton_append]
    rw [hlog]
    rfl

end Session

end NotebookKernel
