import NotebookKernel.Proofs.Text.Encoding
import NotebookKernel.Proofs.Worker.Messages
import NotebookKernel.Worker.Session

/-!
# Streams of frames

`Frame.next` is one read from a stream, and `Frame.readEach` a run of reads, each from where the last one
stopped. A read takes the first frame and nothing else, whatever its body is, so that a body which makes
no message does no harm to the messages behind it (`readEach_frames`). The readers of the program are such
reads: `Frame.readAll_succ` and `Session.receive_of_serves`.
-/

namespace NotebookKernel

open Json Reader

/-- A message in either direction. -/
inductive Message where
  | command (c : Command)
  | reply (r : Reply)

/-- Who reads a message. -/
inductive Direction where
  | toWorker
  | toKernel
  deriving DecidableEq

/-- The messages that are read in a direction. -/
def Direction.reader : Direction → Reader Message
  | .toWorker => fun limit v => (Command.reader limit v).map .command
  | .toKernel => fun limit v => (Reply.reader limit v).map .reply

namespace Message

def direction : Message → Direction
  | .command _ => .toWorker
  | .reply _ => .toKernel

def toJson : Message → Json
  | .command c => c.toJson
  | .reply r => r.toJson

/-- The seconds of a timing are a whole number. -/
def HasWholeTime : Message → Prop
  | .command _ => True
  | .reply r => r.HasWholeTime

theorem reads (m : Message) : Reads m.direction.reader m.toJson m := by
  intro limit hdepth
  cases m with
  | command c =>
    have hread := c.reads limit hdepth
    simp only [direction, Direction.reader, toJson, hread, Option.map_some]
  | reply r =>
    have hread := r.reads limit hdepth
    simp only [direction, Direction.reader, toJson, hread, Option.map_some]

theorem fits {m : Message} (h : m.HasWholeTime) : m.toJson.Fits Number.Legible nestingLimit := by
  cases m with
  | command c => exact c.fits 124
  | reply r => exact Reply.fits h 124

end Message

namespace Frame

/-! ## One frame -/

/-- The four bytes of a length give it again. -/
theorem ofLengthBytes_lengthBytes {n : Nat} (h : n < 2 ^ 32) :
    ∃ a b c d, lengthBytes n = [a, b, c, d] ∧ ofLengthBytes a b c d = n := by
  refine ⟨_, _, _, _, rfl, ?_⟩
  simp only [ofLengthBytes, UInt8.toNat_ofNat']
  omega

section

variable {a b c d : UInt8} {rest : Bytes}

theorem splitBody_tooLarge (h : maxLength < ofLengthBytes a b c d) :
    splitBody (a :: b :: c :: d :: rest) = .error (.tooLarge (ofLengthBytes a b c d)) := by
  simp only [splitBody, if_pos h]

theorem splitBody_truncated (h : ¬maxLength < ofLengthBytes a b c d)
    (hshort : rest.length < ofLengthBytes a b c d) :
    splitBody (a :: b :: c :: d :: rest) = .error .truncatedBody := by
  have htake : (rest.take (ofLengthBytes a b c d)).length < ofLengthBytes a b c d :=
    Nat.lt_of_le_of_lt (List.length_take_le' _ _) hshort
  simp only [splitBody, if_neg h, if_pos htake]

theorem splitBody_whole (h : ¬maxLength < ofLengthBytes a b c d)
    (hwhole : ofLengthBytes a b c d ≤ rest.length) :
    splitBody (a :: b :: c :: d :: rest) =
      .ok (rest.take (ofLengthBytes a b c d), rest.drop (ofLengthBytes a b c d)) := by
  have htake : ¬(rest.take (ofLengthBytes a b c d)).length < ofLengthBytes a b c d := by
    rw [List.length_take]
    omega
  simp only [splitBody, if_neg h, if_neg htake]

end

/-- The body of a frame is split off, whatever comes behind it. -/
theorem splitBody_append {body : Bytes} (h : body.length ≤ maxLength) (rest : Bytes) :
    splitBody (lengthBytes body.length ++ body ++ rest) = .ok (body, rest) := by
  have hmax : maxLength < 2 ^ 32 := by decide
  obtain ⟨a, b, c, d, hbytes, hlength⟩ := ofLengthBytes_lengthBytes (Nat.lt_of_le_of_lt h hmax)
  simp only [hbytes, List.cons_append, List.nil_append]
  rw [splitBody_whole (by omega) (by rw [hlength, List.length_append]; omega), hlength,
    List.take_left, List.drop_left]

/-- A body that was made of a value is decoded as what the value is read as. -/
theorem decode_body {α : Type} {read : Reader α} {v : Json} {a : α} (hread : Reads read v a)
    (hfits : v.Fits Number.Legible nestingLimit) : decode read (body v) = .ok a := by
  simp only [decode, body, Utf8.decode?_encode, Option.bind_eq_bind, Option.bind_some,
    Scanned.ofText?_compact hfits.2, hread nestingLimit hfits.1]

theorem failure_of_decode {α : Type} {read : Reader α} {body : Bytes} {fault : Fault}
    (h : decode read body = .error fault) :
    fault.failure = .serialization "Failed to decode IPC message" := by
  rw [decode] at h
  split at h
  · cases h
  · cases h
    rfl

/-! ## Reads -/

/-- One read: a fault of the stream, or what the first body makes and the bytes behind the frame. -/
def next {α : Type} (read : Reader α) (stream : Bytes) : Except Fault (Except Fault α × Bytes) :=
  (splitBody stream).map fun (body, rest) => (decode read body, rest)

/-- A run of reads, one in each direction of the list. -/
def readEach : List Direction → Bytes → Except Fault (List (Except Fault Message) × Bytes)
  | [], stream => .ok ([], stream)
  | d :: ds, stream => do
    let (message, rest) ← next d.reader stream
    let (messages, rest) ← readEach ds rest
    pure (message :: messages, rest)

/-- The stream ends within the length or within the body, or the length is more than a body may have. -/
def Broken (stream : Bytes) : Prop :=
  stream.length < 4 ∨ ∃ a b c d rest, stream = a :: b :: c :: d :: rest ∧
    (maxLength < ofLengthBytes a b c d ∨ rest.length < ofLengthBytes a b c d)

/-- A read from a broken stream is a fault of the channel. -/
theorem next_of_broken {α : Type} {stream : Bytes} (h : Broken stream) (read : Reader α) :
    ∃ fault text, next read stream = .error fault ∧ fault.failure = .channel text := by
  rcases h with hshort | ⟨a, b, c, d, rest, rfl, hlength⟩
  · have hsplit : splitBody stream = .error .truncatedLength := by
      match stream, hshort with
      | [], _ | [_], _ | [_, _], _ | [_, _, _], _ => rfl
      | _ :: _ :: _ :: _ :: _, h => simp only [List.length_cons] at h; omega
    exact ⟨_, _, by rw [next, hsplit]; rfl, rfl⟩
  · by_cases hlarge : maxLength < ofLengthBytes a b c d
    · exact ⟨_, _, by rw [next, splitBody_tooLarge hlarge]; rfl, rfl⟩
    · have hshort := hlength.resolve_left hlarge
      exact ⟨_, _, by rw [next, splitBody_truncated hlarge hshort]; rfl, rfl⟩

/-! ## What stands on a stream -/

/-- What was put on a stream: a message that was written, or any body at all. -/
inductive Item where
  | message (m : Message)
  /-- A body, and the direction in which it is going to be read. -/
  | body (d : Direction) (bytes : Bytes)

namespace Item

def direction : Item → Direction
  | .message m => m.direction
  | .body d _ => d

/-- The frame of the item, unless its body is too long. -/
def frame : Item → Except Fault Bytes
  | .message m => encode m.toJson
  | .body _ bytes =>
    if maxLength < bytes.length then .error (.tooLarge bytes.length)
    else .ok (lengthBytes bytes.length ++ bytes)

/-- What a read of the item gives. -/
def outcome : Item → Except Fault Message
  | .message m => .ok m
  | .body d bytes => decode d.reader bytes

/-- If the item is a message with a timing, its seconds are a whole number. -/
def HasWholeTime : Item → Prop
  | .message m => m.HasWholeTime
  | .body _ _ => True

/-- A read takes the item off the stream, and nothing else. -/
theorem next_frame {item : Item} (hwhole : item.HasWholeTime) {bytes : Bytes}
    (hframe : item.frame = .ok bytes) (rest : Bytes) :
    next item.direction.reader (bytes ++ rest) = .ok (item.outcome, rest) := by
  cases item with
  | message m =>
    rw [frame, encode] at hframe
    split at hframe
    · cases hframe
    · next hlength =>
      cases hframe
      rw [next, splitBody_append (Nat.not_lt.mp hlength), direction, outcome]
      simp only [Except.map, decode_body m.reads (Message.fits hwhole)]
  | body d body =>
    rw [frame] at hframe
    split at hframe
    · cases hframe
    · next hlength =>
      cases hframe
      rw [next, splitBody_append (Nat.not_lt.mp hlength)]
      rfl

end Item

/-- Reads from a stream of frames give the items one by one and stop at the end of the last frame. -/
theorem readEach_map_frame {items : List Item} {frames : List Bytes}
    (hframes : items.mapM Item.frame = .ok frames) (hwhole : ∀ item ∈ items, item.HasWholeTime)
    (tail : Bytes) :
    readEach (items.map Item.direction) (frames.flatten ++ tail) =
      .ok (items.map Item.outcome, tail) := by
  induction items generalizing frames with
  | nil =>
    cases hframes
    rfl
  | cons item items ih =>
    rw [List.mapM_cons] at hframes
    cases hframe : item.frame with
    | error fault => simp [hframe, bind, Except.bind] at hframes
    | ok bytes =>
      cases hrest : items.mapM Item.frame with
      | error fault => simp [hframe, hrest, bind, Except.bind] at hframes
      | ok others =>
        simp only [hframe, hrest, bind, Except.bind, pure, Except.pure, Except.ok.injEq] at hframes
        subst hframes
        have hitem := Item.next_frame (hwhole item List.mem_cons_self) hframe
          (others.flatten ++ tail)
        have hitems := ih hrest fun i hi => hwhole i (List.mem_cons_of_mem _ hi)
        simp only [List.map_cons, readEach, List.flatten_cons, List.append_assoc, hitem, hitems,
          bind, Except.bind, pure, Except.pure]

/-- From a stream of frames with anything behind them, the reads give exactly the messages that were
written and a fault of serialization for each body that makes no message, and each stops at the end of
its frame. A broken rest is a fault of the channel. -/
theorem readEach_frames {items : List Item} {frames : List Bytes}
    (hframes : items.mapM Item.frame = .ok frames) (hwhole : ∀ item ∈ items, item.HasWholeTime)
    (tail : Bytes) :
    readEach (items.map Item.direction) (frames.flatten ++ tail) =
        .ok (items.map Item.outcome, tail) ∧
      (∀ item ∈ items, ∀ fault, item.outcome = .error fault →
        fault.failure = .serialization "Failed to decode IPC message") ∧
      (Broken tail → ∀ d : Direction, ∃ fault text, next d.reader tail = .error fault ∧
        fault.failure = .channel text) := by
  refine ⟨readEach_map_frame hframes hwhole tail, fun item _ fault hfault => ?_,
    fun hbroken d => next_of_broken hbroken d.reader⟩
  cases item with
  | message m => cases hfault
  | body d bytes => exact failure_of_decode hfault

/-- A command, a body that makes no message and a timing, with half a length behind them. -/
theorem readEach_frames_of_mixed_stream :
    let stream := [13, 0, 0, 0] ++ Utf8.encode "\x7b\"op\":\"ping\"\x7d" ++ ([1, 0, 0, 0, 91] ++
      ([31, 0, 0, 0] ++ Utf8.encode "\x7b\"kind\":\"timing\",\"seconds\":2.0\x7d"))
    readEach [.toWorker, .toKernel, .toKernel] (stream ++ [5, 0]) =
        .ok ([.ok (.command .ping), .error .undecodable, .ok (.reply (.timing 2.0))], [5, 0]) ∧
      ∃ fault text, next Direction.toKernel.reader [5, 0] = .error fault ∧
        fault.failure = .channel text := by
  have htwo : (2.0 : Float) = (UInt64.ofNat 2).toFloat := by decide
  have hwhole : IsWhole 2.0 := .inl ⟨2, by decide, htwo⟩
  have hbroken : Broken [5, 0] := .inl (by decide)
  have hitems : ∀ item ∈ [Item.message (.command .ping), .body .toKernel [91],
      .message (.reply (.timing 2.0))], item.HasWholeTime := by
    simpa [Item.HasWholeTime, Message.HasWholeTime, Reply.HasWholeTime] using hwhole
  have h := @readEach_frames _ _ rfl hitems [5, 0]
  exact ⟨h.1, h.2.2 hbroken .toKernel⟩

/-! ## The readers of the program -/

/-- Reading everything is reading until a fault of the stream or its end. -/
theorem readAll_succ {α : Type} (read : Reader α) (fuel : Nat) (stream : Bytes) :
    readAll read (fuel + 1) stream =
      match next read stream with
      | .error fault => [.error fault]
      | .ok (message, rest) => message :: if rest.isEmpty then [] else readAll read fuel rest := by
  rw [readAll, next]
  cases splitBody stream <;> rfl

end Frame

namespace Session

variable {σ : Type}

/-- What is read from the process is taken off the front of its output. -/
def Serves (ps : Processes σ) (pid : Nat) (output : σ → Bytes) : Prop :=
  ∀ count s, ∃ s', ps.read pid count s = ((output s).take count, s') ∧
    output s' = (output s).drop count

/-- The session receives by one read from the output of the process. -/
theorem receive_of_serves {ps : Processes σ} {pid : Nat} {output : σ → Bytes}
    (h : Serves ps pid output) (s : σ) :
    match Frame.next Reply.reader (output s) with
    | .error fault => (receive ps pid s).1 = .error fault
    | .ok (reply, rest) => (receive ps pid s).1 = reply ∧ output (receive ps pid s).2 = rest := by
  obtain ⟨s', hlength, hafter⟩ := h 4 s
  match houtput : output s with
  | [] | [_] | [_, _] | [_, _, _] =>
    rw [houtput] at hlength
    simp [Frame.next, Frame.splitBody, receive, hlength, Except.map]
  | a :: b :: c :: d :: rest =>
    rw [houtput] at hlength hafter
    obtain ⟨s'', hbody, hrest⟩ := h (Frame.ofLengthBytes a b c d) s'
    rw [hafter] at hbody hrest
    simp only [List.drop_succ_cons, List.drop_zero] at hbody hrest
    by_cases hlarge : Frame.maxLength < Frame.ofLengthBytes a b c d
    · simp [Frame.next, Frame.splitBody_tooLarge hlarge, receive, hlength, hlarge, Except.map]
    · by_cases hshort : rest.length < Frame.ofLengthBytes a b c d
      · have hread : (rest.take (Frame.ofLengthBytes a b c d)).length < Frame.ofLengthBytes a b c d :=
          Nat.lt_of_le_of_lt (List.length_take_le' _ _) hshort
        rw [Frame.next, Frame.splitBody_truncated hlarge hshort]
        simp only [Except.map, receive, hlength, List.take, if_neg hlarge, hbody, if_pos hread]
      · have hread : ¬(rest.take (Frame.ofLengthBytes a b c d)).length < Frame.ofLengthBytes a b c d := by
          rw [List.length_take]
          omega
        rw [Frame.next, Frame.splitBody_whole hlarge (Nat.not_lt.mp hshort)]
        simp only [Except.map, receive, hlength, List.take, if_neg hlarge, hbody, if_neg hread]
        exact ⟨trivial, hrest⟩

end Session

end NotebookKernel
