import NotebookKernel.Failure
import NotebookKernel.Json.Writer
import NotebookKernel.Json.Reader
import NotebookKernel.Text.Utf8

/-! # Frames

On the channel to a worker every message is a frame: the length of its body in four bytes, the least
significant first, and the body, which is JSON text. Bodies of more than a hundred mebibytes are
neither written nor read. A body that makes no message has been read to its end all the same, so the
next frame can be read after it. -/

namespace NotebookKernel.Frame

/-- The longest body, in bytes. -/
def maxLength : Nat := 100 * 1024 * 1024

/-- Why a message could not be sent or received. -/
inductive Fault where
  /-- The body is too long. -/
  | tooLarge (length : Nat)
  /-- The stream ended within the four bytes of the length. -/
  | truncatedLength
  /-- The stream ended within the body. -/
  | truncatedBody
  /-- The body makes no message. -/
  | undecodable
  /-- The message could not be written. -/
  | notWritten (error : String)
  deriving DecidableEq, Repr

/-- The fault as a failure of the kernel. -/
def Fault.failure : Fault → Failure
  | .tooLarge length => .channel ("IPC message too large: " ++ toString length ++ " bytes")
  | .truncatedLength =>
    .channel "Failed to read IPC message length: failed to fill whole buffer"
  | .truncatedBody => .channel "Failed to read IPC message body: failed to fill whole buffer"
  | .undecodable => .serialization "Failed to decode IPC message"
  | .notWritten error => .channel ("Failed to flush IPC stream: " ++ error)

/-- A number below 2 ^ 32 as four bytes, the least significant first. -/
def lengthBytes (n : Nat) : Bytes :=
  [UInt8.ofNat (n % 256), UInt8.ofNat (n / 256 % 256), UInt8.ofNat (n / 65536 % 256),
    UInt8.ofNat (n / 16777216 % 256)]

/-- The number that four bytes give. -/
def ofLengthBytes (a b c d : UInt8) : Nat :=
  a.toNat + 256 * (b.toNat + 256 * (c.toNat + 256 * d.toNat))

/-- The body of a message. -/
def body (message : Json) : Bytes := Utf8.encode message.compact

/-- The frame of a message. -/
def encode (message : Json) : Except Fault Bytes :=
  let body := body message
  if maxLength < body.length then .error (.tooLarge body.length)
  else .ok (lengthBytes body.length ++ body)

/-- Splits the body of the first frame off a stream. -/
def splitBody : Bytes → Except Fault (Bytes × Bytes)
  | a :: b :: c :: d :: rest =>
    let length := ofLengthBytes a b c d
    if maxLength < length then .error (.tooLarge length)
    else
      let body := rest.take length
      if body.length < length then .error .truncatedBody else .ok (body, rest.drop length)
  | _ => .error .truncatedLength

/-- Reads the message in a body. -/
def decode {α : Type} (read : Reader α) (body : Bytes) : Except Fault α :=
  match Utf8.decode? body >>= Scanned.ofText? >>= read Json.nestingLimit with
  | some message => .ok message
  | none => .error .undecodable

/-- Reads one message after another. An undecodable body is one fault among the messages, any other
fault is the last thing that is read. The fuel bounds the number of frames. -/
def readAll {α : Type} (read : Reader α) : Nat → Bytes → List (Except Fault α)
  | 0, _ => []
  | fuel + 1, stream =>
    match splitBody stream with
    | .error fault => [.error fault]
    | .ok (body, rest) =>
      decode read body :: if rest.isEmpty then [] else readAll read fuel rest

end NotebookKernel.Frame
