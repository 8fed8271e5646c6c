/-! # UTF-8

Bytes are read by a machine with at most one character under way. A byte that cannot go on with it
ends it, so that every longest piece which begins a character but completes none counts as one error:
`decode?` refuses a text with errors, `decodeLossy` puts the replacement character in their place. -/

namespace NotebookKernel

/-- A sequence of bytes. -/
abbrev Bytes := List UInt8

namespace Utf8

/-- A character under way. -/
structure Pending where
  /-- The bits read so far. -/
  value : Nat
  /-- How many bytes are still owed. -/
  owed : Nat
  /-- The least and the greatest value that the next byte may have. -/
  low : Nat
  high : Nat
  deriving DecidableEq, Repr

/-- What a first byte from 0x80 on announces, unless it may not begin a character. -/
def Pending.ofLead? (b : Nat) : Option Pending :=
  if 0xC2 ≤ b && b ≤ 0xDF then some ⟨b - 0xC0, 1, 0x80, 0xBF⟩
  else if b == 0xE0 then some ⟨0, 2, 0xA0, 0xBF⟩
  else if b == 0xED then some ⟨0xD, 2, 0x80, 0x9F⟩
  else if 0xE1 ≤ b && b ≤ 0xEF then some ⟨b - 0xE0, 2, 0x80, 0xBF⟩
  else if b == 0xF0 then some ⟨0, 3, 0x90, 0xBF⟩
  else if b == 0xF4 then some ⟨4, 3, 0x80, 0x8F⟩
  else if 0xF1 ≤ b && b ≤ 0xF3 then some ⟨b - 0xF0, 3, 0x80, 0xBF⟩
  else none

/-- What a byte at the start of a character gives: what is under way after it, and the character or
the error that it completes. -/
def start (b : Nat) : Option Pending × List (Option Char) :=
  if b < 0x80 then (none, [some (Char.ofNat b)])
  else match Pending.ofLead? b with
    | some p => (some p, [])
    | none => (none, [none])

/-- What a byte gives when `pending` is under way. -/
def step (pending : Option Pending) (b : Nat) : Option Pending × List (Option Char) :=
  match pending with
  | none => start b
  | some p =>
    if p.low ≤ b && b ≤ p.high then
      let value := p.value * 64 + (b - 0x80)
      if p.owed ≤ 1 then (none, [some (Char.ofNat value)])
      else (some ⟨value, p.owed - 1, 0x80, 0xBF⟩, [])
    else
      let (next, out) := start b
      (next, none :: out)

/-- The characters and errors (`none`) of a sequence of bytes, in reverse behind `done`. -/
def scan (done : List (Option Char)) (pending : Option Pending) : Bytes → List (Option Char)
  | [] => if pending.isSome then none :: done else done
  | b :: rest =>
    let (next, out) := step pending b.toNat
    scan (out.reverse ++ done) next rest

/-- The text that the bytes encode, with the replacement character for every error. -/
def decodeLossy (bytes : Bytes) : String :=
  String.ofList ((scan [] none bytes).reverse.map (·.getD '\uFFFD'))

/-- The text that the bytes encode, if there is no error in them. -/
def decode? (bytes : Bytes) : Option String :=
  let out := scan [] none bytes
  if out.all Option.isSome then some (String.ofList (out.reverse.filterMap id)) else none

/-- The bytes of a text. -/
def encode (s : String) : Bytes :=
  s.toList.flatMap String.utf8EncodeChar

end Utf8

end NotebookKernel
