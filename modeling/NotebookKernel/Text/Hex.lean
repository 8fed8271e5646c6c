import NotebookKernel.Text.Utf8

/-! # Hexadecimal digits and random identifiers -/

namespace NotebookKernel.Hex

/-- The lower-case digit of a value below 16. -/
def digit (n : Nat) : Char :=
  if n < 10 then Char.ofNat (n + 48) else Char.ofNat (n + 87)

/-- The value of a digit in either case. -/
def value? (c : Char) : Option Nat :=
  if c.isDigit then some (c.toNat - 48)
  else if 'a' ≤ c ∧ c ≤ 'f' then some (c.toNat - 87)
  else if 'A' ≤ c ∧ c ≤ 'F' then some (c.toNat - 55)
  else none

/-- Two digits for every byte. -/
def encode (bytes : Bytes) : String :=
  String.ofList (bytes.flatMap fun b => [digit (b.toNat / 16), digit (b.toNat % 16)])

/-- Reads two digits for every byte. -/
def decodeChars? : List Char → Option Bytes
  | [] => some []
  | a :: b :: rest => do
    let byte := UInt8.ofNat ((← value? a) * 16 + (← value? b))
    let tail ← decodeChars? rest
    some (byte :: tail)
  | [_] => none

def decode? (s : String) : Option Bytes := decodeChars? s.toList

/-- A number without leading zeros. -/
def ofNat (n : Nat) : String := String.ofList (Nat.toDigits 16 n)

end NotebookKernel.Hex

/-! ## Random identifiers

Sixteen bytes are written as five groups of hexadecimal digits. Six bits are fixed and mark the
identifier as a random one. -/

namespace NotebookKernel.Uuid

/-- Sets the bits that mark a random identifier. -/
def markRandom (bytes : Bytes) : Bytes :=
  (bytes.modify 6 fun b => b % 16 + 64).modify 8 fun b => b % 64 + 128

/-- The identifier made of sixteen bytes. -/
def ofBytes (bytes : Bytes) : String :=
  let digits := (Hex.encode (markRandom bytes)).toList
  let group (start count : Nat) : List Char := (digits.drop start).take count
  String.ofList (List.intercalate ['-']
    [group 0 8, group 8 4, group 12 4, group 16 4, group 20 12])

end NotebookKernel.Uuid
