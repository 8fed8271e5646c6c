import NotebookKernel.Json.Basic

/-! # Reading numerals

An integer that fits 64 bits is read exactly. Any other numeral is taken as a significand of 64 bits
times a power of ten, multiplied out in double precision; digits for which the significand has no room
count as zeros. A result beyond the greatest double is no number. -/

namespace NotebookKernel.Json

/-- The greatest significand. -/
def maxSignificand : Nat := Nat.pow 2 64 - 1

/-- Takes digits into the significand while there is room. Also gives the digits left over. -/
def absorbDigits (significand : Nat) : List Char → Nat × List Char
  | [] => (significand, [])
  | d :: rest =>
    let next := 10 * significand + (d.toNat - 48)
    if next ≤ maxSignificand then absorbDigits next rest else (significand, d :: rest)

/-- Divides by powers of ten until the exponent has been used up. -/
def scaleDown : Nat → Float → Nat → Float
  | 0, _, _ => 0.0
  | fuel + 1, f, exponent =>
    if exponent ≤ 308 then f / Float.ofScientific 1 false exponent
    else scaleDown fuel (f / 1e308) (exponent - 308)

/-- `significand * 10 ^ exponent` in double precision, unless it is out of range. -/
def scaled? (significand : Nat) (exponent : Int) : Option Float :=
  let f := (UInt64.ofNat significand).toFloat
  if exponent < 0 then some (scaleDown 3 f exponent.natAbs)
  else if exponent ≤ 308 then
    let product := f * Float.ofScientific 1 false exponent.natAbs
    if product.isInf then none else some product
  else if significand = 0 then some 0.0
  else none

/-- A numeral, taken apart. -/
structure Numeral where
  negative : Bool
  /-- The digits before the point. -/
  whole : List Char
  /-- The digits after the point, if there is one. -/
  places : Option (List Char)
  /-- The sign and the digits of the exponent, if there is one. -/
  power : Option (Bool × List Char)

/-- The value of a string of digits. -/
def digitsValue (digits : List Char) : Nat :=
  digits.foldl (fun n d => 10 * n + (d.toNat - 48)) 0

/-- The number that a numeral denotes, unless it is out of range. -/
def Numeral.value? (n : Numeral) : Option Number :=
  let (whole, extra) := absorbDigits 0 n.whole
  if n.places.isNone && n.power.isNone && extra.isEmpty then
    if !n.negative then some (.int whole)
    else if whole = 0 ∨ Nat.pow 2 63 < whole then some (.float (-(UInt64.ofNat whole).toFloat))
    else some (.int (-whole))
  else
    let places := n.places.getD []
    let (significand, unread) := absorbDigits whole places
    let exponent : Int := extra.length - (places.length - unread.length : Nat)
    let magnitude : Option Float :=
      match n.power with
      | none => scaled? significand exponent
      | some (negative, digits) =>
        let power := digitsValue digits
        if power < Nat.pow 2 31 then
          scaled? significand (if negative then exponent - power else exponent + power)
        else if significand = 0 ∨ negative then some 0.0
        else none
    magnitude.map fun f => .float (if n.negative then -f else f)

/-- Splits the longest run of digits off, which must not be empty. -/
def digits? (cs : List Char) : Option (List Char × List Char) :=
  match cs.takeWhile Char.isDigit with
  | [] => none
  | ds => some (ds, cs.dropWhile Char.isDigit)

/-- Splits a numeral off. Only a lone zero may begin with a zero. -/
def numeral? (cs : List Char) : Option (Numeral × List Char) := do
  let (negative, cs) := match cs with
    | '-' :: rest => (true, rest)
    | _ => (false, cs)
  let (whole, cs) ← digits? cs
  if whole.head? == some '0' && whole.length != 1 then none
  let (places, cs) ← match cs with
    | '.' :: rest => do
      let (ds, rest) ← digits? rest
      pure (some ds, rest)
    | _ => pure (none, cs)
  let exponent (rest : List Char) : Option (Option (Bool × List Char) × List Char) := do
    let (sign, rest) := match rest with
      | '+' :: rest => (false, rest)
      | '-' :: rest => (true, rest)
      | _ => (false, rest)
    let (ds, rest) ← digits? rest
    pure (some (sign, ds), rest)
  let (power, cs) ← match cs with
    | 'e' :: rest => exponent rest
    | 'E' :: rest => exponent rest
    | _ => pure (none, cs)
  pure ({ negative, whole, places, power }, cs)

end NotebookKernel.Json
