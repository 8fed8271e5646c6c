import NotebookKernel.Number.Binary64

/-! # The shortest decimal text of a double

`Decimal.shortest` finds the decimal with the fewest digits that lies in the interval of reals which
round to a given double, and of those the nearest to it. `Decimal.render` writes it positionally or
with an exponent, as a `Notation` says. -/

namespace NotebookKernel

/-- The number `digits * 10 ^ exponent`. -/
structure Decimal where
  digits : Nat
  exponent : Int
  deriving DecidableEq, Repr

namespace Decimal

/-- The number of decimal digits of `n`. -/
def length (n : Nat) : Nat := (Nat.toDigits 10 n).length

/-- `a * 10 ^ x` over `b`, as a numerator over a denominator. -/
def scale (a b : Nat) (x : Int) : Nat × Nat :=
  if 0 ≤ x then (a * Nat.pow 10 x.toNat, b) else (a, b * Nat.pow 10 (-x).toNat)

/-- The position of the first digit of `a / b`: the `p` with `10 ^ (p - 1) ≤ a / b < 10 ^ p`. -/
def pointPosition (a b : Nat) : Int :=
  let guess : Int := length a - length b
  let (n, d) := scale a b (-guess)
  if d ≤ n then guess + 1 else guess

/-- The interval of reals that round to a double, with its ends over four times the denominator and
whether the ends belong to it. -/
structure Interval where
  low : Nat
  high : Nat
  denominator : Nat
  closed : Bool

/-- The interval of the reals that round to `x`. -/
def Interval.of (x : Binary64) : Interval :=
  let (n, d) := x.fraction
  let unit := n / x.mantissa
  { low := if x.narrowBelow then 4 * n - unit else 4 * n - 2 * unit
    high := 4 * n + 2 * unit
    denominator := 4 * d
    closed := x.mantissa % 2 = 0 }

/-- Whether the interval holds the decimal. -/
def Interval.holds (i : Interval) (c : Decimal) : Bool :=
  let (n, d) := scale c.digits 1 c.exponent
  let v := n * i.denominator
  if i.closed then i.low * d ≤ v && v ≤ i.high * d else i.low * d < v && v < i.high * d

/-- The neighbours of `a / b` on the grid of multiples of `10 ^ x`, the nearer first. -/
def neighbours (a b : Nat) (x : Int) : List Decimal :=
  let (n, d) := scale a b (-x)
  let below : Decimal := ⟨n / d, x⟩
  let above : Decimal := ⟨n / d + 1, x⟩
  if 2 * (n % d) < d ∨ (2 * (n % d) = d ∧ n / d % 2 = 0) then [below, above] else [above, below]

/-- The decimal with the fewest digits that reads back as the nonzero double `x`. -/
def shortest (x : Binary64) : Decimal :=
  let (n, d) := x.fraction
  let interval := Interval.of x
  let point := pointPosition n d
  let grids : List Int := (List.range 17).map fun (count : Nat) => point - (count + 1)
  let hits := grids.flatMap fun e => (neighbours n d e).filter interval.holds
  hits.headD ⟨n / d, 0⟩

/-- How a decimal is written. -/
structure Notation where
  /-- A number is written positionally if its point stands behind this position ... -/
  lowest : Int
  /-- ... and not behind that one. Positions are counted from the first digit. -/
  highest : Int
  /-- The sign of an exponent that is not negative. -/
  plus : String

/-- Writes a positive decimal whose last digit is not zero. -/
def render (c : Decimal) (style : Notation) : String :=
  let ds := Nat.toDigits 10 c.digits
  let point : Int := ds.length + c.exponent
  if style.lowest < point ∧ point ≤ style.highest then
    if 0 ≤ c.exponent then
      String.ofList (ds ++ List.replicate c.exponent.toNat '0') ++ ".0"
    else if 0 < point then
      String.ofList (ds.take point.toNat ++ '.' :: ds.drop point.toNat)
    else "0." ++ String.ofList (List.replicate (-point).toNat '0' ++ ds)
  else
    let power := point - 1
    let mantissa := match ds with
      | d :: e :: rest => d :: '.' :: e :: rest
      | _ => ds
    String.ofList mantissa ++ "e" ++ (if power < 0 then "-" else style.plus)
      ++ toString power.natAbs

/-- Cuts the zeros off the end of the digits. -/
def normalize : Nat → Decimal → Decimal
  | 0, c => c
  | fuel + 1, c =>
    if c.digits ≠ 0 ∧ c.digits % 10 = 0 then normalize fuel ⟨c.digits / 10, c.exponent + 1⟩ else c

end Decimal

/-- The shortest text that reads back as the finite double. -/
def renderShortest (style : Decimal.Notation) (x : Float) : String :=
  let b := Binary64.ofFloat x
  let magnitude :=
    if b.mantissa = 0 then "0.0" else (Decimal.normalize 400 (Decimal.shortest b)).render style
  if b.negative then "-" ++ magnitude else magnitude

end NotebookKernel
