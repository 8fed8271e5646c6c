/-! # Double-precision numbers as exact fractions

A finite double is `mantissa * 2 ^ exponent`, up to its sign. Texts of doubles are computed from this
form in exact arithmetic. -/

namespace NotebookKernel

/-- A finite double, taken apart. -/
structure Binary64 where
  negative : Bool
  mantissa : Nat
  exponent : Int
  /-- The double below is only half as far away as the one above: the mantissa is the least of its
  binade. -/
  narrowBelow : Bool
  deriving DecidableEq, Repr

namespace Binary64

/-- Takes a finite double apart. -/
def ofFloat (x : Float) : Binary64 :=
  let bits : Nat := x.toBits.toNat
  let fraction : Nat := bits % Nat.pow 2 52
  let biased : Nat := bits / Nat.pow 2 52 % Nat.pow 2 11
  { negative := Nat.pow 2 63 ≤ bits
    mantissa := if biased = 0 then fraction else Nat.pow 2 52 + fraction
    exponent := if biased = 0 then -1074 else (biased : Int) - 1075
    narrowBelow := fraction = 0 && 1 < biased }

/-- The absolute value as a numerator over a denominator. -/
def fraction (x : Binary64) : Nat × Nat :=
  if 0 ≤ x.exponent then (x.mantissa * Nat.pow 2 x.exponent.toNat, 1)
  else (x.mantissa, Nat.pow 2 (-x.exponent).toNat)

end Binary64

end NotebookKernel

/-! ## Rounding a quotient

`roundHalfEven a b` is the integer nearest to `a / b`; of two that are equally near, the even one. A
double with two decimal places is rounded so, once, from its exact binary value. -/

namespace NotebookKernel

/-- The integer nearest to `a / b`, the even one in case of a tie. -/
def roundHalfEven (a b : Nat) : Nat :=
  let q := a / b
  let r := a % b
  if b < 2 * r ∨ (2 * r = b ∧ q % 2 = 1) then q + 1 else q

/-- The result is at most half a unit away from the quotient. -/
theorem roundHalfEven_near {a b : Nat} (hb : 0 < b) :
    2 * (b * roundHalfEven a b) ≤ 2 * a + b ∧ 2 * a ≤ 2 * (b * roundHalfEven a b) + b := by
  have hdiv := Nat.div_add_mod a b
  have hmod := Nat.mod_lt a hb
  unfold roundHalfEven
  simp only
  split
  · rw [Nat.mul_add]; omega
  · omega

/-- A number of hundredths with a point before its last two digits. -/
def renderHundredths (n : Nat) : String :=
  let rest := n % 100
  toString (n / 100) ++ "." ++ (if rest < 10 then "0" else "") ++ toString rest

/-- The finite double, not negative, with two decimal places. -/
def renderFixed2 (x : Float) : String :=
  let (n, d) := (Binary64.ofFloat x).fraction
  renderHundredths (roundHalfEven (100 * n) d)

end NotebookKernel
