import NotebookKernel.Number.Binary64

/-! # Floating-point formats

A format has so many bits for the mantissa and bounds for the exponent. Any fraction is rounded once to
the nearest number of a format, of two that are equally near to the one with the even mantissa. -/

namespace NotebookKernel

/-- A binary floating-point format. -/
structure FloatFormat where
  /-- The bits of a mantissa. -/
  precision : Nat
  /-- The exponent of the least positive number. -/
  least : Int
  /-- The exponent of the power of two that all numbers are below. -/
  bound : Int

namespace FloatFormat

def double : FloatFormat := { precision := 53, least := -1074, bound := 1024 }

/-- The format with a mantissa of 64 bits. -/
def extended : FloatFormat := { precision := 64, least := -16445, bound := 16384 }

end FloatFormat

/-- A floating-point number. -/
inductive Floating where
  /-- The number `mantissa * 2 ^ exponent`. -/
  | finite (negative : Bool) (mantissa : Nat) (exponent : Int)
  | infinite (negative : Bool)
  | undefined (negative : Bool)
  deriving DecidableEq, Repr

namespace Floating

def zero : Floating := .finite false 0 0

def isNegative : Floating → Bool
  | .finite negative _ _ => negative
  | .infinite negative => negative
  | .undefined negative => negative

def negate : Floating → Floating
  | .finite negative m e => .finite (!negative) m e
  | .infinite negative => .infinite (!negative)
  | .undefined negative => .undefined (!negative)

/-- The absolute value of a finite number as a numerator over a denominator. -/
def fraction (mantissa : Nat) (exponent : Int) : Nat × Nat :=
  if 0 ≤ exponent then (mantissa * Nat.pow 2 exponent.toNat, 1)
  else (mantissa, Nat.pow 2 (-exponent).toNat)

/-- `n * 2 ^ x` over `d`, as a numerator over a denominator. -/
def shifted (n d : Nat) (x : Int) : Nat × Nat :=
  if 0 ≤ x then (n * Nat.pow 2 x.toNat, d) else (n, d * Nat.pow 2 (-x).toNat)

/-- The exponent that the positive number `n / d` has in a format. -/
def exponentOf (f : FloatFormat) (n d : Nat) : Int :=
  let guess : Int := (n.log2 : Int) - d.log2 - (f.precision - 1)
  let (a, b) := shifted n d (-guess)
  max (if a < b * Nat.pow 2 (f.precision - 1) then guess - 1 else guess) f.least

/-- The number of a format that is nearest to `n / d`. -/
def round (f : FloatFormat) (negative : Bool) (n d : Nat) : Floating :=
  if n = 0 then .finite negative 0 0
  else
    let x := exponentOf f n d
    let (a, b) := shifted n d (-x)
    let m := roundHalfEven a b
    if f.bound < x + f.precision ∨ (f.bound = x + f.precision ∧ m = Nat.pow 2 f.precision) then
      .infinite negative
    else .finite negative m x

/-- Whether the number of a format nearest to `n / d` has fewer bits than others and is not `n / d`
itself. -/
def underflows (f : FloatFormat) (n d : Nat) : Bool :=
  n != 0 &&
    let x := exponentOf f n d
    let (a, b) := shifted n d (-x)
    x == f.least && a < b * Nat.pow 2 (f.precision - 1) && a % b != 0

/-! ## Order and arithmetic -/

/-- A finite number over a denominator. -/
def rational? : Floating → Option (Int × Nat)
  | .finite negative m e =>
    let (n, d) := fraction m e
    some (if negative then -(n : Int) else n, d)
  | _ => none

/-- Rounds a fraction with a sign. -/
def ofRational (f : FloatFormat) (n : Int) (d : Nat) : Floating := round f (n < 0) n.natAbs d

def ofInt (f : FloatFormat) (n : Int) : Floating := ofRational f n 1

def isUndefined : Floating → Bool
  | .undefined _ => true
  | _ => false

def isZero : Floating → Bool
  | .finite _ m _ => m == 0
  | _ => false

/-- Whether the first number is less. Nothing is less or greater than what is undefined. -/
def lt (x y : Floating) : Bool :=
  match x, y with
  | .undefined _, _ => false
  | _, .undefined _ => false
  | .infinite p, .infinite q => p && !q
  | .infinite p, _ => p
  | _, .infinite q => !q
  | x, y =>
    match rational? x, rational? y with
    | some (a, b), some (c, d) => a * d < c * b
    | _, _ => false

def eq (x y : Floating) : Bool := !x.isUndefined && !y.isUndefined && !lt x y && !lt y x

def le (x y : Floating) : Bool := lt x y || eq x y

def add (f : FloatFormat) (x y : Floating) : Floating :=
  match x, y with
  | .undefined p, _ => .undefined p
  | _, .undefined q => .undefined q
  | .infinite p, .infinite q => if p == q then .infinite p else .undefined true
  | .infinite p, _ => .infinite p
  | _, .infinite q => .infinite q
  | .finite p a i, .finite q b j =>
    let (n, d) := fraction a i
    let (m, e) := fraction b j
    let sum : Int := (if p then -(n * e : Int) else n * e) + (if q then -(m * d : Int) else m * d)
    if sum = 0 then .finite (p && q) 0 0 else ofRational f sum (d * e)

def sub (f : FloatFormat) (x y : Floating) : Floating := add f x y.negate

def mul (f : FloatFormat) (x y : Floating) : Floating :=
  let negative := x.isNegative != y.isNegative
  match x, y with
  | .undefined p, _ => .undefined p
  | _, .undefined q => .undefined q
  | .infinite _, y => if y.isZero then .undefined true else .infinite negative
  | x, .infinite _ => if x.isZero then .undefined true else .infinite negative
  | .finite _ a i, .finite _ b j =>
    let (n, d) := fraction a i
    let (m, e) := fraction b j
    round f negative (n * m) (d * e)

def div (f : FloatFormat) (x y : Floating) : Floating :=
  let negative := x.isNegative != y.isNegative
  match x, y with
  | .undefined p, _ => .undefined p
  | _, .undefined q => .undefined q
  | .infinite _, .infinite _ => .undefined true
  | .infinite _, _ => .infinite negative
  | _, .infinite _ => .finite negative 0 0
  | .finite _ a i, .finite _ b j =>
    let (n, d) := fraction a i
    let (m, e) := fraction b j
    if m = 0 then if n = 0 then .undefined true else .infinite negative
    else round f negative (n * e) (d * m)

/-- The integer that is left of a finite number without its places. -/
def truncate? (x : Floating) : Option Int := (rational? x).map fun (n, d) => n.tdiv d

/-- What is left over when whole multiples of `y` are taken from `x`. -/
def rem (f : FloatFormat) (x y : Floating) : Floating :=
  match x, y with
  | .undefined p, _ => .undefined p
  | _, .undefined q => .undefined q
  | .infinite _, _ => .undefined true
  | x, .infinite _ => x
  | .finite p a i, .finite _ b j =>
    let (n, d) := fraction a i
    let (m, e) := fraction b j
    if m = 0 then .undefined true else round f p ((n * e) % (m * d)) (d * e)

end Floating

end NotebookKernel
