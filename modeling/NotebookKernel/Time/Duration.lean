import NotebookKernel.Number.Binary64

/-! # Lengths of time in nanoseconds -/

namespace NotebookKernel

/-- A length of time in whole nanoseconds. -/
structure Duration where
  nanos : Nat
  deriving DecidableEq, Repr, Inhabited

namespace Duration

instance : LE Duration := ⟨fun a b => a.nanos ≤ b.nanos⟩

instance (a b : Duration) : Decidable (a ≤ b) := Nat.decLe a.nanos b.nanos

def ofMillis (n : Nat) : Duration := ⟨n * 1000000⟩

def ofSeconds (n : Nat) : Duration := ⟨n * 1000000000⟩

/-- The whole seconds, rounded down. -/
def wholeSeconds (d : Duration) : Nat := d.nanos / 1000000000

/-- The length in seconds: the whole seconds plus the rest over a billion. -/
def toSeconds (d : Duration) : Float :=
  Float.ofNat d.wholeSeconds + Float.ofNat (d.nanos % 1000000000) / 1000000000.0

/-- The length of a number of seconds to the nearest nanosecond, a half going to the even one.
Negative numbers count as zero, and there is none from 2 ^ 64 seconds on. -/
def ofSecondsFloat? (x : Float) : Option Duration :=
  let b := Binary64.ofFloat x
  if b.negative then some ⟨0⟩
  else
    let (n, d) := b.fraction
    if d * Nat.pow 2 64 ≤ n then none else some ⟨roundHalfEven (n * 1000000000) d⟩

end Duration

end NotebookKernel
