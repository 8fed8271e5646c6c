import NotebookKernel.Capture
import NotebookKernel.Number.Binary64

/-! # Timing code

`wallTime` runs code once and adds how long that took. `timeit` finds a number of loops that takes
long enough to be measured, repeats the measurement and reports the median and the deviation. -/

namespace NotebookKernel.Timing

open KernelM

variable {σ : Type}

/-- A measurement has to take this long to count. -/
def target : Duration := .ofMillis 200

/-- The number of loops that is enough for code of any speed. -/
def maxLoops : Nat := 10000000

/-- How often the measurement is repeated. -/
def repeats : Nat := 5

/-- How often a base is taken. -/
inductive Multiplier where
  | one
  | two
  | five
  deriving DecidableEq, Repr

def Multiplier.value : Multiplier → Nat
  | .one => 1
  | .two => 2
  | .five => 5

/-- A number of loops to be tried: so many times a base. -/
structure LoopCount where
  base : Nat
  multiplier : Multiplier
  base_pos : 0 < base
  deriving DecidableEq, Repr

namespace LoopCount

def value (n : LoopCount) : Nat := n.base * n.multiplier.value

def first : LoopCount := ⟨1, .one, Nat.one_pos⟩

/-- The number that is tried next: after five times a base comes the base that is ten times as great. -/
def next (n : LoopCount) : LoopCount :=
  match n.multiplier with
  | .one => { n with multiplier := .two }
  | .two => { n with multiplier := .five }
  | .five => ⟨n.base * 10, .one, Nat.mul_pos n.base_pos (by decide)⟩

theorem value_lt_value_next (n : LoopCount) : n.value < n.next.value := by
  obtain ⟨base, multiplier, hpos⟩ := n
  cases multiplier <;> simp only [value, next, Multiplier.value] <;> omega

theorem value_next_le (n : LoopCount) : n.next.value ≤ 3 * n.value := by
  obtain ⟨base, multiplier, hpos⟩ := n
  cases multiplier <;> simp only [value, next, Multiplier.value] <;> omega

/-- What holds of a number if it holds of the next one, as long as there is more to try, holds of all. -/
theorem climb {motive : LoopCount → Prop}
    (step : ∀ n : LoopCount, (n.value < maxLoops → motive n.next) → motive n) (n : LoopCount) :
    motive n :=
  step n fun _ => climb step n.next
termination_by maxLoops - n.value
decreasing_by exact Nat.sub_lt_sub_left ‹_› n.value_lt_value_next

end LoopCount

/-- Tries one number of loops after another, without end, and gives the first that takes long enough or
that is great enough for any code. -/
def firstLongEnough (ev : Evaluator σ) (code : String) (n : LoopCount) :
    Act σ (Except Failure Nat) := do
  match ← ev.timeStatements code n.value with
  | .error failure => pure (.error failure)
  | .ok elapsed =>
    if _ : target ≤ elapsed ∨ maxLoops ≤ n.value then pure (.ok n.value)
    else firstLongEnough ev code n.next
termination_by maxLoops - n.value
decreasing_by
  exact Nat.sub_lt_sub_left (Nat.lt_of_not_le (not_or.mp ‹¬_›).2) n.value_lt_value_next

/-- Takes a number of measurements, up to the first that fails. -/
def samples (ev : Evaluator σ) (code : String) (loops : Nat) :
    Nat → Act σ (Except Failure (List Duration))
  | 0 => pure (.ok [])
  | count + 1 => do
    match ← ev.timeStatements code loops with
    | .error failure => pure (.error failure)
    | .ok elapsed =>
      match ← samples ev code loops count with
      | .error failure => pure (.error failure)
      | .ok rest => pure (.ok (elapsed :: rest))

/-- The result of a timing run, in seconds for one loop. -/
structure Report where
  median : Float
  deviation : Float
  runs : Nat
  loops : Nat

/-- The median and the standard deviation of an odd number of measurements. -/
def Report.ofSamples (durations : List Duration) (loops : Nat) : Report :=
  let times := durations.map fun d => d.toSeconds / Float.ofNat loops
  let sorted := times.mergeSort fun a b => decide (a.toBits ≤ b.toBits)
  let count := Float.ofNat times.length
  let mean := times.foldl (· + ·) 0.0 / count
  let variance := (times.map fun t => (t - mean) * (t - mean)).foldl (· + ·) 0.0 / count
  { median := sorted.getD (sorted.length / 2) 0.0
    deviation := variance.sqrt
    runs := times.length
    loops }

/-- Seconds in the greatest unit in which they come to at least 1, or else in nanoseconds. -/
def renderSeconds (x : Float) : String :=
  if x < 1e-6 then renderFixed2 (x * 1e9) ++ " ns"
  else if x < 1e-3 then renderFixed2 (x * 1e6) ++ " µs"
  else if x < 1.0 then renderFixed2 (x * 1e3) ++ " ms"
  else renderFixed2 x ++ " s"

def Report.render (r : Report) : String :=
  renderSeconds r.median ++ " ± " ++ renderSeconds r.deviation
    ++ " per loop (median ± std. dev. of " ++ toString r.runs ++ " runs, " ++ toString r.loops
    ++ (if r.loops = 1 then " loop each)" else " loops each)")

/-- Finds the number of loops and measures with it. -/
def measure (ev : Evaluator σ) (code : String) : Act σ (Except Failure Report) := do
  match ← firstLongEnough ev code .first with
  | .error failure => pure (.error failure)
  | .ok loops =>
    match ← samples ev code loops repeats with
    | .error failure => pure (.error failure)
    | .ok durations => pure (.ok (.ofSamples durations loops))

/-- Reports the time that one loop of the code takes. What the code prints is dropped. -/
def timeit (p : Platform σ) (code : String) : KernelM σ Output := do
  if Text.isBlankText code then pure (.error "timeit: no code to time")
  else
    let captured ← onMachine (p.evaluator.capture (measure p.evaluator code))
    match captured.outcome with
    | .ok report => pure (.text report.render)
    | .error failure => pure (.ofFailure failure)

/-- The line that tells how long a cell took. -/
def wallTimeLine (elapsed : Duration) : String :=
  "Wall time: " ++ renderFixed2 (elapsed.toSeconds * 1000.0) ++ " ms"

/-- Puts the line at the end of an output's content. -/
def withWallTime (elapsed : Duration) (o : Output) : Output :=
  let line := wallTimeLine elapsed
  { o with content := if o.content.isEmpty then line else o.content ++ "\n" ++ line }

/-- Runs plain code and adds how long it took. -/
def wallTime (p : Platform σ) (code : String) : KernelM σ Output := do
  let start ← onMachine (Act.ofUpdate p.host.monotonic)
  let output ← Kernel.runCode p code
  let stop ← onMachine (Act.ofUpdate p.host.monotonic)
  pure (withWallTime ⟨stop.nanos - start.nanos⟩ output)

end NotebookKernel.Timing
