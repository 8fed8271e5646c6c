import NotebookKernel.Magic.Timing

/-!
# Work that is made of requests

`Evaluator.Uniform` is a relation between the actions of two evaluators that holds of every request and
is kept by composition. Then it holds of all that is done in the course of a capture.
-/

namespace NotebookKernel

variable {σ τ α : Type}

/-- A relation between the actions of two evaluators that holds of every request made in the course of
a capture, and that is kept by composition. -/
structure Evaluator.Uniform (R : {α : Type} → Act σ α → Act τ α → Prop) (ev : Evaluator σ)
    (ev' : Evaluator τ) : Prop where
  pure {α : Type} (a : α) : R (Pure.pure a) (Pure.pure a)
  bind {α β : Type} {act : Act σ α} {act' : Act τ α} {next : α → Act σ β} {next' : α → Act τ β} :
    R act act' → (∀ a, R (next a) (next' a)) → R (act >>= next) (act' >>= next')
  onPanic {α : Type} {act : Act σ α} {act' : Act τ α} {cleanup : Act σ Unit}
    {cleanup' : Act τ Unit} :
    R act act' → R cleanup cleanup' → R (act.onPanic cleanup) (act'.onPanic cleanup')
  runStatements (code : String) : R (ev.runStatements code) (ev'.runStatements code)
  evalExpression (code : String) : R (ev.evalExpression code) (ev'.evalExpression code)
  isExpression (line : String) : R (ev.isExpression line) (ev'.isExpression line)
  beginCapture : R ev.beginCapture ev'.beginCapture
  endCapture : R ev.endCapture ev'.endCapture
  takePlot : R ev.takePlot ev'.takePlot
  runIsolated (code file : String) : R (ev.runIsolated code file) (ev'.runIsolated code file)
  timeStatements (code : String) (loops : Nat) :
    R (ev.timeStatements code loops) (ev'.timeStatements code loops)

namespace Evaluator.Uniform

variable {R : {α : Type} → Act σ α → Act τ α → Prop} {ev : Evaluator σ} {ev' : Evaluator τ}

theorem capture (h : Uniform R ev ev') {work : Act σ (Except Failure α)}
    {work' : Act τ (Except Failure α)} (hwork : R work work') :
    R (ev.capture work) (ev'.capture work') := by
  have hcollect : R ev.collect ev'.collect := by
    refine h.bind h.endCapture fun streams => ?_
    cases streams <;> exact h.pure _
  refine h.bind h.beginCapture fun begun => ?_
  cases begun with
  | error failure => exact h.pure _
  | ok =>
    refine h.bind (h.onPanic hwork (h.bind hcollect fun _ => h.pure _)) fun outcome => ?_
    exact h.bind hcollect fun streams => h.bind h.takePlot fun plot => h.pure _

theorem runShape (h : Uniform R ev ev') (code : String) (shape : Source.Shape) :
    R (ev.runShape code shape) (ev'.runShape code shape) := by
  cases shape with
  | statements =>
    refine h.bind (h.runStatements code) fun result => ?_
    cases result <;> exact h.pure _
  | expression setup final =>
    cases setup with
    | none => exact h.evalExpression final
    | some setup =>
      refine h.bind (h.runStatements setup) fun result => ?_
      cases result with
      | ok => exact h.evalExpression final
      | error failure => exact h.pure _

theorem runCode (h : Uniform R ev ev') (code : String) : R (ev.runCode code) (ev'.runCode code) := by
  refine h.bind ?_ fun shape => h.capture (h.runShape code shape)
  unfold Source.shape
  cases Source.candidate? code with
  | none => exact h.pure _
  | some c =>
    refine h.bind (h.isExpression c.final) fun accepted => ?_
    cases accepted <;> exact h.pure _

theorem firstLongEnough (h : Uniform R ev ev') (code : String) (n : Timing.LoopCount) :
    R (Timing.firstLongEnough ev code n) (Timing.firstLongEnough ev' code n) := by
  induction n using Timing.LoopCount.climb with | step n ih =>
  rw [Timing.firstLongEnough.eq_def ev, Timing.firstLongEnough.eq_def ev']
  refine h.bind (h.timeStatements code n.value) fun result => ?_
  cases result with
  | error failure => exact h.pure _
  | ok elapsed =>
    dsimp only
    split
    · exact h.pure _
    · next hmore => exact ih (Nat.lt_of_not_le (not_or.mp hmore).2)

theorem samples (h : Uniform R ev ev') (code : String) (loops count : Nat) :
    R (Timing.samples ev code loops count) (Timing.samples ev' code loops count) := by
  induction count with
  | zero => exact h.pure _
  | succ count ih =>
    refine h.bind (h.timeStatements code loops) fun result => ?_
    cases result with
    | error failure => exact h.pure _
    | ok elapsed =>
      refine h.bind ih fun rest => ?_
      cases rest <;> exact h.pure _

theorem measure (h : Uniform R ev ev') (code : String) :
    R (Timing.measure ev code) (Timing.measure ev' code) := by
  refine h.bind (h.firstLongEnough code _) fun loops => ?_
  cases loops with
  | error failure => exact h.pure _
  | ok loops =>
    refine h.bind (h.samples code loops _) fun durations => ?_
    cases durations <;> exact h.pure _

end Evaluator.Uniform

end NotebookKernel
