import NotebookKernel.Proofs.Evaluator.Ends
import NotebookKernel.Proofs.Evaluator.LoopCounts
import NotebookKernel.Proofs.Kernel.Traces

/-!
# Captures are closed

In the course of a cell there is at most one capture. `Evaluator.Framed` is the record of a capture: its
begin, then user code up to the first failure, its end, and perhaps a request for the plot.
`Evaluator.Disciplined` is the record of a cell: requests that have nothing to do with captures, around
at most one capture. `Kernel.disciplined_execute` says that every cell has such a record, also one that
panics, and that no capture stays open between cells.
-/

namespace NotebookKernel

open Act hiding pure

variable {σ α β : Type}

namespace Command

/-- Whether a command runs code of the user. -/
def runsCode : Command → Bool
  | .exec _ => true
  | .eval _ => true
  | .runFile .. => true
  | .time .. => true
  | _ => false

/-- Whether a command belongs to a capture. -/
def isCapturing : Command → Bool
  | .captureBegin => true
  | .captureEnd => true
  | .plot => true
  | c => c.runsCode

end Command

namespace Evaluator

variable (ev : Evaluator σ)

/-- Whether a request that belongs to a capture was carried out. -/
def succeeded (a : Asked σ) : Bool :=
  match a.command with
  | .exec code => (ev.runStatements code a.before).1.any Except.isOk
  | .eval code => (ev.evalExpression code a.before).1.any Except.isOk
  | .runFile code file => (ev.runIsolated code file a.before).1.any Except.isOk
  | .time code loops => (ev.timeStatements code loops.toNat a.before).1.any Except.isOk
  | .captureBegin => (ev.beginCapture a.before).1.any Except.isOk
  | .captureEnd => (ev.endCapture a.before).1.any Except.isOk
  | .plot => (ev.takePlot a.before).1.any Except.isOk
  | _ => false

/-- User code that is run piece by piece up to the first one that fails or panics, and whether all of
them were carried out. -/
inductive Work : Bool → List (Asked σ) → Prop
  | nil : Work true []
  | failed {a : Asked σ} : a.command.runsCode = true → ev.succeeded a = false → Work false [a]
  | cons {a : Asked σ} {ok : Bool} {rest : List (Asked σ)} :
    a.command.runsCode = true → ev.succeeded a = true → Work ok rest → Work ok (a :: rest)

/-- What is asked once the user code has ended: the end of the capture and perhaps the plot. -/
inductive Closing : List (Asked σ) → Prop
  | bare {last : Asked σ} : last.command = .captureEnd → Closing [last]
  | plot {last plot : Asked σ} :
    last.command = .captureEnd → plot.command = .plot → Closing [last, plot]

/-- What is asked in the course of one capture. -/
inductive Framed : List (Asked σ) → Prop
  /-- The capture could not begin, and nothing else was done. -/
  | refused {first : Asked σ} :
    first.command = .captureBegin → ev.succeeded first = false → Framed [first]
  | closed {first : Asked σ} {ok : Bool} {work closing : List (Asked σ)} :
    first.command = .captureBegin → ev.succeeded first = true → ev.Work ok work →
    Closing closing → Framed (first :: (work ++ closing))

/-- What is asked in the course of a cell: at most one capture, among requests that belong to none. -/
def Disciplined (asked : List (Asked σ)) : Prop :=
  ∃ before capture after, asked = before ++ capture ++ after ∧
    (∀ a ∈ before, a.command.isCapturing = false) ∧ (∀ a ∈ after, a.command.isCapturing = false) ∧
    (capture = [] ∨ ev.Framed capture)

variable {ev}

theorem Work.append {ok : Bool} {earlier later : List (Asked σ)} (h : ev.Work true earlier)
    (hlater : ev.Work ok later) : ev.Work ok (earlier ++ later) := by
  generalize htrue : true = allOk at h
  induction h with
  | nil => exact hlater
  | failed => cases htrue
  | cons hcode hok _ ih => exact .cons hcode hok (ih htrue)

theorem work_singleton {a : Asked σ} (h : a.command.runsCode = true) :
    ev.Work (ev.succeeded a) [a] := by
  cases hok : ev.succeeded a with
  | true => exact .cons h hok .nil
  | false => exact .failed h hok

/-! ## The record of user code -/

theorem PassedOn.any_isOk {first : Option (Except Failure α)} {result : Option (Except Failure β)}
    (h : PassedOn first result) : first.any Except.isOk = result.any Except.isOk := by
  cases h <;> rfl

/-- Work stops at its first failure. -/
theorem Then.work {asked : List (Asked σ)} {result : Option (Except Failure β)}
    (h : Then (fun added (first : Option (Except Failure α)) => ev.Work (first.any Except.isOk) added)
      (fun _ added result => ev.Work (result.any Except.isOk) added) asked result) :
    ev.Work (result.any Except.isOk) asked := by
  cases h with
  | passedOn hfirst hpassed => exact hpassed.any_isOk ▸ hfirst
  | followed hfirst hlater => exact hfirst.append hlater

theorem traces_work_bind {act' : Act (σ × List (Asked σ)) (Except Failure α)}
    {act : Act σ (Except Failure α)}
    {next' : Except Failure α → Act (σ × List (Asked σ)) (Except Failure β)}
    {next : Except Failure α → Act σ (Except Failure β)}
    (h : Traces Prod.mk (fun _ added r => ev.Work (r.1.any Except.isOk) added) act' act)
    (hok : ∀ a, Traces Prod.mk (fun _ added r => ev.Work (r.1.any Except.isOk) added)
      (next' (.ok a)) (next (.ok a)))
    (herror : ∀ failure, next' (.error failure) = Pure.pure (.error failure) ∧
      next (.error failure) = Pure.pure (.error failure)) :
    Traces Prod.mk (fun _ added r => ev.Work (r.1.any Except.isOk) added) (act' >>= next')
      (act >>= next) :=
  (traces_then h (fun _ a _ => hok a) herror).mono fun _ _ _ h => h.work

theorem traces_runStatements (code : String) :
    Traces Prod.mk (fun _ added r => ev.Work (r.1.any Except.isOk) added)
      (ev.recorded.runStatements code) (ev.runStatements code) :=
  traces_recorded _ fun s => work_singleton (a := ⟨.exec code, s⟩) rfl

theorem traces_evalExpression (code : String) :
    Traces Prod.mk (fun _ added r => ev.Work (r.1.any Except.isOk) added)
      (ev.recorded.evalExpression code) (ev.evalExpression code) :=
  traces_recorded _ fun s => work_singleton (a := ⟨.eval code, s⟩) rfl

theorem traces_runIsolated (code file : String) :
    Traces Prod.mk (fun _ added r => ev.Work (r.1.any Except.isOk) added)
      (ev.recorded.runIsolated code file) (ev.runIsolated code file) :=
  traces_recorded _ fun s => work_singleton (a := ⟨.runFile code file, s⟩) rfl

theorem traces_runShape (code : String) (shape : Source.Shape) :
    Traces Prod.mk (fun _ added r => ev.Work (r.1.any Except.isOk) added)
      (ev.recorded.runShape code shape) (ev.runShape code shape) := by
  cases shape with
  | statements =>
    exact traces_work_bind (traces_runStatements code) (fun _ => traces_pure fun _ => .nil)
      fun _ => ⟨rfl, rfl⟩
  | expression setup final =>
    cases setup with
    | none => exact traces_evalExpression final
    | some setup =>
      exact traces_work_bind (traces_runStatements setup) (fun _ => traces_evalExpression final)
        fun _ => ⟨rfl, rfl⟩

/-! Timings are user code as well. -/

theorem work_of_forall {asked : List (Asked σ)}
    (h : ∀ a ∈ asked, a.command.runsCode = true ∧ ev.succeeded a = true) : ev.Work true asked := by
  induction asked with
  | nil => exact .nil
  | cons a asked ih =>
    rw [List.forall_mem_cons] at h
    exact .cons h.1.1 h.1.2 (ih h.2)

theorem succeeded_of_time {a : Asked σ} {code : String} {loops : UInt64}
    (h : a.command = .time code loops) : ev.succeeded a = (ev.timing? a).any Except.isOk := by
  simp only [succeeded, timing?, h]

theorem work_of_time {a : Asked σ} {code : String} {loops : UInt64} (h : a.command = .time code loops) :
    ev.Work ((ev.timing? a).any Except.isOk) [a] := by
  rw [← succeeded_of_time h]
  exact work_singleton (by rw [h]; rfl)

theorem Dismissed.work {code : String} {i : Nat} {asked : List (Asked σ)}
    (h : ev.Dismissed code i asked) : ev.Work true asked := by
  refine work_of_forall fun a ha => ?_
  have hcommand : a.command ∈ asked.map Asked.command := List.mem_map_of_mem ha
  rw [h.commands] at hcommand
  obtain ⟨j, -, hj⟩ := List.mem_map.mp hcommand
  obtain ⟨elapsed, hanswer, -⟩ := h.tooShort a ha
  rw [succeeded_of_time hj.symm, hanswer, ← hj]
  exact ⟨rfl, rfl⟩

theorem Searched.work {code : String} {i : Nat} {asked : List (Asked σ)}
    {result : Option (Except Failure Nat)} (h : ev.Searched code i asked result) :
    ev.Work (result.any Except.isOk) asked := by
  cases h with
  | stopped _ hdismissed hlast hpassed =>
    exact hdismissed.work.append (hpassed.any_isOk ▸ work_of_time hlast)
  | found _ hdismissed hlast hanswer =>
    have hok : (ev.timing? _).any Except.isOk = true := congrArg (Option.any Except.isOk) hanswer
    have hwork : ev.Work true [_] := hok ▸ work_of_time hlast
    exact hdismissed.work.append hwork

theorem Repeated.work {code : String} {loops count : Nat} {asked : List (Asked σ)}
    {result : Option (Except Failure (List Duration))} (h : ev.Repeated code loops count asked result) :
    ev.Work (result.any Except.isOk) asked := by
  have htaken {taken : List (Asked σ)} {durations : List Duration}
      (hcommands : ∀ a ∈ taken, a.command = .time code (.ofNat loops))
      (hdurations : taken.map ev.timing? = durations.map fun elapsed => some (.ok elapsed)) :
      ev.Work true taken := by
    refine work_of_forall fun a ha => ?_
    have hanswer : ev.timing? a ∈ taken.map ev.timing? := List.mem_map_of_mem ha
    rw [hdurations] at hanswer
    obtain ⟨elapsed, -, helapsed⟩ := List.mem_map.mp hanswer
    rw [succeeded_of_time (hcommands a ha), ← helapsed, hcommands a ha]
    exact ⟨rfl, rfl⟩
  cases h with
  | stopped _ hcommands hdurations hpassed =>
    obtain ⟨hcommands, hlast⟩ := List.forall_mem_append.mp hcommands
    rw [List.forall_mem_singleton] at hlast
    exact (htaken hcommands hdurations).append (hpassed.any_isOk ▸ work_of_time hlast)
  | complete _ hcommands hdurations => exact htaken hcommands hdurations

theorem Measured.work {code : String} {asked : List (Asked σ)}
    {result : Option (Except Failure Timing.Report)} (h : ev.Measured code asked result) :
    ev.Work (result.any Except.isOk) asked := by
  cases h with
  | unfound hsearched hpassed => exact hpassed.any_isOk ▸ hsearched.work
  | unmeasured hsearched hrepeated hpassed =>
    exact hsearched.work.append (hpassed.any_isOk ▸ hrepeated.work)
  | complete hsearched hrepeated => exact hsearched.work.append hrepeated.work

/-! ## The record of a capture -/

theorem traces_collect : Traces Prod.mk (fun s added _ => added = [⟨.captureEnd, s⟩])
    ev.recorded.collect ev.collect := by
  have hend : Traces Prod.mk (fun s added _ => added = [⟨.captureEnd, s⟩]) ev.recorded.endCapture
      ev.endCapture := traces_recorded _ fun _ => rfl
  refine hend.bind (Q := fun _ _ later _ => later = []) (fun streams => ?_) (fun _ _ _ h => h)
    fun _ _ _ _ _ _ h hlater => by rw [h, hlater, List.append_nil]
  cases streams <;> exact traces_pure fun _ => rfl

/-- What a capture does once its work has ended. -/
def finish (ev : Evaluator σ) (outcome : Except Failure α) : Act σ (Captured α) := do
  let streams ← ev.collect
  let plot := match ← ev.takePlot with
    | .ok plot => plot
    | .error _ => none
  Pure.pure ⟨outcome, streams, plot⟩

theorem traces_finish (outcome : Except Failure α) :
    Traces Prod.mk (fun _ added r => Closing added ∧ ∀ c, r.1 = some c → c.outcome = outcome)
      (ev.recorded.finish outcome) (ev.finish outcome) := by
  have hplot : Traces Prod.mk (fun s added _ => added = [⟨.plot, s⟩]) ev.recorded.takePlot
      ev.takePlot := traces_recorded _ fun _ => rfl
  have hclosing : Traces Prod.mk (fun _ added _ => Closing added) (ev.recorded.finish outcome)
      (ev.finish outcome) := by
    refine traces_collect.bind (Q := fun _ t later _ => later = [⟨.plot, t⟩]) (fun streams => ?_)
      (fun _ _ _ h => h ▸ .bare rfl) fun _ _ _ _ _ _ h hlater => by
        rw [h, hlater]
        exact .plot rfl rfl
    exact hplot.bind (Q := fun _ _ later _ => later = []) (fun _ => traces_pure fun _ => rfl)
      (fun _ _ _ h => h) fun _ _ _ _ _ _ h hlater => by rw [h, hlater, List.append_nil]
  exact hclosing.gives (gives_bind fun _ => gives_bind fun _ => gives_pure rfl)

/-- What is asked in the course of a capture, and what comes of the work in it. `W` says the same of the
work alone; what came of it is lost when the end of the capture panics. -/
inductive Enclosed (ev : Evaluator σ) (W : List (Asked σ) → Option (Except Failure α) → Prop) :
    List (Asked σ) → Option (Except Failure α) → Prop
  | refused {first : Asked σ} {result : Option (Except Failure α)} :
    first.command = .captureBegin → ev.succeeded first = false → (∀ a, result ≠ some (.ok a)) →
    Enclosed ev W [first] result
  | closed {first : Asked σ} {work closing : List (Asked σ)}
      {outcome result : Option (Except Failure α)} :
    first.command = .captureBegin → ev.succeeded first = true → W work outcome → Closing closing →
    (result = none ∨ result = outcome) → Enclosed ev W (first :: (work ++ closing)) result

variable {W : List (Asked σ) → Option (Except Failure α) → Prop}

/-- A panic of the work closes the capture before it goes on. -/
theorem traces_onPanic_collect {work' : Act (σ × List (Asked σ)) (Except Failure α)}
    {work : Act σ (Except Failure α)} (h : Traces Prod.mk (fun _ added r => W added r.1) work' work) :
    Traces Prod.mk (fun _ added r =>
        match r.1 with
        | some outcome => W added (some outcome)
        | none => ∃ work closing, added = work ++ closing ∧ W work none ∧ Closing closing)
      (work'.onPanic (do let _ ← ev.recorded.collect)) (work.onPanic (do let _ ← ev.collect)) := by
  have hcleanup : Traces Prod.mk (fun s added _ => added = [⟨.captureEnd, s⟩])
      (do let _ ← ev.recorded.collect : Act (σ × List (Asked σ)) Unit)
      (do let _ ← ev.collect : Act σ Unit) :=
    traces_collect.bind (Q := fun _ _ later _ => later = []) (fun _ => traces_pure fun _ => rfl)
      (fun _ _ _ h => h) fun _ _ _ _ _ _ h hlater => by rw [h, hlater, List.append_nil]
  refine h.onPanic hcleanup (fun _ _ _ _ hw => hw) fun _ _ t _ _ hw hlater => ?_
  exact ⟨_, _, rfl, hw, hlater ▸ .bare rfl⟩

/-- What follows the begin of a capture. -/
inductive Continued (W : List (Asked σ) → Option (Except Failure α) → Prop) :
    Except Failure Unit → List (Asked σ) → Option (Except Failure α) → Prop
  | refused (failure : Failure) : Continued W (.error failure) [] (some (.error failure))
  | closed {work closing : List (Asked σ)} {outcome result : Option (Except Failure α)} :
    W work outcome → Closing closing → (result = none ∨ result = outcome) →
    Continued W (.ok ()) (work ++ closing) result

theorem traces_enclosed {work' : Act (σ × List (Asked σ)) (Except Failure α)}
    {work : Act σ (Except Failure α)} (h : Traces Prod.mk (fun _ added r => W added r.1) work' work) :
    Traces Prod.mk (fun _ added r => ev.Enclosed W added (r.1.map Captured.outcome))
      (ev.recorded.capture work') (ev.capture work) := by
  have hbegin : Traces Prod.mk (fun s added r =>
        added = [⟨.captureBegin, s⟩] ∧ r = ev.beginCapture s)
      ev.recorded.beginCapture ev.beginCapture := traces_recorded _ fun _ => ⟨rfl, rfl⟩
  refine hbegin.bind (Q := fun begun _ later r => Continued W begun later (r.1.map Captured.outcome))
    (fun begun => ?_) (fun s added t hrun => ?_) fun s earlier begun t later r hrun hlater => ?_
  · cases begun with
    | error failure => exact traces_pure fun _ => .refused failure
    | ok =>
      refine (traces_onPanic_collect h).bind traces_finish ?_ ?_
      · rintro _ _ _ ⟨work, closing, rfl, hwork, hclosing⟩
        exact .closed hwork hclosing (.inl rfl)
      · rintro _ _ outcome _ _ ⟨captured, _⟩ hwork ⟨hclosing, hsame⟩
        refine .closed hwork hclosing ?_
        cases captured with
        | none => exact .inl rfl
        | some c => exact .inr (congrArg some (hsame c rfl))
  · obtain ⟨rfl, hbegun⟩ := hrun
    refine .refused rfl ?_ fun _ h => by cases h
    rw [succeeded, ← hbegun]
    rfl
  · obtain ⟨rfl, hbegun⟩ := hrun
    generalize hresult : r.1.map Captured.outcome = result at hlater
    cases hlater with
    | refused failure =>
      refine .refused rfl ?_ fun _ h => by cases h
      rw [succeeded, ← hbegun]
      rfl
    | closed hwork hclosing hsame =>
      have hok : ev.succeeded ⟨.captureBegin, s⟩ = true := by
        rw [succeeded, ← hbegun]
        rfl
      rw [List.singleton_append]
      exact .closed rfl hok hwork hclosing hsame

theorem Enclosed.framed {asked : List (Asked σ)} {result : Option (Except Failure α)}
    (h : ev.Enclosed (fun asked outcome => ev.Work (outcome.any Except.isOk) asked) asked result) :
    ev.Framed asked := by
  cases h with
  | refused hfirst hfailed => exact .refused hfirst hfailed
  | closed hfirst hok hwork hclosing => exact .closed hfirst hok hwork hclosing

theorem traces_capture {work' : Act (σ × List (Asked σ)) (Except Failure α)}
    {work : Act σ (Except Failure α)}
    (h : Traces Prod.mk (fun _ added r => ev.Work (r.1.any Except.isOk) added) work' work) :
    Traces Prod.mk (fun _ added _ => ev.Framed added) (ev.recorded.capture work')
      (ev.capture work) :=
  (traces_enclosed (W := fun added outcome => ev.Work (outcome.any Except.isOk) added) h).mono
    fun _ _ _ henclosed => henclosed.framed

/-! ## The record of a cell -/

theorem disciplined_of_free {asked : List (Asked σ)}
    (h : ∀ a ∈ asked, a.command.isCapturing = false) : ev.Disciplined asked :=
  ⟨asked, [], [], by simp, h, by simp, .inl rfl⟩

theorem disciplined_of_framed {asked : List (Asked σ)} (h : ev.Framed asked) :
    ev.Disciplined asked :=
  ⟨[], asked, [], by simp, by simp, by simp, .inr h⟩

theorem Disciplined.append_free {earlier later : List (Asked σ)} (h : ev.Disciplined earlier)
    (hlater : ∀ a ∈ later, a.command.isCapturing = false) : ev.Disciplined (earlier ++ later) := by
  obtain ⟨before, capture, after, rfl, hbefore, hafter, hcapture⟩ := h
  refine ⟨before, capture, after ++ later, by simp only [List.append_assoc], hbefore, ?_, hcapture⟩
  exact List.forall_mem_append.mpr ⟨hafter, hlater⟩

theorem Disciplined.free_append {earlier later : List (Asked σ)}
    (hearlier : ∀ a ∈ earlier, a.command.isCapturing = false) (h : ev.Disciplined later) :
    ev.Disciplined (earlier ++ later) := by
  obtain ⟨before, capture, after, rfl, hbefore, hafter, hcapture⟩ := h
  refine ⟨earlier ++ before, capture, after, by simp only [List.append_assoc], ?_, hafter, hcapture⟩
  exact List.forall_mem_append.mpr ⟨hearlier, hbefore⟩

theorem traces_shape (code : String) :
    Traces Prod.mk (fun _ added _ => ∀ a ∈ added, a.command.isCapturing = false)
      (Source.shape ev.recorded.isExpression code) (Source.shape ev.isExpression code) := by
  unfold Source.shape
  cases Source.candidate? code with
  | none => exact traces_pure fun _ _ h => by cases h
  | some c =>
    have hprobe : Traces Prod.mk (fun s added _ => added = [⟨.probe c.final, s⟩])
        (ev.recorded.isExpression c.final) (ev.isExpression c.final) := traces_recorded _ fun _ => rfl
    refine hprobe.bind (Q := fun _ _ later _ => later = []) (fun accepted => ?_)
      (fun _ _ _ h => by rw [h]; exact List.forall_mem_singleton.mpr rfl)
      fun _ _ _ _ _ _ h hlater => by
        rw [h, hlater, List.append_nil]
        exact List.forall_mem_singleton.mpr rfl
    cases accepted <;> exact traces_pure fun _ => rfl

theorem traces_runCode (code : String) :
    Traces Prod.mk (fun _ added _ => ev.Disciplined added) (ev.recorded.runCode code)
      (ev.runCode code) :=
  (traces_shape code).bind (fun shape => traces_capture (traces_runShape code shape))
    (fun _ _ _ hfree => disciplined_of_free hfree) fun _ _ _ _ _ _ hfree hframed =>
      (disciplined_of_framed hframed).free_append hfree

end Evaluator

namespace Kernel

variable {p : Platform σ}

/-- Whatever the kernel does besides captures has nothing to do with them. -/
theorem chronicle_free (p : Platform σ) :
    Chronicle p fun _ asked _ => ∀ a ∈ asked, a.command.isCapturing = false where
  nil _ _ h := by cases h
  append h h' := List.forall_mem_append.mpr ⟨h, h'⟩
  run _ _ _ h := by cases h
  createDirectories _ _ _ h := by cases h
  writeFile _ _ _ _ h := by cases h
  monotonic _ _ h := by cases h
  bindings _ := List.forall_mem_singleton.mpr rfl
  setDirectory _ _ := List.forall_mem_singleton.mpr rfl
  setVariable _ _ _ := List.forall_mem_singleton.mpr rfl
  reset _ := List.forall_mem_singleton.mpr rfl
  context _ _ _ _ h := by cases h

theorem surrounds_disciplined (ev : Evaluator σ) :
    Surrounds (fun (_ : Kernel σ) asked _ => ∀ a ∈ asked, a.command.isCapturing = false)
      fun _ asked _ => ev.Disciplined asked where
  quiet := Evaluator.disciplined_of_free
  before hfree h := h.free_append hfree
  after h hfree := h.append_free hfree

theorem captures_disciplined (p : Platform σ) :
    Captures p fun _ asked _ => p.evaluator.Disciplined asked where
  runCode code := KernelM.traces_onMachine (Evaluator.traces_runCode code) fun _ _ _ _ h => h
  runIsolated code file :=
    KernelM.traces_onMachine (Evaluator.traces_capture (Evaluator.traces_runIsolated code file))
      fun _ _ _ _ h => Evaluator.disciplined_of_framed h
  measure code :=
    KernelM.traces_onMachine
      (Evaluator.traces_capture ((Evaluator.traces_measured code).mono fun _ _ _ h => h.work))
      fun _ _ _ _ h => Evaluator.disciplined_of_framed h

end Kernel

/-! ## The number of captures that are open -/

/-- `depth` is the number of captures that are open. One is opened by a begin that is carried out and
closed by an end, also by one that reports a failure. Nothing else opens or closes any. -/
structure Platform.Nests (p : Platform σ) (depth : σ → Nat) : Prop where
  beginCapture : ∀ s, depth (p.evaluator.beginCapture s).2 =
    if (p.evaluator.beginCapture s).1.any Except.isOk then depth s + 1 else depth s
  endCapture : ∀ s, depth (p.evaluator.endCapture s).2 = depth s - 1
  takePlot : ∀ s, depth (p.evaluator.takePlot s).2 = depth s
  runStatements : ∀ code s, depth (p.evaluator.runStatements code s).2 = depth s
  evalExpression : ∀ code s, depth (p.evaluator.evalExpression code s).2 = depth s
  isExpression : ∀ line s, depth (p.evaluator.isExpression line s).2 = depth s
  runIsolated : ∀ code file s, depth (p.evaluator.runIsolated code file s).2 = depth s
  timeStatements : ∀ code loops s, depth (p.evaluator.timeStatements code loops s).2 = depth s
  bindings : ∀ s, depth (p.evaluator.bindings s).2 = depth s
  reset : ∀ preload s, depth (p.evaluator.reset preload s).2 = depth s
  setDirectory : ∀ path s, depth (p.evaluator.setDirectory path s).2 = depth s
  setVariable : ∀ key value s, depth (p.evaluator.setVariable key value s).2 = depth s
  run : ∀ launch s, depth (p.host.run launch s).2 = depth s
  createDirectories : ∀ dir s, depth (p.host.createDirectories dir s).2 = depth s
  writeFile : ∀ path bytes s, depth (p.host.writeFile path bytes s).2 = depth s
  monotonic : ∀ s, depth (p.host.monotonic s).2 = depth s

namespace Evaluator

variable (ev : Evaluator σ)

/-- The number of open captures after a request. -/
def depthAfter (depth : Nat) (a : Asked σ) : Nat :=
  match a.command with
  | .captureBegin => if ev.succeeded a then depth + 1 else depth
  | .captureEnd => depth - 1
  | _ => depth

variable {ev}

theorem foldl_depthAfter_of_forall {asked : List (Asked σ)}
    (h : ∀ a ∈ asked, a.command ≠ .captureBegin ∧ a.command ≠ .captureEnd) (depth : Nat) :
    asked.foldl ev.depthAfter depth = depth := by
  induction asked with
  | nil => rfl
  | cons a rest ih =>
    rw [List.forall_mem_cons] at h
    have hsame : ev.depthAfter depth a = depth := by
      unfold depthAfter
      split
      · next hcommand => exact absurd hcommand h.1.1
      · next hcommand => exact absurd hcommand h.1.2
      · rfl
    rw [List.foldl_cons, hsame, ih h.2]

theorem foldl_depthAfter_of_free {asked : List (Asked σ)}
    (h : ∀ a ∈ asked, a.command.isCapturing = false) (depth : Nat) :
    asked.foldl ev.depthAfter depth = depth := by
  refine foldl_depthAfter_of_forall (fun a ha => ?_) depth
  have hfree := h a ha
  constructor <;> intro hcommand <;> rw [hcommand] at hfree <;> cases hfree

theorem Work.foldl_depthAfter {ok : Bool} {asked : List (Asked σ)} (h : ev.Work ok asked)
    (depth : Nat) : asked.foldl ev.depthAfter depth = depth := by
  refine foldl_depthAfter_of_forall (fun a ha => ?_) depth
  have hcode : a.command.runsCode = true := by
    induction h with
    | nil => cases ha
    | failed hcode _ =>
      rw [List.mem_singleton.mp ha]
      exact hcode
    | cons hcode _ _ ih =>
      rcases List.mem_cons.mp ha with rfl | ha
      · exact hcode
      · exact ih ha
  constructor <;> intro hcommand <;> rw [hcommand] at hcode <;> cases hcode

theorem Closing.foldl_depthAfter {asked : List (Asked σ)} (h : Closing asked) (depth : Nat) :
    asked.foldl ev.depthAfter (depth + 1) = depth := by
  cases h with
  | bare hlast => simp [depthAfter, hlast]
  | plot hlast hplot => simp [depthAfter, hlast, hplot]

/-- After a whole cell as many captures are open as before. -/
theorem Disciplined.foldl_depthAfter {asked : List (Asked σ)} (h : ev.Disciplined asked)
    (depth : Nat) : asked.foldl ev.depthAfter depth = depth := by
  obtain ⟨before, capture, after, rfl, hbefore, hafter, hcapture⟩ := h
  have hframed : capture.foldl ev.depthAfter depth = depth := by
    rcases hcapture with rfl | hframed
    · rfl
    cases hframed with
    | refused hfirst hfailed => simp [depthAfter, hfirst, hfailed]
    | closed hfirst hok hwork hclosing =>
      have hopened : ∀ a : Asked σ, a.command = .captureBegin → ev.succeeded a = true →
          ev.depthAfter depth a = depth + 1 := fun a ha hok => by simp [depthAfter, ha, hok]
      rw [List.foldl_cons, hopened _ hfirst hok, List.foldl_append, hwork.foldl_depthAfter,
        hclosing.foldl_depthAfter]
  rw [List.foldl_append, List.foldl_append, foldl_depthAfter_of_free hbefore, hframed,
    foldl_depthAfter_of_free hafter]

end Evaluator

namespace Kernel

variable {p : Platform σ}

theorem chronicle_depth {depth : σ → Nat} (h : p.Nests depth) : Chronicle p fun k asked k' =>
    depth k'.machine = asked.foldl p.evaluator.depthAfter (depth k.machine) where
  nil _ := rfl
  append hearlier hlater := by rw [hlater, hearlier, List.foldl_append]
  run launch k := h.run launch k.machine
  createDirectories dir k := h.createDirectories dir k.machine
  writeFile path bytes k := h.writeFile path bytes k.machine
  monotonic k := h.monotonic k.machine
  bindings k := h.bindings k.machine
  setDirectory path k := by
    rw [machine_directed]
    exact h.setDirectory path k.machine
  setVariable key value k := by
    rw [machine_assigned]
    exact h.setVariable key value k.machine
  reset k := h.reset k.context.config.preload k.machine
  context _ _ _ := rfl

theorem requests_depth {depth : σ → Nat} (h : p.Nests depth) : Requests p fun k asked k' =>
    depth k'.machine = asked.foldl p.evaluator.depthAfter (depth k.machine) where
  runStatements code k := h.runStatements code k.machine
  evalExpression code k := h.evalExpression code k.machine
  isExpression line k := h.isExpression line k.machine
  beginCapture k := h.beginCapture k.machine
  endCapture k := h.endCapture k.machine
  takePlot k := h.takePlot k.machine
  runIsolated code file k := h.runIsolated code file k.machine
  timeStatements code loops k := h.timeStatements code loops k.machine

theorem depth_next {depth : σ → Nat} (h : p.Nests depth) (op : Operation) (k : Kernel σ) :
    depth (op.next p k).machine = depth k.machine := by
  have hdisciplined := (chronicle_free p).perform (surrounds_disciplined p.evaluator)
    (captures_disciplined p) op
  have hdepth := (chronicle_depth h).perform (chronicle_depth h).surrounds
    ((chronicle_depth h).captures (requests_depth h)) op
  obtain ⟨asked, -, hasked, hfold⟩ := hdisciplined.and
    (fun _ _ _ heq => congrArg (fun k => k.machine.2) heq) hdepth k []
  exact hfold.trans (hasked.foldl_depthAfter _)

/-- Every cell begins at most one capture. If it does, user code is run in this capture alone and up to
the first failure, and the capture is ended once, also when the code panics; the plot is asked for at
most once, after that. Hence where an end always closes a capture, as many are open after any run of
operations as before. -/
theorem disciplined_execute (p : Platform σ) :
    (∀ cell k record, ∃ asked,
      execute p.recorded (Magic.builtins p.recorded) cell (k.withRecord record) =
        ((execute p (Magic.builtins p) cell k).1,
          (execute p (Magic.builtins p) cell k).2.withRecord (record ++ asked)) ∧
      p.evaluator.Disciplined asked) ∧
    ∀ depth, p.Nests depth → ∀ ops k, depth (after p ops k).machine = depth k.machine := by
  have hcell (cell : String) := (chronicle_free p).execute (surrounds_disciplined p.evaluator)
    (captures_disciplined p) cell
  refine ⟨fun cell k record => hcell cell k record, fun depth h ops k => ?_⟩
  induction ops generalizing k with
  | nil => rfl
  | cons op ops ih => exact (ih (op.next p k)).trans (depth_next h op k)

/-- An evaluator that closes captures without giving their streams and that panics when it is to time
code. The second cell fails, and the third one panics. -/
theorem disciplined_execute_of_failing_end :
    let ev : Evaluator Nat := { Evaluator.bare with
      endCapture := fun depth => (some (.error (.worker "the streams are lost")), depth - 1)
      timeStatements := fun _ _ => Act.panic }
    let p : Platform Nat := ⟨ev, Host.bare⟩
    let ops : List Operation := [.execute "x = 1", .execute "raise", .execute "%timeit x"]
    p.Nests id ∧ (execute p (Magic.builtins p) "%timeit x" Kernel.bare).1.isNone = true ∧
      (∃ asked, execute p.recorded (Magic.builtins p.recorded) "%timeit x" (Kernel.bare.withRecord []) =
          ((execute p (Magic.builtins p) "%timeit x" Kernel.bare).1,
            (execute p (Magic.builtins p) "%timeit x" Kernel.bare).2.withRecord ([] ++ asked)) ∧
        p.evaluator.Disciplined asked) ∧
      id (after p ops Kernel.bare).machine = id Kernel.bare.machine := by
  intro ev p ops
  have hnests : p.Nests id := by
    constructor <;> intros <;> rfl
  have hpanics : (execute p (Magic.builtins p) "%timeit x" Kernel.bare).1.isNone = true := by
    decide +kernel
  exact ⟨hnests, hpanics, (disciplined_execute p).1 "%timeit x" Kernel.bare [],
    (disciplined_execute p).2 id hnests ops Kernel.bare⟩

end Kernel

end NotebookKernel
