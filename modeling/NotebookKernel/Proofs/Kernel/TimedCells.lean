import NotebookKernel.Proofs.Kernel.Captures
import NotebookKernel.Proofs.Kernel.Routes

/-!
# Cells that time code

The directive for it times the code of its line or its body. `Kernel.traces_execute_timed` says what is
asked in the course of such a cell and what it shows. `Kernel.loopCounts_execute` puts together what
this comes to.
-/

namespace NotebookKernel

open Source Text

open Act hiding pure

variable {σ : Type} {p : Platform σ} {code : String}

/-- The code that a directive wants to have timed. -/
def Source.Directive.timed? (d : Directive) : Option String :=
  if lowercase d.name = "timeit" then
    match d.scope with
    | .line => some d.code
    | .cell => some d.body
  else none

/-- Whether a command asks for a timing. -/
def Command.isTiming : Command → Bool
  | .time .. => true
  | _ => false

namespace Magic

theorem exists_lookup_builtins_of_timed? {d : Directive} (h : d.timed? = some code) :
    ∃ handler : Handler σ, (builtins p).lookup d.scope d.name = some handler ∧
      handler d = Timing.timeit p code := by
  unfold Directive.timed? at h
  have hlower : lowercase "timeit" = "timeit" := by decide +kernel
  split at h
  case isFalse => cases h
  case isTrue hname =>
    cases hscope : d.scope with
    | line =>
      rw [hscope] at h
      cases h
      exact ⟨_, lookup_builtins_of_name (m := ("timeit", fun d => Timing.timeit p d.code))
        (List.mem_of_getElem? (i := 8) rfl) hlower hname, rfl⟩
    | cell =>
      rw [hscope] at h
      cases h
      exact ⟨_, lookup_builtins_of_name (m := ("timeit", fun d => Timing.timeit p d.body))
        (List.mem_of_getElem? (i := 7) rfl) hlower hname, rfl⟩

end Magic

namespace Evaluator

variable {ev : Evaluator σ}

/-- The begin and the end of a capture are no timings. -/
theorem Enclosed.countP_isTiming_le {α : Type} {W : List (Asked σ) → Option (Except Failure α) → Prop}
    {n : Nat} (hW : ∀ work outcome, W work outcome → work.length ≤ n) {asked : List (Asked σ)}
    {result : Option (Except Failure α)} (h : ev.Enclosed W asked result) :
    asked.countP (·.command.isTiming) ≤ n := by
  cases h with
  | refused hfirst => simp [hfirst, Command.isTiming]
  | @closed first work closing _ _ hfirst _ hwork hclosing =>
    have hnone : closing.countP (·.command.isTiming) = 0 := by
      cases hclosing with
      | bare hlast => simp [hlast, Command.isTiming]
      | plot hlast hplot => simp [hlast, hplot, Command.isTiming]
    calc (first :: (work ++ closing)).countP (·.command.isTiming)
        = work.countP (·.command.isTiming) := by
          rw [List.countP_cons_of_neg (by rw [hfirst]; decide), List.countP_append, hnone,
            Nat.add_zero]
      _ ≤ work.length := List.countP_le_length
      _ ≤ n := hW _ _ hwork

end Evaluator

namespace Timing

/-- What a timing run shows. -/
def shown : Except Failure Report → Output
  | .ok report => .text report.render
  | .error failure => .ofFailure failure

theorem timeit_of_blank (h : isBlankText code = true) :
    timeit p code = pure (.error "timeit: no code to time") := by
  rw [timeit, if_pos h]

theorem timeit_eq (h : isBlankText code = false) :
    timeit p code = (do
      let captured ← KernelM.onMachine (p.evaluator.capture (measure p.evaluator code))
      pure (shown captured.outcome)) := by
  rw [timeit, if_neg (by rw [h]; decide)]
  refine congrArg (KernelM.onMachine _ >>= ·) (funext fun captured => ?_)
  cases captured.outcome <;> rfl

theorem context_timeit (code : String) (k : Kernel σ) : (timeit p code k).2.context = k.context := by
  have hleaves : Leaves Kernel.context (timeit p code) := by
    cases h : isBlankText code with
    | true => exact timeit_of_blank h ▸ leaves_pure _
    | false => exact timeit_eq h ▸ Leaves.bind (fun _ => rfl) fun _ => leaves_pure _
  exact hleaves k

/-- What is asked in the course of a timing cell, and what it shows: nothing is asked for code of blanks
alone, and else the measurement stands within a capture. -/
inductive Answered (ev : Evaluator σ) (code : String) : List (Asked σ) → Option Output → Prop
  | blank : isBlankText code = true → Answered ev code [] (some (.error "timeit: no code to time"))
  | timed {asked : List (Asked σ)} {result : Option (Except Failure Report)} :
    isBlankText code = false → ev.Enclosed (ev.Measured code) asked result →
    Answered ev code asked (result.map shown)

theorem Answered.countP_isTiming_le {ev : Evaluator σ} {asked : List (Asked σ)} {shows : Option Output}
    (h : Answered ev code asked shows) : asked.countP (·.command.isTiming) ≤ 27 := by
  cases h with
  | blank => exact Nat.zero_le 27
  | timed _ henclosed => exact henclosed.countP_isTiming_le fun _ _ hmeasured => hmeasured.length_le

theorem traces_timeit (code : String) :
    Traces Kernel.withRecord (fun _ added r => Answered p.evaluator code added r.1)
      (timeit p.recorded code) (timeit p code) := by
  cases h : isBlankText code with
  | true =>
    rw [timeit_of_blank h, timeit_of_blank h]
    exact traces_pure fun _ => .blank h
  | false =>
    rw [timeit_eq h, timeit_eq h]
    have henclosed : Traces Kernel.withRecord (fun _ added r =>
          p.evaluator.Enclosed (p.evaluator.Measured code) added (r.1.map Captured.outcome))
        (KernelM.onMachine (p.recorded.evaluator.capture (measure p.recorded.evaluator code)))
        (KernelM.onMachine (p.evaluator.capture (measure p.evaluator code))) :=
      KernelM.traces_onMachine (Evaluator.traces_enclosed (Evaluator.traces_measured code))
        fun _ _ _ _ h => h
    refine henclosed.bind
      (Q := fun captured _ later r => later = [] ∧ r.1 = some (shown captured.outcome))
      (fun _ => traces_pure fun _ => ⟨rfl, rfl⟩) (fun _ _ _ henclosed => .timed h henclosed) ?_
    rintro _ _ captured _ _ r henclosed ⟨rfl, hr⟩
    rw [List.append_nil, hr]
    exact .timed h henclosed

end Timing

namespace Kernel

/-- The record of a cell with a directive for timings. -/
theorem traces_execute_timed {cell : String} {d : Directive}
    (hd : Directive.ofCell? (trim cell) = some d) (htimed : d.timed? = some code) :
    Traces withRecord (fun _ added r => Timing.Answered p.evaluator code added r.1)
      (execute p.recorded (Magic.builtins p.recorded) cell) (execute p (Magic.builtins p) cell) := by
  intro k record
  obtain ⟨handler, hlookup, hhandler⟩ := Magic.exists_lookup_builtins_of_timed? (p := p) htimed
  obtain ⟨handler', hlookup', hhandler'⟩ :=
    Magic.exists_lookup_builtins_of_timed? (p := p.recorded) htimed
  obtain ⟨hcode, hroute⟩ := route_of_directive hd hlookup
  obtain ⟨-, hroute'⟩ := route_of_directive hd hlookup'
  rw [hhandler] at hroute
  rw [hhandler'] at hroute'
  rw [execute_of_magic hcode hroute (by rw [Timing.context_timeit]; rfl),
    execute_of_magic hcode hroute' (by rw [Timing.context_timeit]; rfl)]
  obtain ⟨asked, hrun, hanswered⟩ := Timing.traces_timeit (p := p) code k.uninterrupted record
  have hrun' : Timing.timeit p.recorded code (k.withRecord record).uninterrupted = _ := hrun
  refine ⟨asked, ?_, ?_⟩
  · rw [hrun']
    rcases Timing.timeit p code k.uninterrupted with ⟨_ | o, k'⟩ <;> rfl
  · revert hanswered
    rcases Timing.timeit p code k.uninterrupted with ⟨_ | o, k'⟩ <;> exact id

/-- Whatever the evaluator answers, a cell that times code asks for the loop counts 1, 2, 5, 10, 20, 50
and so on in this order, up to the first that took long enough or that is 10 000 000, and then five times
more for this one. It stops at the first failure, and for code of blanks alone it asks for nothing. So it
asks for 27 timings at most, 22 of them to find the loop count, which is never zero. No number that is
worked out on the way leaves the bounds of a word. -/
theorem loopCounts_execute (p : Platform σ) {cell : String} {d : Directive}
    (hd : Directive.ofCell? (trim cell) = some d) (htimed : d.timed? = some code)
    (k : Kernel σ) (record : List (Asked σ)) :
    (∃ asked, execute p.recorded (Magic.builtins p.recorded) cell (k.withRecord record) =
        ((execute p (Magic.builtins p) cell k).1,
          (execute p (Magic.builtins p) cell k).2.withRecord (record ++ asked)) ∧
      Timing.Answered p.evaluator code asked (execute p (Magic.builtins p) cell k).1 ∧
      asked.countP (·.command.isTiming) ≤ 27) ∧
    (∀ asked result, p.evaluator.Searched code 0 asked result → asked.length ≤ 22) ∧
    (p.evaluator.AlwaysEnds → (execute p (Magic.builtins p) cell k).1.isSome = true) ∧
    StrictMono Timing.loopCount ∧ Timing.loopCount 21 = Timing.maxLoops ∧
    ∀ i ≤ 21, 0 < Timing.loopCount i ∧ (Timing.tried i).value = Timing.loopCount i ∧
      Timing.loopCount i < UInt64.size ∧ (Timing.tried i).base * 10 < UInt64.size := by
  refine ⟨?_, fun asked result hsearched => ?_, fun hp => ?_, Timing.strictMono_loopCount,
    Timing.loopCount_last, fun i hi => ⟨Timing.loopCount_pos i, Timing.value_tried i,
      Timing.loopCount_lt_size hi, Timing.base_mul_ten_lt_size hi⟩⟩
  · obtain ⟨asked, hrun, hanswered⟩ := traces_execute_timed (p := p) hd htimed k record
    exact ⟨asked, hrun, hanswered, hanswered.countP_isTiming_le⟩
  · have hlength := hsearched.length_le
    omega
  · obtain ⟨handler, hlookup, hhandler⟩ := Magic.exists_lookup_builtins_of_timed? (p := p) htimed
    obtain ⟨hcode, hroute⟩ := route_of_directive hd hlookup
    rw [hhandler] at hroute
    have hsteady : KernelM.Steady (route p (Magic.builtins p) (trim cell)) :=
      hroute ▸ ((KernelM.composes_steady hp).timeit code).bind fun _ => KernelM.steady_pure _
    obtain ⟨o, _, _, _, _, hexecute, _⟩ := execute_of_steady hcode hsteady k
    rw [hexecute]
    rfl

/-- Code that takes a millisecond: the search ends with 200 loops. -/
theorem loopCounts_execute_of_millisecond :
    let ev : Evaluator Nat := { Evaluator.bare with
      timeStatements := fun _ loops => pure (.ok (.ofMillis loops)) }
    let p : Platform Nat := ⟨ev, Host.bare⟩
    let run := execute p (Magic.builtins p) "%timeit x" Kernel.bare
    (execute p.recorded (Magic.builtins p.recorded) "%timeit x" (Kernel.bare.withRecord [])
      ).2.machine.2.map Asked.command = [.captureBegin] ++
        [1, 2, 5, 10, 20, 50, 100, 200].map (Command.time "x") ++
        List.replicate 5 (Command.time "x" 200) ++ [.captureEnd, .plot] ∧
      run.1.isSome = true := by
  intro ev p run
  have hd : Directive.ofCell? (trim "%timeit x") = some ⟨.line, "timeit", "x", ""⟩ := by
    decide +kernel
  have htimed : (⟨.line, "timeit", "x", ""⟩ : Directive).timed? = some "x" := by decide +kernel
  have hp : ev.AlwaysEnds := { Evaluator.alwaysEnds_bare with
    timeStatements := fun _ _ => ends_pure _ }
  refine ⟨?_, (loopCounts_execute p hd htimed Kernel.bare []).2.2.1 hp⟩
  decide +kernel

end Kernel

end NotebookKernel
