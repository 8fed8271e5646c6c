import NotebookKernel.Proofs.Kernel.Accounts
import NotebookKernel.Proofs.Worker.Conversations
import NotebookKernel.Proofs.Worker.Losses

/-!
# Replies that make the kernel panic

A worker reports a time as a number of seconds, and one that is too great for a duration is the only
reply over which a request panics. `Session.panics_iff_overlong` says this of every request and of every
cell, and that the other operations of a kernel never panic. `Session.panics_over_overlong_timing` is a
cell that does.
-/

namespace NotebookKernel

open Act hiding pure

variable {σ : Type}

/-- A number of seconds from which on there is no duration of this length. -/
def Duration.Exceeded (seconds : Float) : Prop :=
  let x := Binary64.ofFloat seconds
  x.negative = false ∧ x.fraction.2 * Nat.pow 2 64 ≤ x.fraction.1

theorem Duration.ofSecondsFloat?_eq_none_iff (seconds : Float) :
    Duration.ofSecondsFloat? seconds = none ↔ Duration.Exceeded seconds := by
  unfold ofSecondsFloat? Exceeded
  dsimp only
  by_cases hnegative : (Binary64.ofFloat seconds).negative = true
  · rw [if_pos hnegative]
    exact iff_of_false (Option.some_ne_none _) fun h => Bool.false_ne_true (h.1.symm.trans hnegative)
  · rw [if_neg hnegative]
    refine Iff.trans ?_ (and_iff_right (Bool.eq_false_iff.mpr hnegative)).symm
    split
    · next hexceeded => exact iff_of_true rfl hexceeded
    · next hexceeded => exact iff_of_false (Option.some_ne_none _) hexceeded

namespace Session

/-- The request is to time code, and the reply is a number of seconds that is too great. -/
def Overlong (ps : Processes σ) (a : Asked (Workbench σ)) : Prop :=
  ∃ code loops seconds b, a.command = .time code loops ∧
    call ps a.command a.before = (some (.ok (.timing seconds)), b) ∧ Duration.Exceeded seconds

namespace Request

/-- There is no result just if the answer to a request for a time is too long. -/
theorem settle_eq_none_iff (q : Request) (answer : Except Failure Reply) :
    q.settle answer = none ↔ ∃ code loops seconds, q.command = .time code loops ∧
      answer = .ok (.timing seconds) ∧ Duration.Exceeded seconds := by
  cases q with
  | timeStatements code loops =>
    rcases answer with failure | reply
    · exact iff_of_false (Option.some_ne_none _) (by rintro ⟨_, _, _, _, ⟨⟩, _⟩)
    · cases reply with
      | timing seconds =>
        have hsettle : settle (.timeStatements code loops) (.ok (.timing seconds)) = none ↔
            Duration.Exceeded seconds :=
          Option.map_eq_none_iff.trans (Duration.ofSecondsFloat?_eq_none_iff seconds)
        rw [hsettle]
        constructor
        · exact fun h => ⟨code, .ofNat loops, seconds, rfl, rfl, h⟩
        · rintro ⟨_, _, _, -, ⟨⟩, h⟩
          exact h
      | _ => exact iff_of_false (Option.some_ne_none _) (by rintro ⟨_, _, _, _, ⟨⟩, _⟩)
  | _ => exact iff_of_false (Option.some_ne_none _) (by rintro ⟨_, _, _, ⟨⟩, _⟩)

theorem ask_eq_none_iff (ps : Processes σ) (q : Request) (b : Workbench σ) :
    (q.ask ps b).1 = none ↔ Session.Overlong ps ⟨q.command, b⟩ := by
  obtain ⟨answer, b', hcall⟩ := Session.ends_call ps q.command b
  have hask : q.ask ps b = (q.settle answer, b') := bind_run_of_some hcall _
  rw [hask, settle_eq_none_iff]
  constructor
  · rintro ⟨code, loops, seconds, hcommand, rfl, hexceeded⟩
    exact ⟨code, loops, seconds, b', hcommand, hcall, hexceeded⟩
  · rintro ⟨code, loops, seconds, _, hcommand, hcall', hexceeded⟩
    rw [hcall] at hcall'
    cases hcall'
    exact ⟨code, loops, seconds, hcommand, rfl, hexceeded⟩

/-- Of a request for a time nothing is noted, and a worker is started for it. -/
theorem noted_of_command_eq {q : Request} {code : String} {loops : UInt64}
    (hq : q.command = .time code loops) (w : Session) : q.noted w = w ∧ q.waits = false := by
  cases q <;> first | cases hq; done | exact ⟨rfl, rfl⟩

/-- A request panics just if it is one for a time, and the time is too long. -/
theorem perform_eq_none_iff (ps : Processes σ) (q : Request) (b : Workbench σ) :
    (q.perform ps b).1 = none ↔ Overlong ps ⟨q.command, b⟩ := by
  rw [perform_eq]
  by_cases htime : ∃ code loops, q.command = .time code loops
  · obtain ⟨code, loops, hq⟩ := htime
    obtain ⟨hnoted, hwaits⟩ := noted_of_command_eq hq b.session
    rw [hnoted, hwaits]
    exact ask_eq_none_iff ps q b
  · have hnever (b : Workbench σ) : ¬Overlong ps ⟨q.command, b⟩ := by
      rintro ⟨code, loops, -, -, hq, -⟩
      exact htime ⟨code, loops, hq⟩
    refine iff_of_false ?_ (hnever b)
    dsimp only
    split
    · rw [settle_eq_none_iff]
      rintro ⟨code, loops, -, hq, -⟩
      exact htime ⟨code, loops, hq⟩
    · rw [ask_eq_none_iff]
      exact hnever _

theorem ends_perform (ps : Processes σ) (q : Request)
    (hq : ∀ code loops, q.command ≠ .time code loops) : Ends (q.perform ps) := by
  intro b
  rcases hrun : q.perform ps b with ⟨_ | result, b'⟩
  · have hnone : (q.perform ps b).1 = none := congrArg Prod.fst hrun
    obtain ⟨code, loops, -, -, hcommand, -⟩ := (perform_eq_none_iff ps q b).mp hnone
    exact absurd hcommand (hq code loops)
  · exact ⟨result, b', rfl⟩

end Request

/-! ## Kernels -/

/-- An account of single requests, of which one panics just if its time is too long. -/
theorem overlong_singleton {ps : Processes σ} (q : Request) (b : Workbench σ) :
    (q.perform ps b).1.isSome = false ↔ ∃ a ∈ [⟨q.command, b⟩], Overlong ps a := by
  rw [Option.isSome_eq_false_iff, Option.isNone_iff_eq_none, Request.perform_eq_none_iff]
  simp only [List.mem_singleton, exists_eq_left]

/-- A kernel panics just if one of the times that it asked for is too long. -/
theorem account_panics (h : Host σ) (ps : Processes σ) :
    Kernel.Account (Workbench.platform h ps)
      (fun _ asked ends _ => ends = false ↔ ∃ a ∈ asked, Overlong ps a) where
  nil _ := by simp
  append hearlier hlater := by
    rw [hlater]
    simp only [List.mem_append, or_and_right, exists_or]
    exact (or_iff_right fun h => Bool.false_ne_true (hearlier.mpr h).symm).symm
  cleanup hearlier _ := by
    obtain ⟨a, ha, hoverlong⟩ := hearlier.mp rfl
    exact iff_of_true rfl ⟨a, List.mem_append_left _ ha, hoverlong⟩
  runStatements code k := overlong_singleton (.runStatements code) k.machine
  evalExpression code k := overlong_singleton (.evalExpression code) k.machine
  isExpression line k := overlong_singleton (.isExpression line) k.machine
  beginCapture k := overlong_singleton .beginCapture k.machine
  endCapture k := overlong_singleton .endCapture k.machine
  takePlot k := overlong_singleton .takePlot k.machine
  runIsolated code file k := overlong_singleton (.runIsolated code file) k.machine
  timeStatements code loops k := overlong_singleton (.timeStatements code loops) k.machine
  bindings k := overlong_singleton .bindings k.machine
  reset k := overlong_singleton (.reset k.context.config.preload) k.machine
  setDirectory {_ path k} _ := overlong_singleton (.setDirectory path) k.machine
  setVariable key value k := overlong_singleton (.setVariable key value) k.machine
  run _ _ := by simp
  createDirectories _ _ := by simp
  writeFile _ _ _ := by simp
  monotonic _ := by simp
  context _ _ _ := by simp

theorem ends_setWorkingDirectory (h : Host σ) (ps : Processes σ) (raw : String) :
    Ends (Kernel.setWorkingDirectory (Workbench.platform h ps) raw) := by
  rw [Kernel.setWorkingDirectory_eq]
  refine Ends.bind (fun _ => ⟨_, _, rfl⟩) fun found => ?_
  cases found with
  | none => exact ends_pure _
  | some target =>
    have hask : Ends ((evaluator ps).setDirectory target) :=
      Request.ends_perform ps (.setDirectory target) nofun
    refine (hask.zoom).bind fun result => ?_
    cases result with
    | error failure => exact ends_pure _
    | ok => exact fun k => ⟨true, _, rfl⟩

/-- Whatever the workers write: a request panics just if it is one for a time and the worker's answer is
too long for a duration, and a cell panics just if that happens to one of the requests made for it. All
else that is asked of the evaluator or of the kernel ends with a result. -/
theorem panics_iff_overlong (h : Host σ) (ps : Processes σ) :
    let p := Workbench.platform h ps
    (∀ (q : Request) (b : Workbench σ),
      (q.perform ps b).1 = none ↔ Overlong ps ⟨q.command, b⟩) ∧
    (∀ cell k, ∃ asked,
      Kernel.execute p.recorded (Magic.builtins p.recorded) cell (k.withRecord [])
        = ((Kernel.execute p (Magic.builtins p) cell k).1,
          (Kernel.execute p (Magic.builtins p) cell k).2.withRecord asked) ∧
      ((Kernel.execute p (Magic.builtins p) cell k).1 = none ↔ ∃ a ∈ asked, Overlong ps a)) ∧
    Ends (Kernel.reset p) ∧ Ends (Kernel.panel p) ∧ ∀ raw, Ends (Kernel.setWorkingDirectory p raw) := by
  intro p
  refine ⟨Request.perform_eq_none_iff ps, fun cell k => ?_, fun k => ?_, ?_,
    ends_setWorkingDirectory h ps⟩
  · obtain ⟨asked, hrun, hpanics⟩ := (account_panics h ps).execute cell k []
    have hnone : (Kernel.execute p (Magic.builtins p) cell k).1.isSome = false ↔
        (Kernel.execute p (Magic.builtins p) cell k).1 = none :=
      Option.isSome_eq_false_iff.trans Option.isNone_iff_eq_none
    exact ⟨asked, hrun, hnone.symm.trans hpanics⟩
  · let q : Request := .reset k.context.config.preload
    obtain ⟨result, b, hperform⟩ := Request.ends_perform ps q nofun k.machine
    have hreset : Kernel.reset p k = ((q.perform ps k.machine).1,
        ⟨k.context.cleared, (q.perform ps k.machine).2⟩) := rfl
    rw [hperform] at hreset
    exact ⟨result, _, hreset⟩
  · have hask : Ends p.evaluator.bindings := Request.ends_perform ps .bindings nofun
    exact hask.zoom.bind fun _ => ends_pure _

/-- The worker answers the ping, the reset, the change of the directory and the begin of the capture,
and then it reports a time of 10 ^ 300 seconds. -/
theorem panics_over_overlong_timing :
    let p := Workbench.platform Host.bare tapes
    let workers : List (List Reply) :=
      [[.pong, .done, .done, .done, .timing 1e300, .streams "" ""]]
    ∃ k, kernelOnTapes? workers = some k ∧
      (Kernel.execute p (Magic.builtins p) "%timeit x" k).1 = none := by
  intro p workers
  have hchecked : ((kernelOnTapes? workers).any fun k =>
      (Kernel.execute p (Magic.builtins p) "%timeit x" k).1.isNone) = true := by
    decide +kernel
  obtain ⟨k, hk, hpanics⟩ := (Option.any_eq_true _ _).mp hchecked
  exact ⟨k, hk, Option.isNone_iff_eq_none.mp hpanics⟩

end Session

end NotebookKernel
