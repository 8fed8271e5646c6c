import NotebookKernel.Kernel.Dispatch
import NotebookKernel.Proofs.Act
import NotebookKernel.Proofs.Evaluator.Record

/-!
# Cells that run plain code

`Kernel.plainCode?` tells which cells hand code to the evaluator, and which code. Such a cell asks the
evaluator whether its last line is an expression, begins a capture, runs the code, ends the capture and
takes the plot. `Kernel.records_execute_of_plainCode?` says which of these requests show in the output:
the output is an error exactly when the begin of the capture or the code failed.
-/

namespace NotebookKernel

open Source Text

namespace Registry

variable {H : Type}

theorem lookup_register (r : Registry H) (scope scope' : Scope) (name name' : String)
    (handler : H) :
    (r.register scope name handler).lookup scope' name' =
      if scope = scope' ∧ lowercase name = lowercase name' then some handler
      else r.lookup scope' name' := by
  rw [lookup, table_register]
  by_cases hscope : scope = scope' <;> simp [hscope, lookup, SortedMap.get?_insert]

theorem lookup_empty (scope : Scope) (name : String) : (∅ : Registry H).lookup scope name = none := by
  cases scope <;> rfl

/-- Handlers of other names and scopes change nothing. -/
theorem lookup_foldl_register_of_ne {r : Registry H} {scope scope' : Scope}
    {magics : List (String × H)} {name : String}
    (h : scope = scope' → ∀ m ∈ magics, lowercase m.1 ≠ lowercase name) :
    (magics.foldl (fun r m => r.register scope m.1 m.2) r).lookup scope' name =
      r.lookup scope' name := by
  induction magics generalizing r with
  | nil => rfl
  | cons m magics ih =>
    rw [List.foldl_cons, ih fun hscope m' hm' => h hscope m' (List.mem_cons_of_mem _ hm'),
      lookup_register, if_neg fun ⟨hscope, hname⟩ => h hscope m List.mem_cons_self hname]

/-- Where all names differ, every handler is found under its own. -/
theorem lookup_foldl_register_of_mem {r : Registry H} {scope : Scope} {magics : List (String × H)}
    (hnodup : (magics.map fun m => lowercase m.1).Nodup) {m : String × H} (hm : m ∈ magics) :
    (magics.foldl (fun r m => r.register scope m.1 m.2) r).lookup scope m.1 = some m.2 := by
  induction magics generalizing r with
  | nil => cases hm
  | cons m' magics ih =>
    rw [List.map_cons, List.nodup_cons] at hnodup
    rw [List.foldl_cons]
    rcases List.mem_cons.mp hm with rfl | hm
    · rw [lookup_foldl_register_of_ne, lookup_register, if_pos ⟨rfl, rfl⟩]
      exact fun _ m' hm' hname => hnodup.1 (List.mem_map.mpr ⟨m', hm', hname⟩)
    · exact ih hnodup.2 hm

end Registry

namespace Magic

variable {σ τ : Type}

/-- The built-in magics of one scope. -/
def magics (p : Platform σ) : Scope → List (String × Handler σ)
  | .line => lineMagics p
  | .cell => cellMagics p

theorem nodup_magics (p : Platform σ) (scope : Scope) :
    ((magics p scope).map fun m => lowercase m.1).Nodup := by
  cases scope with
  | line =>
    change (["pip", "cd", "pwd", "ls", "cat", "load", "run", "time", "timeit", "who", "whos", "reset",
      "env", "matplotlib"].map lowercase).Nodup
    decide +kernel
  | cell =>
    change (["bash", "sh", "python", "python3", "capture", "writefile", "time", "timeit", "html",
      "javascript", "js"].map lowercase).Nodup
    decide +kernel

theorem lookup_builtins_of_mem {p : Platform σ} {scope : Scope} {m : String × Handler σ}
    (hm : m ∈ magics p scope) : (builtins p).lookup scope m.1 = some m.2 := by
  unfold builtins
  cases scope with
  | line =>
    rw [Registry.lookup_foldl_register_of_ne (by rintro ⟨⟩)]
    exact Registry.lookup_foldl_register_of_mem (nodup_magics p .line) hm
  | cell => exact Registry.lookup_foldl_register_of_mem (nodup_magics p .cell) hm

theorem lookup_builtins_eq_none_iff (p : Platform σ) (scope : Scope) (name : String) :
    (builtins p).lookup scope name = none ↔
      ∀ m ∈ magics p scope, lowercase m.1 ≠ lowercase name := by
  constructor
  · intro hnone m hm hname
    have hfound := lookup_builtins_of_mem hm
    rw [Registry.lookup, hname, ← Registry.lookup, hnone] at hfound
    cases hfound
  · intro h
    unfold builtins
    rw [Registry.lookup_foldl_register_of_ne, Registry.lookup_foldl_register_of_ne,
      Registry.lookup_empty] <;> rintro rfl <;> exact h

/-- Which names are known does not depend on the platform. -/
theorem lookup_builtins_eq_none_congr (p : Platform σ) (q : Platform τ) (scope : Scope)
    (name : String) :
    (builtins p).lookup scope name = none ↔ (builtins q).lookup scope name = none := by
  have hnames : (magics p scope).map Prod.fst = (magics q scope).map Prod.fst := by
    cases scope <;> rfl
  have hforall (f : String → Prop) :
      (∀ m ∈ magics p scope, f m.1) ↔ ∀ m ∈ magics q scope, f m.1 := by
    rw [← List.forall_mem_map, hnames, List.forall_mem_map]
  rw [lookup_builtins_eq_none_iff, lookup_builtins_eq_none_iff,
    hforall fun known => lowercase known ≠ lowercase name]

end Magic

variable {σ α : Type}

open Act hiding pure

/-! ## Failures that show -/

def Failed (result : Except Failure α) : Prop := ∃ failure, result = .error failure

@[simp] theorem failed_error (failure : Failure) : Failed (.error failure : Except Failure α) :=
  ⟨failure, rfl⟩

@[simp] theorem not_failed_ok (a : α) : ¬Failed (.ok a : Except Failure α) := by
  rintro ⟨_, ⟨⟩⟩

/-- The request failed, and is one of those on which the outcome of plain code depends. -/
def Evaluator.Refused (ev : Evaluator σ) (a : Asked σ) : Prop :=
  match a.command with
  | .captureBegin => ∃ failure, (ev.beginCapture a.before).1 = some (.error failure)
  | .exec code => ∃ failure, (ev.runStatements code a.before).1 = some (.error failure)
  | .eval code => ∃ failure, (ev.evalExpression code a.before).1 = some (.error failure)
  | _ => False

/-- Something failed exactly when one of the requests was refused. -/
def Evaluator.Shows (ev : Evaluator σ) (failed : Prop) (asked : List (Asked σ)) : Prop :=
  failed ↔ ∃ a ∈ asked, ev.Refused a

namespace Evaluator

variable (ev : Evaluator σ) {p q : Prop} {earlier later : List (Asked σ)}

theorem shows_nil : ev.Shows False [] := by
  simp [Shows]

theorem Shows.append {ev : Evaluator σ} (hp : ev.Shows p earlier) (hq : ev.Shows q later) :
    ev.Shows (p ∨ q) (earlier ++ later) := by
  simp only [Shows] at hp hq ⊢
  simp only [hp, hq, List.mem_append, or_and_right, exists_or]

theorem shows_singleton (a : Asked σ) : ev.Shows (ev.Refused a) [a] := by
  simp [Shows]

/-- A request whose failure is not looked at leaves no trace. -/
theorem records_unseen (command : Command) (act : Act σ α)
    (h : ∀ s, ¬ev.Refused ⟨command, s⟩) :
    Records Prod.mk (fun _ asked => ev.Shows False asked) (act.recorded command) act := by
  refine (records_recorded command act).mono ?_
  rintro a _ ⟨s, rfl, -⟩
  simpa [h s] using ev.shows_singleton ⟨command, s⟩

/-- A request whose failure is looked at. -/
theorem records_seen {command : Command} {act : Act σ (Except Failure α)}
    (h : ∀ s, ev.Refused ⟨command, s⟩ ↔ ∃ failure, (act s).1 = some (.error failure)) :
    Records Prod.mk (fun result asked => ev.Shows (Failed result) asked)
      (act.recorded command) act := by
  refine (records_recorded command act).mono ?_
  rintro result _ ⟨s, rfl, hresult⟩
  have hfailed : ev.Refused ⟨command, s⟩ ↔ Failed result := by
    simp [h, hresult, Failed]
  simpa [hfailed] using ev.shows_singleton ⟨command, s⟩

theorem records_shape (code : String) :
    Records Prod.mk (fun _ asked => ev.Shows False asked)
      (shape ev.recorded.isExpression code) (shape ev.isExpression code) := by
  unfold shape
  cases candidate? code with
  | none => exact records_pure ev.shows_nil
  | some c =>
    have hprobe := ev.records_unseen (.probe c.final) (ev.isExpression c.final) fun _ h => h
    refine hprobe.bind fun accepted => ?_
    cases accepted <;> exact records_pure fun _ h => by simpa using h

theorem records_runShape (code : String) (shape : Shape) :
    Records Prod.mk (fun result asked => ev.Shows (Failed result) asked)
      (ev.recorded.runShape code shape) (ev.runShape code shape) := by
  have hexec (code : String) :
      Records Prod.mk (fun result asked => ev.Shows (Failed result) asked)
        (ev.recorded.runStatements code) (ev.runStatements code) :=
    ev.records_seen fun _ => Iff.rfl
  have heval (code : String) :
      Records Prod.mk (fun result asked => ev.Shows (Failed result) asked)
        (ev.recorded.evalExpression code) (ev.evalExpression code) :=
    ev.records_seen fun _ => Iff.rfl
  cases shape with
  | statements =>
    refine (hexec code).bind fun result => ?_
    cases result <;> exact records_pure fun _ h => by simpa using h
  | expression setup final =>
    cases setup with
    | none => exact heval final
    | some setup =>
      refine (hexec setup).bind fun result => ?_
      cases result with
      | ok =>
        exact (heval final).mono fun _ _ hlater _ h => by simpa using h.append hlater
      | error failure => exact records_pure fun _ h => by simpa using h

theorem records_collect :
    Records Prod.mk (fun _ asked => ev.Shows False asked) ev.recorded.collect ev.collect := by
  refine (ev.records_unseen .captureEnd ev.endCapture fun _ h => h).bind fun streams => ?_
  cases streams <;> exact records_pure fun _ h => by simpa using h

/-- A capture fails when its begin or the work fails. Nothing that follows the work shows. -/
theorem records_capture {work' : Act (σ × List (Asked σ)) (Except Failure α)}
    {work : Act σ (Except Failure α)}
    (h : Records Prod.mk (fun result asked => ev.Shows (Failed result) asked) work' work) :
    Records Prod.mk (fun c asked => ev.Shows (Failed c.outcome) asked)
      (ev.recorded.capture work') (ev.capture work) := by
  have hbegin : Records Prod.mk (fun result asked => ev.Shows (Failed result) asked)
      ev.recorded.beginCapture ev.beginCapture := ev.records_seen fun _ => Iff.rfl
  refine hbegin.bind fun begun => ?_
  cases begun with
  | error failure => exact records_pure fun _ h => by simpa using h
  | ok =>
    have hcleanup := (ev.records_collect.bind (R := fun _ _ => True)
      fun _ => records_pure (a := ()) fun _ _ => trivial)
    refine (h.onPanic hcleanup).bind fun outcome => ?_
    refine ev.records_collect.bind fun streams => ?_
    refine (ev.records_unseen .plot ev.takePlot fun _ h => h).bind fun plot => ?_
    refine records_pure fun third hthird second hsecond first hfirst begun hbegun => ?_
    simpa using hbegun.append (hfirst.append (hsecond.append hthird))

theorem records_runCode (code : String) :
    Records Prod.mk (fun c asked => ev.Shows (Failed c.outcome) asked)
      (ev.recorded.runCode code) (ev.runCode code) := by
  refine (ev.records_shape code).bind fun shape => ?_
  refine (ev.records_capture (ev.records_runShape code shape)).mono fun c later hlater _ h => ?_
  simpa using h.append hlater

end Evaluator

theorem Captured.isError_output_iff (c : Captured (Option String)) :
    c.output.isError = true ↔ Failed c.outcome := by
  unfold Captured.output
  cases c.outcome with
  | error failure => simp [Output.ofFailure, Output.error, Output.isError]
  | ok value => cases c.plot <;> simp [Output.plot, Output.text, Output.isError]

namespace Kernel

variable (p : Platform σ)

/-- The output is an error exactly when one of the requests was refused. -/
def ErrorShows (o : Output) (asked : List (Asked σ)) : Prop :=
  p.evaluator.Shows (o.isError = true) asked

theorem records_executeCode (code : String) :
    Records withRecord (fun result => ErrorShows p result.1)
      (executeCode p.recorded code) (executeCode p code) := by
  refine (KernelM.records_onMachine (p.evaluator.records_runCode code)).bind fun captured => ?_
  refine records_pure fun asked h => ?_
  simpa [ErrorShows, captured.isError_output_iff] using h

theorem records_runCode (code : String) :
    Records withRecord (ErrorShows p) (runCode p.recorded code) (runCode p code) :=
  (records_executeCode p code).bind fun _ => records_pure fun _ h => by simpa using h

theorem records_wallTime (code : String) :
    Records withRecord (ErrorShows p) (Timing.wallTime p.recorded code)
      (Timing.wallTime p code) := by
  have hclock : Silent withRecord
      (KernelM.onMachine (Act.ofUpdate p.recorded.host.monotonic))
      (KernelM.onMachine (Act.ofUpdate p.host.monotonic)) :=
    KernelM.silent_onMachine fun _ _ => rfl
  refine hclock.bind fun start => (records_runCode p code).bind fun o => ?_
  refine hclock.bind fun stop => records_pure fun _ ho => ?_
  simpa [ErrorShows, Timing.withWallTime, Output.isError] using ho

end Kernel

/-! ## Cells with plain code -/

/-- The code that a known magic runs as a cell of its own would. -/
def Source.Directive.plainCode? (d : Directive) : Option String :=
  match d.scope, d.name with
  | .line, "time" => some d.code
  | .cell, "time" => some d.body
  | .cell, "python" => some d.body
  | .cell, "python3" => some d.body
  | .cell, "capture" => some d.body
  | _, _ => none

namespace Kernel

/-- The code that a cell hands to the evaluator as plain code, if it does. -/
def plainCode? (p : Platform σ) (cell : String) : Option String :=
  let code := trim cell
  if code.isEmpty || (stripStart? "!" code).isSome then none
  else match Directive.ofCell? code with
    | none => some code
    | some d => if ((Magic.builtins p).lookup d.scope d.name).isNone then some code else d.plainCode?

/-- How a cell runs plain code: by itself, or through a magic, which may measure the time. -/
inductive Manner where
  | bare
  | magic
  | measured

/-- What the cell does, and whether it counts. -/
def Manner.run (p : Platform σ) (code : String) : Manner → KernelM σ (Output × Bool)
  | .bare => executeCode p code
  | .magic => do pure (← runCode p code, true)
  | .measured => do pure (← Timing.wallTime p code, true)

/-- On every platform the magic is found, and does what this manner does. -/
def Manner.Fits (manner : Manner) (d : Directive) (code : String) : Prop :=
  ∀ (τ : Type) (q : Platform τ), ∃ handler, (Magic.builtins q).lookup d.scope d.name = some handler ∧
    (do pure (← handler d, true)) = manner.run q code

theorem Manner.fits_of_mem {manner : Manner} {d : Directive} {code : String}
    (handler : {τ : Type} → Platform τ → Handler τ)
    (hmem : ∀ {τ : Type} (q : Platform τ), (d.name, handler q) ∈ Magic.magics q d.scope)
    (hrun : ∀ {τ : Type} (q : Platform τ), (do pure (← handler q d, true)) = manner.run q code) :
    manner.Fits d code := by
  intro τ q
  have hlookup := Magic.lookup_builtins_of_mem (hmem q)
  exact ⟨handler q, hlookup, hrun q⟩

theorem exists_manner_of_directive {d : Directive} {code : String}
    (h : d.plainCode? = some code) : ∃ manner : Manner, manner.Fits d code := by
  obtain ⟨scope, name, args, body⟩ := d
  simp only [Directive.plainCode?] at h
  split at h <;> cases h
  · exact ⟨.measured, Manner.fits_of_mem (fun q d => Timing.wallTime q d.code)
      (fun _ => List.mem_of_getElem? (i := 7) rfl) fun _ => rfl⟩
  · exact ⟨.measured, Manner.fits_of_mem (fun q d => Timing.wallTime q d.body)
      (fun _ => List.mem_of_getElem? (i := 6) rfl) fun _ => rfl⟩
  · exact ⟨.magic, Manner.fits_of_mem (fun q d => runCode q d.body)
      (fun _ => List.mem_of_getElem? (i := 2) rfl) fun _ => rfl⟩
  · exact ⟨.magic, Manner.fits_of_mem (fun q d => runCode q d.body)
      (fun _ => List.mem_of_getElem? (i := 3) rfl) fun _ => rfl⟩
  · exact ⟨.magic, Manner.fits_of_mem (fun q d => runCode q d.body)
      (fun _ => List.mem_of_getElem? (i := 4) rfl) fun _ => rfl⟩

variable {p : Platform σ} {cell code : String}

/-- A cell with plain code does the same on every platform. -/
theorem exists_manner_of_plainCode? (h : plainCode? p cell = some code) :
    (trim cell).isEmpty = false ∧ ∃ manner : Manner, ∀ (τ : Type) (q : Platform τ),
      route q (Magic.builtins q) (trim cell) = manner.run q code := by
  simp only [plainCode?] at h
  split at h
  · cases h
  next hplain =>
    rw [Bool.or_eq_true, not_or] at hplain
    refine ⟨by simpa using hplain.1, ?_⟩
    have hescape : stripStart? "!" (trim cell) = none := by simpa using hplain.2
    simp only [route, hescape]
    cases hd : Directive.ofCell? (trim cell) with
    | none =>
      rw [hd] at h
      cases h
      exact ⟨.bare, fun _ _ => rfl⟩
    | some d =>
      rw [hd] at h
      dsimp only at h
      simp only [Option.bind_some]
      split at h
      · next hunknown =>
        cases h
        refine ⟨.bare, fun _ q => ?_⟩
        have hq := (Magic.lookup_builtins_eq_none_congr p q d.scope d.name).mp (by simpa using hunknown)
        rw [hq]
        rfl
      · obtain ⟨manner, hmanner⟩ := exists_manner_of_directive h
        refine ⟨manner, fun _ q => ?_⟩
        obtain ⟨handler, hlookup, hrun⟩ := hmanner _ q
        rw [hlookup]
        exact hrun

theorem Manner.records_run (manner : Manner) (code : String) :
    Records withRecord (fun result => ErrorShows p result.1)
      (manner.run p.recorded code) (manner.run p code) := by
  cases manner with
  | bare => exact records_executeCode p code
  | magic =>
    exact (records_runCode p code).bind fun _ => records_pure fun _ h => by simpa using h
  | measured =>
    exact (records_wallTime p code).bind fun _ => records_pure fun _ h => by simpa using h

/-- A cell with plain code ends on the recorded platform as on the plain one, and its output is an error
exactly when one of its requests was refused. -/
theorem records_execute_of_plainCode? (h : plainCode? p cell = some code) :
    Records withRecord (ErrorShows p) (execute p.recorded (Magic.builtins p.recorded) cell)
      (execute p (Magic.builtins p) cell) := by
  obtain ⟨hcode, manner, hroute⟩ := exists_manner_of_plainCode? h
  refine (KernelM.silent_modifyContext _).bind fun _ => ?_
  dsimp only
  rw [hcode, hroute, hroute]
  refine KernelM.silent_getContext.bind fun before => ?_
  refine (manner.records_run code).bind fun result => ?_
  refine KernelM.silent_getContext.bind fun after => ?_
  split
  · refine (KernelM.silent_modifyContext _).bind fun _ => ?_
    exact records_pure fun _ hresult => by simpa using hresult
  · exact records_pure fun _ hresult => by simpa using hresult

end Kernel

/-! ## Cells that end -/

/-- None of the requests that plain code needs makes the evaluator panic. -/
structure Evaluator.NeverPanics (ev : Evaluator σ) : Prop where
  runStatements : ∀ code, Ends (ev.runStatements code)
  evalExpression : ∀ code, Ends (ev.evalExpression code)
  isExpression : ∀ line, Ends (ev.isExpression line)
  beginCapture : Ends ev.beginCapture
  endCapture : Ends ev.endCapture
  takePlot : Ends ev.takePlot

namespace Evaluator.NeverPanics

variable {ev : Evaluator σ}

theorem ends_shape (h : ev.NeverPanics) (code : String) : Ends (shape ev.isExpression code) := by
  unfold shape
  cases candidate? code with
  | none => exact ends_pure _
  | some c =>
    refine (h.isExpression c.final).bind fun accepted => ?_
    cases accepted <;> exact ends_pure _

theorem ends_runShape (h : ev.NeverPanics) (code : String) (shape : Shape) :
    Ends (ev.runShape code shape) := by
  cases shape with
  | statements =>
    refine (h.runStatements code).bind fun result => ?_
    cases result <;> exact ends_pure _
  | expression setup final =>
    cases setup with
    | none => exact h.evalExpression final
    | some setup =>
      refine (h.runStatements setup).bind fun result => ?_
      cases result with
      | ok => exact h.evalExpression final
      | error => exact ends_pure _

theorem ends_collect (h : ev.NeverPanics) : Ends ev.collect := by
  refine h.endCapture.bind fun streams => ?_
  cases streams <;> exact ends_pure _

theorem ends_capture (h : ev.NeverPanics) {work : Act σ (Except Failure α)} (hwork : Ends work) :
    Ends (ev.capture work) := by
  refine h.beginCapture.bind fun begun => ?_
  cases begun with
  | error => exact ends_pure _
  | ok =>
    refine (hwork.onPanic _).bind fun outcome => h.ends_collect.bind fun streams => ?_
    exact h.takePlot.bind fun plot => ends_pure _

theorem ends_runCode (h : ev.NeverPanics) (code : String) : Ends (ev.runCode code) :=
  (h.ends_shape code).bind fun shape => h.ends_capture (h.ends_runShape code shape)

end Evaluator.NeverPanics

namespace Kernel

variable {p : Platform σ}

theorem ends_executeCode (hp : p.evaluator.NeverPanics) (code : String) :
    Ends (executeCode p code) :=
  (hp.ends_runCode code).zoom.bind fun _ => ends_pure _

theorem ends_runCode (hp : p.evaluator.NeverPanics) (code : String) : Ends (runCode p code) :=
  (ends_executeCode hp code).bind fun _ => ends_pure _

theorem ends_wallTime (hp : p.evaluator.NeverPanics) (code : String) :
    Ends (Timing.wallTime p code) := by
  have hclock : Ends (KernelM.onMachine (Act.ofUpdate p.host.monotonic)) :=
    fun _ => ⟨_, _, rfl⟩
  exact hclock.bind fun _ => (ends_runCode hp code).bind fun _ => hclock.bind fun _ => ends_pure _

theorem Manner.ends_run (hp : p.evaluator.NeverPanics) (manner : Manner) (code : String) :
    Ends (manner.run p code) := by
  cases manner with
  | bare => exact ends_executeCode hp code
  | magic => exact (ends_runCode hp code).bind fun _ => ends_pure _
  | measured => exact (ends_wallTime hp code).bind fun _ => ends_pure _

theorem ends_execute_of_plainCode? (hp : p.evaluator.NeverPanics) {cell code : String}
    (h : plainCode? p cell = some code) : Ends (execute p (Magic.builtins p) cell) := by
  obtain ⟨hcode, manner, hroute⟩ := exists_manner_of_plainCode? h
  have hget : Ends (KernelM.getContext (σ := σ)) := fun _ => ⟨_, _, rfl⟩
  have hmodify (f : Context → Context) : Ends (KernelM.modifyContext (σ := σ) f) :=
    fun _ => ⟨_, _, rfl⟩
  refine (hmodify _).bind fun _ => ?_
  dsimp only
  rw [hcode, hroute]
  refine hget.bind fun before => (manner.ends_run hp code).bind fun result => hget.bind fun after => ?_
  split
  · exact (hmodify _).bind fun _ => ends_pure _
  · exact ends_pure _

end Kernel

end NotebookKernel
