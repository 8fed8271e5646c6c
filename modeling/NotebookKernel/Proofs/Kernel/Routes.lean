import NotebookKernel.Proofs.Kernel.Counter
import NotebookKernel.Proofs.Kernel.Traces
import NotebookKernel.Proofs.Source.Directives

/-!
# Ways to run plain code

Plain code may stand in a cell by itself or below one of the cell magics `python`, `python3`, `capture`
and `time`, and a cell with a magic that nobody knows is plain code as a whole. `Kernel.routes_agree`
says that all these ways make the same requests to the evaluator and give the same output, to which
`time` adds its line.
-/

namespace NotebookKernel

open Source Text

open Act hiding pure

variable {σ τ α : Type}

/-! ## States that are not told apart -/

namespace Act

/-- On states that are related the two actions give the same, and the states stay related. -/
def Agrees (R : σ → τ → Prop) (act : Act σ α) (act' : Act τ α) : Prop :=
  ∀ s t, R s t → (act s).1 = (act' t).1 ∧ R (act s).2 (act' t).2

variable {R : σ → τ → Prop}

theorem agrees_pure (a : α) : Agrees R (Pure.pure a) (Pure.pure a) := fun _ _ hR => ⟨rfl, hR⟩

theorem Agrees.bind {β : Type} {act : Act σ α} {act' : Act τ α} {next : α → Act σ β}
    {next' : α → Act τ β} (h : Agrees R act act') (hnext : ∀ a, Agrees R (next a) (next' a)) :
    Agrees R (act >>= next) (act' >>= next') := by
  intro s t hR
  obtain ⟨hsame, hR⟩ := h s t hR
  rcases hact : act s with ⟨_ | a, u⟩ <;> rcases hact' : act' t with ⟨_ | a', u'⟩ <;>
    rw [hact, hact'] at hsame hR <;> cases hsame
  · rw [bind_run_of_none hact, bind_run_of_none hact']
    exact ⟨rfl, hR⟩
  · rw [bind_run_of_some hact, bind_run_of_some hact']
    exact hnext a u u' hR

theorem Agrees.onPanic {act : Act σ α} {act' : Act τ α} {cleanup : Act σ Unit}
    {cleanup' : Act τ Unit} (h : Agrees R act act') (hcleanup : Agrees R cleanup cleanup') :
    Agrees R (act.onPanic cleanup) (act'.onPanic cleanup') := by
  intro s t hR
  obtain ⟨hsame, hR⟩ := h s t hR
  rcases hact : act s with ⟨_ | a, u⟩ <;> rcases hact' : act' t with ⟨_ | a', u'⟩ <;>
    rw [hact, hact'] at hsame hR <;> cases hsame
  · simp only [Act.onPanic, hact, hact']
    exact ⟨trivial, (hcleanup u u' hR).2⟩
  · simp only [Act.onPanic, hact, hact']
    exact ⟨trivial, hR⟩

end Act

/-- The evaluator does not tell related states apart: what it is asked in the course of a cell comes to
the same in both, and leaves them related. -/
structure Evaluator.Overlooks (ev : Evaluator σ) (R : σ → σ → Prop) : Prop where
  runStatements : ∀ code, Agrees R (ev.runStatements code) (ev.runStatements code)
  evalExpression : ∀ code, Agrees R (ev.evalExpression code) (ev.evalExpression code)
  isExpression : ∀ line, Agrees R (ev.isExpression line) (ev.isExpression line)
  beginCapture : Agrees R ev.beginCapture ev.beginCapture
  endCapture : Agrees R ev.endCapture ev.endCapture
  takePlot : Agrees R ev.takePlot ev.takePlot
  runIsolated : ∀ code file, Agrees R (ev.runIsolated code file) (ev.runIsolated code file)
  timeStatements : ∀ code loops,
    Agrees R (ev.timeStatements code loops) (ev.timeStatements code loops)

/-- The commands that were given, without the states in which that was. -/
def Asked.commands (asked : List (Asked σ)) : List Command := asked.map Asked.command

/-- States with records that are related apart from the states in the records. -/
def Asked.Alike (R : σ → σ → Prop) (s t : σ × List (Asked σ)) : Prop :=
  R s.1 t.1 ∧ Asked.commands s.2 = Asked.commands t.2

theorem Act.Agrees.recorded {R : σ → σ → Prop} {act : Act σ α} (h : Agrees R act act)
    (command : Command) :
    Agrees (Asked.Alike R) (act.recorded command) (act.recorded command) := by
  rintro ⟨s, asked⟩ ⟨t, asked'⟩ ⟨hR, hcommands⟩
  obtain ⟨hsame, hR⟩ := h s t hR
  refine ⟨hsame, hR, ?_⟩
  simp only [Asked.commands, Act.recorded, List.map_append] at hcommands ⊢
  rw [hcommands]
  rfl

theorem Evaluator.Overlooks.uniform {ev : Evaluator σ} {R : σ → σ → Prop} (h : ev.Overlooks R) :
    Uniform (Agrees (Asked.Alike R)) ev.recorded ev.recorded where
  pure := agrees_pure
  bind := Agrees.bind
  onPanic := Agrees.onPanic
  runStatements code := (h.runStatements code).recorded _
  evalExpression code := (h.evalExpression code).recorded _
  isExpression line := (h.isExpression line).recorded _
  beginCapture := h.beginCapture.recorded _
  endCapture := h.endCapture.recorded _
  takePlot := h.takePlot.recorded _
  runIsolated code file := (h.runIsolated code file).recorded _
  timeStatements code loops := (h.timeStatements code loops).recorded _

theorem Act.agrees_zoom (act : Act σ α) :
    Agrees (fun s t : σ × τ => s.1 = t.1) (act.zoom Prod.fst fun t s => (s, t.2))
      (act.zoom Prod.fst fun t s => (s, t.2)) := by
  rintro ⟨s, x⟩ ⟨t, y⟩ hR
  cases hR
  exact ⟨rfl, rfl⟩

/-- An evaluator with a state of its own overlooks all other changes. -/
theorem Evaluator.overlooks_zoom (ev : Evaluator σ) :
    (ev.zoom Prod.fst fun (t : σ × τ) s => (s, t.2)).Overlooks fun s t => s.1 = t.1 where
  runStatements _ := agrees_zoom _
  evalExpression _ := agrees_zoom _
  isExpression _ := agrees_zoom _
  beginCapture := agrees_zoom _
  endCapture := agrees_zoom _
  takePlot := agrees_zoom _
  runIsolated _ _ := agrees_zoom _
  timeStatements _ _ := agrees_zoom _

namespace Kernel

/-! ## Plain code as it is -/

/-- Runs a text as plain code, whatever it looks like. It counts if it ends without a failure. -/
def runPlainly (p : Platform σ) (code : String) : KernelM σ Output := do
  KernelM.modifyContext fun c => { c with interrupted := false }
  let (output, succeeded) ← executeCode p code
  if succeeded then KernelM.modifyContext fun c => { c with executionCount := c.executionCount + 1 }
  pure output

theorem executeCode_run (p : Platform σ) (code : String) (k : Kernel σ) :
    executeCode p code k = match p.evaluator.runCode code k.machine with
      | (some c, s) => (some (c.output, c.outcome.isOk), k.onto s)
      | (none, s) => (none, k.onto s) := by
  have hrun : KernelM.onMachine (p.evaluator.runCode code) k
      = ((p.evaluator.runCode code k.machine).1, k.onto (p.evaluator.runCode code k.machine).2) := rfl
  simp only [executeCode, bind_run, hrun]
  rcases p.evaluator.runCode code k.machine with ⟨_ | c, s⟩ <;> rfl

theorem runCode_run (p : Platform σ) (code : String) (k : Kernel σ) :
    runCode p code k = match p.evaluator.runCode code k.machine with
      | (some c, s) => (some c.output, k.onto s)
      | (none, s) => (none, k.onto s) := by
  simp only [runCode, bind_run, executeCode_run]
  rcases p.evaluator.runCode code k.machine with ⟨_ | c, s⟩ <;> rfl

theorem runPlainly_run (p : Platform σ) (code : String) (k : Kernel σ) :
    runPlainly p code k = match p.evaluator.runCode code k.machine with
      | (some c, s) =>
        (some c.output, if c.outcome.isOk then (k.uninterrupted.onto s).counted
          else k.uninterrupted.onto s)
      | (none, s) => (none, k.uninterrupted.onto s) := by
  have hclear : KernelM.modifyContext (fun c => { c with interrupted := false }) k
      = (some (), k.uninterrupted) := rfl
  have hmachine : k.uninterrupted.machine = k.machine := rfl
  rw [runPlainly, bind_run_of_some hclear, bind_run, executeCode_run, hmachine]
  rcases p.evaluator.runCode code k.machine with ⟨_ | c, s⟩
  · rfl
  · dsimp only
    split <;> rfl

theorem runPlainly_fst (p : Platform σ) (code : String) (k : Kernel σ) :
    (runPlainly p code k).1 = (p.evaluator.runCode code k.machine).1.map Captured.output := by
  rw [runPlainly_run]
  rcases p.evaluator.runCode code k.machine with ⟨_ | c, s⟩ <;> rfl

theorem machine_runPlainly (p : Platform σ) (code : String) (k : Kernel σ) :
    (runPlainly p code k).2.machine = (p.evaluator.runCode code k.machine).2 := by
  rw [runPlainly_run]
  rcases p.evaluator.runCode code k.machine with ⟨_ | c, s⟩
  · rfl
  · dsimp only
    split <;> rfl

/-! ## Cells that come to plain code -/

section Routes

variable {p : Platform σ} {r : Registry (Handler σ)} {cell code : String}

theorem execute_eq_runPlainly (hcode : (trim cell).isEmpty = false)
    (hroute : route p r (trim cell) = executeCode p (trim cell)) :
    execute p r cell = runPlainly p (trim cell) := by
  funext k
  have hrun := congrFun hroute k.uninterrupted
  have hmachine : k.uninterrupted.machine = k.machine := rfl
  rw [executeCode_run, hmachine] at hrun
  rw [runPlainly_run]
  rcases hcaptured : p.evaluator.runCode (trim cell) k.machine with ⟨_ | c, s⟩ <;>
    rw [hcaptured] at hrun
  · exact execute_of_route_none hcode hrun
  · have hgeneration : ((k.uninterrupted.onto s).context.generation == k.context.generation) = true :=
      beq_self_eq_true _
    rw [execute_of_route hcode hrun, hgeneration, Bool.and_true]
    dsimp only
    split <;> rfl

theorem execute_of_code {text : String} (h : Route.ofCell r cell = .code text) :
    execute p r cell = runPlainly p (trim cell) :=
  execute_eq_runPlainly (route_of_code (p := p) h).1 (route_of_code h).2

end Routes

/-- A text that is plain code where the magics of a registry are known, without blanks around it. -/
structure IsPlain {H : Type} (r : Registry H) (code : String) : Prop where
  nonempty : code ≠ ""
  trimmed : trim code = code
  noEscape : startsWith "!" code = false
  unknown : ∀ d, Directive.ofCell? code = some d → r.lookup d.scope d.name = none

theorem stripStart?_of_startsWith_eq_false {start s : String} (h : startsWith start s = false) :
    stripStart? start s = none := by
  rw [stripStart?, Option.map_eq_none_iff, Option.eq_none_iff_forall_ne_some]
  intro rest hrest
  rw [Chars.stripStart?_eq_some_iff] at hrest
  have hprefix : start.toList <+: s.toList := ⟨rest, hrest.symm⟩
  rw [startsWith, List.isPrefixOf_iff_prefix.mpr hprefix] at h
  cases h

theorem IsPlain.ofCell_eq {H : Type} {r : Registry H} {code : String} (h : IsPlain r code) :
    Route.ofCell r code = .code code := by
  have hcode : code.isEmpty = false := by simpa using h.nonempty
  have hunknown : (Directive.ofCell? code).filter (fun d => (r.lookup d.scope d.name).isSome)
      = none := by
    rw [Option.filter_eq_none_iff]
    intro d hd
    simp [h.unknown d hd]
  simp only [Route.ofCell, h.trimmed, hcode, Bool.false_eq_true, if_false,
    stripStart?_of_startsWith_eq_false h.noEscape, hunknown]

/-- A directive with a magic that is known. -/
theorem route_of_ofCell? {p : Platform σ} {r : Registry (Handler σ)} {code : String} {d : Directive}
    {handler : Handler σ} (hd : Directive.ofCell? code = some d)
    (hlookup : r.lookup d.scope d.name = some handler) :
    route p r code = (do pure (← handler d, true)) := by
  obtain ⟨-, hescape⟩ := Directive.of_ofCell?_eq_some hd
  simp only [route, hescape, hd, Option.bind_some, hlookup, Option.map_some]

theorem route_of_directive {p : Platform σ} {r : Registry (Handler σ)} {cell : String} {d : Directive}
    {handler : Handler σ} (hd : Directive.ofCell? (trim cell) = some d)
    (hlookup : r.lookup d.scope d.name = some handler) :
    (trim cell).isEmpty = false ∧
      route p r (trim cell) = (do pure (← handler d, true)) :=
  ⟨(Directive.of_ofCell?_eq_some hd).1, route_of_ofCell? hd hlookup⟩

/-- A cell magic above a text is found, with the text for its body. -/
theorem route_of_head {p : Platform σ} {head name code : String} (handler : Handler σ)
    (hstart : head.toList.head? = some '%') (hline : '\n' ∉ head.toList)
    (hhead : Directive.ofCell? head = some ⟨.cell, name, "", ""⟩)
    (hmem : (name, handler) ∈ Magic.magics p .cell) (hne : code ≠ "") (htrimmed : trim code = code) :
    (trim (head ++ "\n" ++ code)).isEmpty = false ∧
      route p (Magic.builtins p) (trim (head ++ "\n" ++ code))
        = (do pure (← handler ⟨.cell, name, "", code⟩, true)) := by
  have hstart' : (head ++ "\n").toList.head? = some '%' := by
    rw [String.toList_append, List.head?_append, hstart]
    rfl
  have hdirective : Directive.ofCell? (trim (head ++ "\n" ++ code))
      = some ⟨.cell, name, "", code⟩ := by
    rw [trim_append hstart' (by decide) hne htrimmed, Directive.ofCell?_append hline, hhead]
    rfl
  have hlookup : (Magic.builtins p).lookup .cell name = some handler :=
    Magic.lookup_builtins_of_mem (m := (name, handler)) hmem
  exact route_of_directive hdirective hlookup

section Magics

variable {p : Platform σ} {r : Registry (Handler σ)} {cell code : String}

/-- A magic that runs plain code counts in any case. Else it does what plain code does. -/
theorem execute_of_runCode (hcode : (trim cell).isEmpty = false)
    (hroute : route p r (trim cell) = (do pure (← runCode p code, true))) (k : Kernel σ) :
    (execute p r cell k).1 = (runPlainly p code k).1 ∧
      (execute p r cell k).2.machine = (runPlainly p code k).2.machine := by
  have hact := runCode_run p code k.uninterrupted
  have hmachine : k.uninterrupted.machine = k.machine := rfl
  rw [hmachine] at hact
  rw [runPlainly_fst, machine_runPlainly]
  rcases hcaptured : p.evaluator.runCode code k.machine with ⟨_ | c, s⟩ <;> rw [hcaptured] at hact <;>
    rw [execute_of_magic hcode hroute (by rw [hact]; rfl), hact] <;> exact ⟨rfl, rfl⟩

theorem wallTime_run (p : Platform σ) (code : String) (k : Kernel σ) :
    Timing.wallTime p code k =
      let (start, s) := p.host.monotonic k.machine
      match p.evaluator.runCode code s with
      | (some c, s) =>
        let (stop, s) := p.host.monotonic s
        (some (Timing.withWallTime ⟨stop.nanos - start.nanos⟩ c.output), k.onto s)
      | (none, s) => (none, k.onto s) := by
  have hclock (k : Kernel σ) : KernelM.onMachine (Act.ofUpdate p.host.monotonic) k
      = (some (p.host.monotonic k.machine).1, k.onto (p.host.monotonic k.machine).2) := rfl
  rw [Timing.wallTime, bind_run_of_some (hclock k), bind_run, runCode_run]
  have hmachine (s : σ) : (k.onto s).machine = s := rfl
  dsimp only
  rw [hmachine]
  rcases p.evaluator.runCode code (p.host.monotonic k.machine).2 with ⟨_ | c, s⟩
  · rfl
  · exact bind_run_of_some (hclock _) _

/-- Where the evaluator overlooks the clock, code that is measured does what it does by itself. -/
theorem execute_of_wallTime {p : Platform σ} {r : Registry (Handler (σ × List (Asked σ)))}
    {R : σ → σ → Prop} (hR : p.evaluator.Overlooks R) (hclock : ∀ s, R s (p.host.monotonic s).2)
    (hcode : (trim cell).isEmpty = false)
    (hroute : route p.recorded r (trim cell) = (do pure (← Timing.wallTime p.recorded code, true)))
    (k : Kernel (σ × List (Asked σ))) :
    ∃ elapsed, (execute p.recorded r cell k).1
        = (runPlainly p.recorded code k).1.map (Timing.withWallTime elapsed) ∧
      Asked.commands (execute p.recorded r cell k).2.machine.2
        = Asked.commands (runPlainly p.recorded code k).2.machine.2 := by
  have hrelated : Asked.Alike R k.machine (p.recorded.host.monotonic k.machine).2 :=
    ⟨hclock k.machine.1, rfl⟩
  have hagrees : Agrees (Asked.Alike R) (p.recorded.evaluator.runCode code)
      (p.recorded.evaluator.runCode code) := hR.uniform.runCode code
  obtain ⟨hsame, -, hcommands⟩ := hagrees _ _ hrelated
  have hact := wallTime_run p.recorded code k.uninterrupted
  have hmachine : k.uninterrupted.machine = k.machine := rfl
  rw [hmachine] at hact
  rw [runPlainly_fst, machine_runPlainly, hsame, hcommands]
  rcases hstart : p.recorded.host.monotonic k.machine with ⟨start, s⟩
  simp only [hstart] at hact
  rcases hcaptured : p.recorded.evaluator.runCode code s with ⟨_ | c, t⟩
  · simp only [hcaptured] at hact
    rw [execute_of_magic hcode hroute (by rw [hact]; rfl), hact]
    exact ⟨⟨0⟩, rfl, rfl⟩
  · simp only [hcaptured] at hact
    rw [execute_of_magic hcode hroute (by rw [hact]; rfl), hact]
    exact ⟨_, rfl, rfl⟩

end Magics

/-- A cell of which the head looks like a magic that the registry does not know. -/
theorem ofCell_of_unknown {H : Type} {r : Registry H} {cell : String} {d : Directive}
    (hd : Directive.ofCell? (trim cell) = some d) (hunknown : r.lookup d.scope d.name = none) :
    Route.ofCell r cell = .code (trim cell) := by
  obtain ⟨hcode, hescape⟩ := Directive.of_ofCell?_eq_some hd
  simp only [Route.ofCell, hcode, Bool.false_eq_true, if_false, hescape, hd, Option.filter_some,
    hunknown, Option.isSome_none]

/-- The magics that run their body and do nothing else. -/
def bareMagics : List String := ["python", "python3", "capture"]

theorem mem_cellMagics_of_bare (p : Platform σ) {name : String} (hname : name ∈ bareMagics) :
    (name, fun d => runCode p d.body) ∈ Magic.magics p .cell := by
  simp only [bareMagics, List.mem_cons, List.not_mem_nil, or_false] at hname
  rcases hname with rfl | rfl | rfl
  · exact List.mem_of_getElem? (i := 2) rfl
  · exact List.mem_of_getElem? (i := 3) rfl
  · exact List.mem_of_getElem? (i := 4) rfl

/-- The line of such a magic is read as it should be. -/
theorem ofCell?_of_bare : ∀ name ∈ bareMagics,
    ("%%" ++ name).toList.head? = some '%' ∧ '\n' ∉ ("%%" ++ name).toList ∧
      Directive.ofCell? ("%%" ++ name) = some ⟨.cell, name, "", ""⟩ := by
  decide +kernel

theorem execute_of_bare {p : Platform σ} {name code : String} (hname : name ∈ bareMagics)
    (hne : code ≠ "") (htrimmed : trim code = code) (k : Kernel σ) :
    (execute p (Magic.builtins p) ("%%" ++ name ++ "\n" ++ code) k).1 = (runPlainly p code k).1 ∧
      (execute p (Magic.builtins p) ("%%" ++ name ++ "\n" ++ code) k).2.machine
        = (runPlainly p code k).2.machine := by
  obtain ⟨hstart, hline, hhead⟩ := ofCell?_of_bare name hname
  obtain ⟨hcode, hroute⟩ := route_of_head _ hstart hline hhead (mem_cellMagics_of_bare p hname) hne
    htrimmed
  exact execute_of_runCode hcode hroute k

/-- Two cells make the same requests to the evaluator, in the same states, and have the same output. -/
def RunsAs (p : Platform σ) (k : Kernel (σ × List (Asked σ))) (cell cell' : String) : Prop :=
  let run := execute p.recorded (Magic.builtins p.recorded)
  (run cell k).1 = (run cell' k).1 ∧ (run cell k).2.machine = (run cell' k).2.machine

/-- The first cell gives the commands that the second one does, and its output is the one of the second
with the line that tells how long it took. -/
def RunsMeasuredAs (p : Platform σ) (k : Kernel (σ × List (Asked σ))) (cell cell' : String) : Prop :=
  let run := execute p.recorded (Magic.builtins p.recorded)
  (∃ elapsed, (run cell k).1 = (run cell' k).1.map (Timing.withWallTime elapsed)) ∧
    Asked.commands (run cell k).2.machine.2 = Asked.commands (run cell' k).2.machine.2

/-- Plain code does the same by itself and below a magic that runs it. A magic that measures the time
adds its line to the output, and makes the same requests if the evaluator overlooks that the clock is
read. And a cell with a magic that the registry does not know is plain code as a whole. -/
theorem routes_agree (p : Platform σ) (q : Platform τ) :
    (∀ code, IsPlain (Magic.builtins p) code → ∀ k : Kernel (σ × List (Asked σ)),
      execute p.recorded (Magic.builtins p.recorded) code k = runPlainly p.recorded code k ∧
      (∀ name ∈ bareMagics, RunsAs p k ("%%" ++ name ++ "\n" ++ code) code) ∧
      ∀ R, p.evaluator.Overlooks R → (∀ s, R s (p.host.monotonic s).2) →
        RunsMeasuredAs p k ("%%time\n" ++ code) code) ∧
    ∀ (r : Registry (Handler τ)) cell d, Directive.ofCell? (trim cell) = some d →
      r.lookup d.scope d.name = none → execute q r cell = runPlainly q (trim cell) := by
  refine ⟨fun code hplain k => ?_, fun r cell d hd hunknown =>
    execute_of_code (ofCell_of_unknown hd hunknown)⟩
  have hplain' : IsPlain (Magic.builtins p.recorded) code :=
    ⟨hplain.nonempty, hplain.trimmed, hplain.noEscape, fun d hd =>
      (Magic.lookup_builtins_eq_none_congr p p.recorded d.scope d.name).mp (hplain.unknown d hd)⟩
  have hdirect : execute p.recorded (Magic.builtins p.recorded) code k
      = runPlainly p.recorded code k := by
    have hexecute := congrFun (execute_of_code (p := p.recorded) hplain'.ofCell_eq) k
    rwa [hplain.trimmed] at hexecute
  refine ⟨hdirect, fun name hname => ?_, fun R hR hclock => ?_⟩
  · have hbare := execute_of_bare (p := p.recorded) hname hplain.nonempty hplain.trimmed k
    rw [← hdirect] at hbare
    exact hbare
  · have hmem : ("time", fun d => Timing.wallTime p.recorded d.body)
        ∈ Magic.magics p.recorded .cell := List.mem_of_getElem? (i := 6) rfl
    have hhead : Directive.ofCell? "%%time" = some ⟨.cell, "time", "", ""⟩ := by decide +kernel
    obtain ⟨hcode, hroute⟩ := route_of_head _ (by decide) (by decide) hhead hmem hplain.nonempty
      hplain.trimmed
    have hcell : "%%time\n" ++ code = "%%time" ++ "\n" ++ code :=
      congrArg (· ++ code) (by decide : "%%time\n" = "%%time" ++ "\n")
    obtain ⟨elapsed, houtput, hcommands⟩ := execute_of_wallTime hR hclock hcode hroute k
    rw [← hcell, ← hdirect] at houtput hcommands
    exact ⟨⟨elapsed, houtput⟩, hcommands⟩

/-- A machine with a clock that goes on whenever it is read, and an evaluator that does not see it. -/
def tickingPlatform : Platform (Nat × Nat) where
  evaluator := Evaluator.bare.zoom Prod.fst fun t s => (s, t.2)
  host := { Host.bare with monotonic := fun s => (⟨s.2⟩, (s.1, s.2 + 1)) }

theorem routes_agree_on_ticking_clock :
    let p := tickingPlatform
    let k : Kernel ((Nat × Nat) × List (Asked (Nat × Nat))) := ⟨Kernel.bare.context, (0, 0), []⟩
    IsPlain (Magic.builtins p) "raise" ∧
      RunsAs p k ("%%" ++ "capture" ++ "\n" ++ "raise") "raise" ∧
      RunsMeasuredAs p k ("%%time\n" ++ "raise") "raise" ∧
      execute p ∅ " %%time\nraise" = runPlainly p "%%time\nraise" := by
  intro p k
  have hplain : IsPlain (Magic.builtins p) "raise" :=
    ⟨by decide, by decide, by decide, fun d hd => by
      have hnone : Directive.ofCell? "raise" = none := by decide
      rw [hnone] at hd
      cases hd⟩
  obtain ⟨-, hbare, htime⟩ := (routes_agree p p).1 "raise" hplain k
  have hcell : trim " %%time\nraise" = "%%time\nraise" := by decide +kernel
  have hhead : Directive.ofCell? "%%time\nraise" = some ⟨.cell, "time", "", "raise"⟩ := by
    decide +kernel
  have hunknown := (routes_agree p p).2 ∅ " %%time\nraise" _ (hcell ▸ hhead) rfl
  rw [hcell] at hunknown
  exact ⟨hplain, hbare "capture" (by decide),
    htime (fun s t => s.1 = t.1) Evaluator.bare.overlooks_zoom (fun _ => rfl), hunknown⟩

end Kernel

end NotebookKernel
