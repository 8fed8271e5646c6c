import NotebookKernel.Proofs.Kernel.Routes
import NotebookKernel.Proofs.Source.Cuts

/-!
# What plain code is cut into

`Evaluator.NeverFails.records_runCode` says what an evaluator that never fails is asked for plain code:
the probe about the line at the cut, if there is a cut, and between the begin and the end of a capture
the texts of the shape. `Kernel.runs_each_line_once` puts this together with the place of the cut: the
texts that are run have the significant lines of the cell, each of them once.
-/

namespace NotebookKernel

open Source Text

open Act hiding pure

variable {σ α β : Type}

/-- Whatever the state, the action ends without a failure. -/
def Act.Succeeds (act : Act σ (Except Failure α)) : Prop :=
  ∀ s, ∃ a t, act s = (some (.ok a), t)

theorem Act.Succeeds.ends {act : Act σ (Except Failure α)} (h : Succeeds act) : Ends act := by
  intro s
  obtain ⟨a, t, hrun⟩ := h s
  exact ⟨.ok a, t, hrun⟩

/-- None of the requests that plain code needs fails. -/
structure Evaluator.NeverFails (ev : Evaluator σ) : Prop where
  runStatements : ∀ code, Succeeds (ev.runStatements code)
  evalExpression : ∀ code, Succeeds (ev.evalExpression code)
  isExpression : ∀ line, Ends (ev.isExpression line)
  beginCapture : Succeeds ev.beginCapture
  endCapture : Succeeds ev.endCapture
  takePlot : Succeeds ev.takePlot

/-- The commands that run the code of a known shape. -/
def Source.Shape.commands (code : String) : Shape → List Command
  | .statements => [.exec code]
  | .expression setup final => (setup.map Command.exec).toList ++ [.eval final]

/-- The text that a command runs in the namespace. -/
def Command.text? : Command → Option String
  | .exec code => some code
  | .eval code => some code
  | _ => none

theorem Source.Shape.filterMap_text?_commands (code : String) (shape : Shape) :
    (shape.commands code).filterMap Command.text? = shape.texts code := by
  cases shape with
  | statements => rfl
  | expression setup final => cases setup <;> rfl

/-- What may be asked before plain code runs: nothing, or the probe about the line at the cut. -/
def Source.IsProbing (code : String) (commands : List Command) : Prop :=
  commands = [] ∨ ∃ above line below, Cut code above line below ∧ commands = [.probe (trim line)]

/-! ## Given commands -/

namespace Asked

/-- The value satisfies `Q`, and these commands were given. -/
def Gave (Q : α → Prop) (given : List Command) (a : α) (asked : List (Asked σ)) : Prop :=
  Q a ∧ commands asked = given

/-- The result is no failure. -/
def Fine (result : Except Failure α) : Prop := result.isOk = true

/-- The commands of two actions add up. What the first one gives may be used for the second. -/
theorem gave_bind {Q : α → Prop} {R : β → Prop} {first : List Command} (second : List Command)
    {act' : Act (σ × List (Asked σ)) α} {act : Act σ α} {next' : α → Act (σ × List (Asked σ)) β}
    {next : α → Act σ β} (hact : Records Prod.mk (Gave Q first) act' act)
    (hnext : ∀ a, Records Prod.mk (fun b asked => Q a → Gave R second b asked) (next' a) (next a)) :
    Records Prod.mk (Gave R (first ++ second)) (act' >>= next') (act >>= next) := by
  refine hact.bind fun a => (hnext a).mono fun b later hlater earlier ⟨ha, hearlier⟩ => ?_
  obtain ⟨hb, hlater⟩ := hlater ha
  refine ⟨hb, ?_⟩
  rw [commands, List.map_append, ← hearlier, ← hlater]
  rfl

theorem gave_recorded {act : Act σ (Except Failure α)} (h : Succeeds act) (command : Command) :
    Records Prod.mk (Gave Fine [command]) (act.recorded command) act := by
  refine (records_recorded command act).mono ?_
  rintro result _ ⟨s, rfl, hresult⟩
  obtain ⟨a, t, hrun⟩ := h s
  rw [hrun] at hresult
  cases hresult
  exact ⟨rfl, rfl⟩

end Asked

namespace Evaluator.NeverFails

open Asked

variable {ev : Evaluator σ}

theorem neverPanics (h : ev.NeverFails) : ev.NeverPanics where
  runStatements code := (h.runStatements code).ends
  evalExpression code := (h.evalExpression code).ends
  isExpression := h.isExpression
  beginCapture := h.beginCapture.ends
  endCapture := h.endCapture.ends
  takePlot := h.takePlot.ends

theorem gave_runShape (h : ev.NeverFails) (code : String) (shape : Shape) :
    Records Prod.mk (Gave Fine (shape.commands code))
      (ev.recorded.runShape code shape) (ev.runShape code shape) := by
  have hexec (code : String) :
      Records Prod.mk (Gave Fine [.exec code]) (ev.recorded.runStatements code)
        (ev.runStatements code) :=
    gave_recorded (h.runStatements code) _
  have heval (code : String) :
      Records Prod.mk (Gave Fine [.eval code]) (ev.recorded.evalExpression code)
        (ev.evalExpression code) :=
    gave_recorded (h.evalExpression code) _
  cases shape with
  | statements =>
    refine gave_bind [] (hexec code) fun result => ?_
    cases result with
    | ok => exact records_pure fun _ => ⟨rfl, rfl⟩
    | error => exact records_pure nofun
  | expression setup final =>
    cases setup with
    | none => exact heval final
    | some setup =>
      refine gave_bind [.eval final] (hexec setup) fun result => ?_
      cases result with
      | ok => exact (heval final).mono fun _ _ hgave _ => hgave
      | error => exact records_pure nofun

theorem gave_collect (h : ev.NeverFails) :
    Records Prod.mk (Gave (fun _ => True) [.captureEnd]) ev.recorded.collect ev.collect := by
  have hend : Records Prod.mk (Gave Fine [.captureEnd]) ev.recorded.endCapture ev.endCapture :=
    gave_recorded h.endCapture _
  refine gave_bind [] hend fun result => ?_
  cases result <;> exact records_pure fun _ => ⟨trivial, rfl⟩

/-- The commands of the work stand between the begin and the end of the capture. -/
theorem gave_capture (h : ev.NeverFails) {commands : List Command}
    {work' : Act (σ × List (Asked σ)) (Except Failure α)} {work : Act σ (Except Failure α)}
    (hwork : Records Prod.mk (Gave Fine commands) work' work) :
    Records Prod.mk (Gave (fun c : Captured α => Fine c.outcome)
        (.captureBegin :: commands ++ [.captureEnd, .plot]))
      (ev.recorded.capture work') (ev.capture work) := by
  have hbegin : Records Prod.mk (Gave Fine [.captureBegin]) ev.recorded.beginCapture
      ev.beginCapture := gave_recorded h.beginCapture _
  have hplot : Records Prod.mk (Gave Fine [.plot]) ev.recorded.takePlot ev.takePlot :=
    gave_recorded h.takePlot _
  refine gave_bind (commands ++ [.captureEnd, .plot]) hbegin fun begun => ?_
  cases begun with
  | error => exact records_pure nofun
  | ok =>
    have hcleanup := h.gave_collect.bind (R := fun _ _ => True)
      fun _ => records_pure (a := ()) fun _ _ => trivial
    refine Records.mono ?_ fun _ _ hgave _ => hgave
    refine gave_bind _ (hwork.onPanic hcleanup) fun outcome => ?_
    -- Whatever the outcome, the end of the capture and the plot follow and leave it as it is.
    suffices hrest : Records Prod.mk
        (Gave (fun c : Captured α => c.outcome = outcome) [.captureEnd, .plot]) _ _ from
      hrest.mono fun c _ ⟨houtcome, hcommands⟩ hfine =>
        ⟨(congrArg Fine houtcome).mpr hfine, hcommands⟩
    refine gave_bind [.plot] h.gave_collect fun streams => ?_
    refine Records.mono ?_ fun _ _ hgave _ => hgave
    exact gave_bind [] hplot fun plot => records_pure fun _ => ⟨rfl, rfl⟩

end Evaluator.NeverFails

/-- The probe is the one request that is made to find the shape, and it is about the line at the
cut. -/
theorem Evaluator.records_probing (ev : Evaluator σ) (code : String) :
    Records Prod.mk (fun shape asked => IsProbing code (Asked.commands asked) ∧
        (shape.texts code).flatMap (fun text => significantLines (lines text))
          = significantLines (lines code))
      (shape ev.recorded.isExpression code) (shape ev.isExpression code) := by
  have hwhole : (Shape.statements.texts code).flatMap (fun text => significantLines (lines text))
      = significantLines (lines code) := List.flatMap_singleton _ _
  rcases exists_cut_or_forall_not code with ⟨above, line, below, hcut⟩ | hnone
  · rw [hcut.shape_eq, hcut.shape_eq]
    refine (records_recorded (.probe (trim line)) (ev.isExpression (trim line))).bind fun accepted => ?_
    have hprobing (s : σ) : IsProbing code (Asked.commands ([⟨.probe (trim line), s⟩] ++ [])) :=
      .inr ⟨above, line, below, hcut, rfl⟩
    cases accepted with
    | true =>
      refine records_pure ?_
      rintro _ ⟨s, rfl, -⟩
      exact ⟨hprobing s, hcut.significantLines_texts⟩
    | false =>
      refine records_pure ?_
      rintro _ ⟨s, rfl, -⟩
      exact ⟨hprobing s, hwhole⟩
  · rw [shape_eq_statements hnone, shape_eq_statements hnone]
    exact records_pure ⟨.inl rfl, hwhole⟩

namespace Kernel

/-- Plain code ends without a failure, and the record shows how it was cut and run. -/
structure RunsOnce (p : Platform σ) (code : String) (k : Kernel σ) (shape : Shape)
    (asked : List (Asked σ)) : Prop where
  classified : (Source.shape p.evaluator.isExpression code k.machine).1 = some shape
  succeeds : ∃ o k', executeCode p code k = (some (o, true), k') ∧
    executeCode p.recorded code (k.withRecord []) = (some (o, true), k'.withRecord asked)
  commands_eq : ∃ probing, IsProbing code probing ∧
    Asked.commands asked = probing ++ (.captureBegin :: shape.commands code ++ [.captureEnd, .plot])
  /-- The texts that were run have the significant lines of the cell, in order and each of them
  once. -/
  covers : ((Asked.commands asked).filterMap Command.text?).flatMap
    (fun text => significantLines (lines text)) = significantLines (lines code)

theorem exists_runsOnce {p : Platform σ} (hp : p.evaluator.NeverFails) (code : String)
    (k : Kernel σ) : ∃ shape asked, RunsOnce p code k shape asked := by
  obtain ⟨shape, t, hshape⟩ := hp.neverPanics.ends_shape code k.machine
  obtain ⟨probing, hshape', hprobing⟩ := p.evaluator.records_probing code k.machine []
  rw [hshape] at hshape' hprobing
  obtain ⟨hprobing, hcovers⟩ := hprobing shape rfl
  have hwork := hp.gave_capture (hp.gave_runShape code shape)
  obtain ⟨c, u, hcapture⟩ := hp.neverPanics.ends_capture (hp.neverPanics.ends_runShape code shape) t
  obtain ⟨asked, hcapture', hgave⟩ := hwork t ([] ++ probing)
  rw [hcapture] at hcapture' hgave
  obtain ⟨hfine, hcommands⟩ := hgave c rfl
  have hrun : p.evaluator.runCode code k.machine = (some c, u) := by
    rw [Evaluator.runCode, bind_run_of_some hshape, hcapture]
  have hrun' : p.recorded.evaluator.runCode code (k.withRecord []).machine
      = (some c, u, probing ++ asked) := by
    rw [Evaluator.runCode]
    exact (bind_run_of_some hshape' _).trans hcapture'
  have hasked : Asked.commands (probing ++ asked)
      = Asked.commands probing ++ Asked.commands asked := List.map_append
  refine ⟨shape, probing ++ asked, by rw [hshape], ⟨c.output, k.onto u, ?_, ?_⟩,
    ⟨Asked.commands probing, hprobing, by rw [hasked, hcommands]⟩, ?_⟩
  · rw [executeCode_run, hrun]
    exact congrArg (fun ok => (some (c.output, ok), k.onto u)) hfine
  · rw [executeCode_run, hrun']
    exact congrArg (fun ok => (some (c.output, ok), (k.onto u).withRecord (probing ++ asked))) hfine
  · have hnone : (Asked.commands probing).filterMap Command.text? = [] := by
      obtain hnil | ⟨_, _, _, -, hprobe⟩ := hprobing
      · rw [hnil, List.filterMap_nil]
      · rw [hprobe]
        rfl
    have htexts : (Asked.commands asked).filterMap Command.text? = shape.texts code := by
      rw [hcommands, List.filterMap_append, List.filterMap_cons_none rfl,
        shape.filterMap_text?_commands]
      exact List.append_nil _
    rw [hasked, List.filterMap_append, hnone, List.nil_append, htexts, hcovers]

/-- Whatever the probe is and does, a cell can be cut only at its last line that is neither blank nor a
comment, if that line is not indented, continues no line and looks like no statement. There the probe is
asked once and decides; without such a cut it is not asked, and the cell is run as it is. On an evaluator
that never fails, what is run has every significant line of the cell once and in order. -/
theorem runs_each_line_once (code : String) :
    ((∃ above line below, Cut code above line below ∧
        ∀ (m : Type → Type) [Monad m] (probe : String → m Bool), shape probe code = (do
          if ← probe (trim line) then pure (.expression (setupOf above) (trim line))
          else pure .statements)) ∨
      (∀ above line below, ¬Cut code above line below) ∧
        ∀ (m : Type → Type) [Monad m] (probe : String → m Bool),
          shape probe code = pure .statements) ∧
    ∀ (p : Platform σ), p.evaluator.NeverFails → ∀ k : Kernel σ,
      ∃ shape asked, RunsOnce p code k shape asked := by
  refine ⟨?_, fun p hp k => exists_runsOnce hp code k⟩
  rcases exists_cut_or_forall_not code with ⟨above, line, below, hcut⟩ | hnone
  · exact .inl ⟨above, line, below, hcut, fun m _ probe => hcut.shape_eq probe⟩
  · exact .inr ⟨hnone, fun m _ probe => shape_eq_statements hnone probe⟩

end Kernel

/-- An evaluator that takes everything for an expression and has nothing to say. -/
def Evaluator.willing : Evaluator Nat :=
  { Evaluator.bare with
    runStatements := fun _ => pure (.ok ())
    isExpression := fun _ => pure true }

theorem Evaluator.neverFails_willing : Evaluator.willing.NeverFails where
  runStatements _ s := ⟨_, s, rfl⟩
  evalExpression _ s := ⟨_, s, rfl⟩
  isExpression _ := ends_pure _
  beginCapture s := ⟨_, s + 1, rfl⟩
  endCapture s := ⟨_, s - 1, rfl⟩
  takePlot s := ⟨_, s, rfl⟩

namespace Kernel

theorem runs_each_line_once_of_two_lines :
    Evaluator.willing.NeverFails ∧
      ∃ asked, RunsOnce ⟨Evaluator.willing, Host.bare⟩ "x = 1\n\nx # twice\n# done" Kernel.bare
        (.expression (some "x = 1\n") "x # twice") asked := by
  obtain ⟨shape, asked, h⟩ := (runs_each_line_once "x = 1\n\nx # twice\n# done").2
    ⟨Evaluator.willing, Host.bare⟩ Evaluator.neverFails_willing Kernel.bare
  have hshape : (Source.shape Evaluator.willing.isExpression "x = 1\n\nx # twice\n# done" 0).1
      = some (.expression (some "x = 1\n") "x # twice") := by
    decide +kernel
  cases hshape.symm.trans h.classified
  exact ⟨Evaluator.neverFails_willing, asked, h⟩

end Kernel

end NotebookKernel
