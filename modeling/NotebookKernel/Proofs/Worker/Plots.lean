import NotebookKernel.Proofs.Kernel.Routes
import NotebookKernel.Proofs.Text.Base64
import NotebookKernel.Proofs.Worker.Oversized

/-!
# Plots on their way from the worker

A worker sends the pending plot as a text in base 64, of which the session keeps the bytes, and the
output of the cell has a text in base 64 again. `Session.plot_passes_through` says that this is the text
that the worker sent, and that a text that cannot be read comes to no plot at all.
-/

namespace NotebookKernel

open Source Text

open Act hiding pure

variable {σ : Type}

/-! ## Code that runs without a failure -/

namespace Evaluator

/-- What code gives that runs without a failure, with the streams where these are collected and the
state in which the plot is asked for. -/
def finish? (ev : Evaluator σ) (code : String) (s : σ) : Option (Option String × Streams × σ) :=
  match Source.shape ev.isExpression code s with
  | (none, _) => none
  | (some shape, s) =>
    match ev.beginCapture s with
    | (some (.ok ()), s) =>
      match ev.runShape code shape s with
      | (some (.ok value), s) =>
        match ev.endCapture s with
        | (some (.ok streams), s) => some (value, streams, s)
        | _ => none
      | _ => none
    | _ => none

variable {ev : Evaluator σ} {code : String} {s t u : σ} {value : Option String} {streams : Streams}

/-- A plot that cannot be had is as good as none. -/
theorem runCode_of_finish? (h : ev.finish? code s = some (value, streams, t))
    {plot : Except Failure (Option Bytes)} (hplot : ev.takePlot t = (some plot, u)) :
    ev.runCode code s = (some ⟨.ok value, streams, plot.toOption.join⟩, u) := by
  unfold finish? at h
  split at h
  · cases h
  next shape s₁ hshape =>
  split at h
  case h_2 => cases h
  next s₂ hbegin =>
  split at h
  case h_2 => cases h
  next s₃ hrun =>
  split at h
  case h_2 => cases h
  next hend =>
  cases h
  have hwork : (ev.runShape code shape).onPanic (do let _ ← ev.collect) s₂
      = (some (.ok value), s₃) := by
    simp only [Act.onPanic, hrun]
  have hcollect : ev.collect s₃ = (some streams, t) := bind_run_of_some hend _
  rw [runCode, bind_run_of_some hshape, capture, bind_run_of_some hbegin]
  dsimp only
  rw [bind_run_of_some hwork, bind_run_of_some hcollect, bind_run_of_some hplot]
  cases plot <;> rfl

end Evaluator

/-! ## The plot of a worker -/

namespace Session

/-- The bytes of a plot, read from the text that the worker sent if it sent one. -/
def plotOf : Option String → Except Failure (Option Bytes)
  | none => .ok none
  | some image =>
    match Base64.decode? image with
    | some bytes => .ok (some bytes)
    | none => .error (.serialization "invalid plot data")

theorem ask_of_call {α : Type} {ps : Processes σ} {c : Command} {b b' : Workbench σ} {reply : Reply}
    {read : Reply → Option α} {a : α} (h : call ps c b = (some (.ok reply), b'))
    (hread : read reply = some a) : ask ps c read b = (some (.ok a), b') := by
  rw [ask, bind_run_of_some h]
  simp only [hread]
  rfl

theorem takePlot_of_call {ps : Processes σ} {b b' : Workbench σ} {png : Option String}
    (h : call ps .plot b = (some (.ok (.plot png)), b')) :
    takePlot ps b = (some (plotOf png), b') := by
  rw [takePlot]
  refine (bind_run_of_some (ask_of_call h (Eq.refl (some png))) _).trans ?_
  cases png with
  | none => rfl
  | some image =>
    rw [plotOf]
    dsimp only
    cases Base64.decode? image <;> rfl

/-- What code gives and prints that runs without a failure, and what the worker then sends for the
pending plot. -/
def drawn? (ps : Processes σ) (code : String) (b : Workbench σ) :
    Option (Option String × Streams × Option String) :=
  match (evaluator ps).finish? code b with
  | none => none
  | some (value, streams, b) =>
    match call ps .plot b with
    | (some (.ok (.plot png)), _) => some (value, streams, png)
    | _ => none

section

variable {h : Host σ} {ps : Processes σ} {r : Registry (Handler (Workbench σ))} {cell : String}
  {k : Kernel (Workbench σ)} {value : Option String} {streams : Streams} {png : Option String}

theorem execute_of_drawn? (hcell : Route.ofCell r cell = .code (trim cell))
    (hdrawn : drawn? ps (trim cell) k.machine = some (value, streams, png)) :
    (Kernel.execute (Workbench.platform h ps) r cell k).1 = some
      (match png.bind Base64.decode? with
        | some image => .plot streams.stdout (Base64.encode image)
        | none => .text (join "\n" (shownParts streams value))) := by
  unfold drawn? at hdrawn
  split at hdrawn
  · cases hdrawn
  next hfinish =>
  split at hdrawn
  case h_2 => cases hdrawn
  next hsent =>
  cases hdrawn
  have hrun : (Workbench.platform h ps).evaluator.runCode (trim cell) k.machine = _ :=
    Evaluator.runCode_of_finish? hfinish (takePlot_of_call hsent)
  rw [Kernel.execute_of_code hcell, Kernel.runPlainly_fst, hrun]
  cases png with
  | none => rfl
  | some image =>
    rw [Option.bind_some, plotOf]
    cases Base64.decode? image <;> rfl

/-- Where plain code runs without a failure and its streams are collected, a plot that can be read is
shown as the worker sent it, beside what was printed. With one that cannot be read the output is the one
of any run with this value and these streams in which the worker has no plot. That reading undoes writing
holds for all bytes, and the texts that can be read are those of the standard. -/
theorem plot_passes_through (hcell : Route.ofCell r cell = .code (trim cell)) {image : String}
    (hdrawn : drawn? ps (trim cell) k.machine = some (value, streams, some image)) :
    let executed := (Kernel.execute (Workbench.platform h ps) r cell k).1
    ((Base64.decode? image).isSome → ∃ o, executed = some o ∧ o.kind = .plot ∧
      o.content = streams.stdout ∧ o.dataText? Mime.png = some image) ∧
    (Base64.decode? image = none → executed = some (.text (join "\n" (shownParts streams value))) ∧
      ∀ {τ : Type} (h' : Host τ) (ps' : Processes τ) (r' : Registry (Handler (Workbench τ)))
        (k' : Kernel (Workbench τ)), Route.ofCell r' cell = .code (trim cell) →
        drawn? ps' (trim cell) k'.machine = some (value, streams, none) →
        executed = (Kernel.execute (Workbench.platform h' ps') r' cell k').1) ∧
    (∀ bytes, Base64.decode? (Base64.encode bytes) = some bytes) ∧
    ∀ s, (Base64.decode? s).isSome ↔ ∃ values padding, Base64.Spells s.toList values padding := by
  intro executed
  have hexecuted : executed = _ := execute_of_drawn? hcell hdrawn
  rw [Option.bind_some] at hexecuted
  refine ⟨fun haccepted => ?_, fun hrejected => ?_, Base64.decode?_encode, Base64.isSome_decode?_iff⟩
  · obtain ⟨bytes, hbytes⟩ := Option.isSome_iff_exists.mp haccepted
    rw [hbytes] at hexecuted
    refine ⟨_, hexecuted, rfl, rfl, ?_⟩
    rw [← Base64.encode_of_decode? hbytes]
    rfl
  · rw [hrejected] at hexecuted
    refine ⟨hexecuted, fun h' ps' r' k' hcell' hdrawn' => ?_⟩
    rw [hexecuted, execute_of_drawn? hcell' hdrawn']
    rfl

end

/-- A kernel whose worker takes the cell for an expression, prints something for it and then sends the
plot. -/
def kernelWithPlot (png : Option String) : Kernel (Workbench (List Bytes)) where
  context := {
    config := Config.standard (σ := List Bytes) Host.bare
    executionCount := 0
    interrupted := false
    workingDirectory := ⟨"/"⟩
    environment := ∅
    generation := 0 }
  machine := benchOnTapes
    [[.probe true, .done, .value (some "1"), .streams "drawn\n" "", .plot png]]

/-- Of two texts that differ in a bit behind their last byte, one is shown and the other is as good as
none. -/
theorem plot_passes_through_on_tapes :
    let r : Registry (Handler (Workbench (List Bytes))) := ∅
    let execute (png : Option String) := (Kernel.execute (Workbench.platform Host.bare tapes) r " x"
      (kernelWithPlot png)).1
    let drawn (png : Option String) :=
      drawn? tapes (trim " x") (kernelWithPlot png).machine = some (some "1", ⟨"drawn\n", ""⟩, png)
    Route.ofCell r " x" = .code (trim " x") ∧
      (drawn (some "iVA=") ∧ ∃ o, execute (some "iVA=") = some o ∧ o.kind = .plot ∧
        o.content = "drawn\n" ∧ o.dataText? Mime.png = some "iVA=") ∧
      drawn (some "iVB=") ∧ drawn none ∧ execute (some "iVB=") = execute none := by
  intro r execute drawn
  have hcell : Route.ofCell r " x" = .code (trim " x") := by decide +kernel
  have haccepted : drawn (some "iVA=") := by decide +kernel
  have hrejected : drawn (some "iVB=") := by decide +kernel
  have hnone : drawn none := by decide +kernel
  have hshown := (plot_passes_through (h := Host.bare) hcell haccepted).1 (by decide)
  have hdropped := (plot_passes_through (h := Host.bare) hcell hrejected).2.1 (by decide)
  exact ⟨hcell, ⟨haccepted, hshown⟩, hrejected, hnone, hdropped.2 Host.bare tapes r _ hcell hnone⟩

end Session

end NotebookKernel
