import NotebookKernel.Proofs.Host.Files
import NotebookKernel.Proofs.Kernel.Outputs
import NotebookKernel.Proofs.Notebook.RoundTrip

/-!
# Notebooks with the outputs of a kernel

Whatever cells a kernel runs, the outputs it gives have the data of their kind and no more. A document
holds such an output without loss, data included. So a notebook that was run comes back as it was, but
for the status of its cells.
-/

namespace NotebookKernel

variable {σ : Type}

namespace Output

theorem Storable.recoverable {o : Output} (h : o.Storable) : o.Recoverable := by
  obtain ⟨kind, content, data⟩ := o
  have hplain {mime : String} {value v : Json} (hne : mime ≠ Mime.plain)
      (hv : (SortedMap.ofList [(mime, value)]).get? Mime.plain = some v) : False := by
    simp [SortedMap.get?_ofList_singleton, hne] at hv
  cases kind with
  | text => exact ⟨by rintro ⟨⟩, by rintro ⟨⟩, by rintro (⟨⟨⟩⟩ | ⟨⟨⟩⟩)⟩
  | error => exact ⟨by rintro ⟨⟩, by rintro ⟨⟩, by rintro (⟨⟨⟩⟩ | ⟨⟨⟩⟩)⟩
  | html =>
    obtain ⟨body, hdata⟩ := h
    cases hdata
    refine ⟨fun _ => ⟨List.mem_singleton_self _, fun mime hmime => ?_⟩, by rintro ⟨⟩, ?_⟩
    · have hmime : mime = Mime.html := List.mem_singleton.mp hmime
      rw [hmime]
      decide
    · exact fun _ _ v text hv => (hplain (by decide) hv).elim
  | plot =>
    obtain ⟨image, hdata⟩ := h
    cases hdata
    refine ⟨by rintro ⟨⟩, fun _ _ => ⟨Mime.png, List.mem_singleton_self _, by decide⟩, ?_⟩
    exact fun _ _ v text hv => (hplain (by decide) hv).elim

/-- Data of a single type other than plain text comes back. -/
theorem data_ofBundle_bundle {o : Output} {mime : String} {value : Json} (hmime : mime ≠ Mime.plain)
    (hdata : o.data = some (SortedMap.ofList [(mime, value)])) (fallback : Kind) :
    (ofBundle o.bundle fallback).data = o.data := by
  have herase : o.bundle.erase Mime.plain = SortedMap.ofList [(mime, value)] := by
    rw [erase_bundle, dataOrEmpty, hdata, Option.getD_some]
    apply SortedMap.ext_get?
    intro key
    rw [SortedMap.get?_erase, SortedMap.get?_ofList_singleton]
    by_cases hkey : Mime.plain = key
    · rw [if_pos hkey, if_neg fun h => hmime (h.trans hkey.symm)]
    · rw [if_neg hkey]
  simp only [ofBundle, herase, hdata]
  rfl

theorem data_ofDocument_toDocument {o : Output} (h : o.Storable) :
    (ofDocument o.toDocument).data = o.data := by
  obtain ⟨kind, content, data⟩ := o
  cases kind with
  | text => exact h.symm
  | error => exact h.symm
  | html =>
    obtain ⟨body, hdata⟩ := h
    exact data_ofBundle_bundle (by decide) hdata .plot
  | plot =>
    obtain ⟨image, hdata⟩ := h
    exact data_ofBundle_bundle (by decide) hdata .plot

theorem ofDocument_toDocument {o : Output} (h : o.Storable) : ofDocument o.toDocument = o := by
  obtain ⟨hkind, hcontent⟩ := o.agrees_ofDocument_iff.mpr h.recoverable
  change ofDocument o.toDocument = ⟨o.kind, o.content, o.data⟩
  rw [hkind, hcontent, ← data_ofDocument_toDocument h]

end Output

namespace Kernel

/-- The outputs of cells that are run one after another. A cell that panics has none. -/
def outputs (p : Platform σ) (r : Registry (Handler σ)) : List String → Kernel σ → List Output
  | [], _ => []
  | cell :: rest, k =>
    match execute p r cell k with
    | (some o, k) => o :: outputs p r rest k
    | (none, k) => outputs p r rest k

theorem storable_of_mem_outputs {p : Platform σ} {cells : List String} {k : Kernel σ} {o : Output}
    (h : o ∈ outputs p (Magic.builtins p) cells k) : o.Storable := by
  induction cells generalizing k with
  | nil => cases h
  | cons cell rest ih =>
    rw [outputs] at h
    split at h
    · next first k' hrun =>
      rcases List.mem_cons.mp h with rfl | h
      · exact gives_storable_execute p (Magic.every_builtins p) cell k o (by rw [hrun])
      · exact ih h
    · exact ih h

end Kernel

namespace Cell

/-- A markdown cell was never run, and the output of a code cell is one of the given ones. -/
def RecordedFrom (outputs : List Output) (c : Cell) : Prop :=
  match c.kind with
  | .markdown => c.executionCount = none ∧ c.output = none
  | .code => ∀ o, c.output = some o → o ∈ outputs

theorem recordedFrom_record {outputs : List Output} {c : Cell} (hcode : c.kind = .code) {o : Output}
    (ho : o ∈ outputs) (count : UInt32) : (c.record o count).RecordedFrom outputs := by
  simp only [RecordedFrom, record, hcode]
  rintro _ ⟨⟩
  exact ho

theorem toCell_toDocument {outputs : List Output} (houtputs : ∀ o ∈ outputs, o.Storable) {c : Cell}
    (h : c.RecordedFrom outputs) : c.toDocument.toCell c.id = { c with status := .idle } := by
  obtain ⟨id, kind, content, executionCount, output, status⟩ := c
  have hcontent := Multiline.toText_ofText content
  cases kind with
  | markdown =>
    obtain ⟨rfl, rfl⟩ := h
    simp [toDocument, DocumentCell.toCell, hcontent]
  | code =>
    cases output with
    | none => simp [toDocument, DocumentCell.toCell, hcontent]
    | some o =>
      have ho := Output.ofDocument_toDocument (houtputs o (h o rfl))
      simp [toDocument, DocumentCell.toCell, hcontent, ho]

end Cell

namespace Notebook

/-- A notebook with outputs of a kernel comes back from its document as it was, with all cells idle. -/
theorem ofDocument_toDocument_of_recorded (p : Platform σ) (k : Kernel σ) (cells : List String)
    {n : Notebook}
    (h : ∀ c ∈ n.cells, c.RecordedFrom (Kernel.outputs p (Magic.builtins p) cells k)) :
    ofDocument n.id n.toDocument =
      { n with cells := n.cells.map fun c => { c with status := .idle } } := by
  have hcells : (ofDocument n.id n.toDocument).cells =
      n.cells.map fun c => { c with status := .idle } := by
    rw [cells_ofDocument_toDocument]
    refine List.map_congr_left fun c hc => ?_
    exact c.toCell_toDocument (fun _ => Kernel.storable_of_mem_outputs) (h c hc)
  rw [← hcells]
  rfl

/-- An evaluator that prints a line and plots the same image whatever it is asked. -/
def plotting : Evaluator Unit where
  runStatements _ := pure (.ok ())
  evalExpression _ := pure (.ok none)
  isExpression _ := pure true
  beginCapture := pure (.ok ())
  endCapture := pure (.ok ⟨"drawn\n", ""⟩)
  takePlot := pure (.ok (some [137, 80, 78, 71]))
  runIsolated _ _ := pure (.ok ())
  timeStatements _ _ := pure (.ok ⟨0⟩)
  bindings := pure (.ok [])
  reset _ := pure (.ok ())
  setDirectory _ := pure (.ok ())
  setVariable _ _ := pure (.ok ())

theorem ofDocument_toDocument_of_plot :
    let p : Platform Unit := ⟨plotting, Host.bare⟩
    let k : Kernel Unit := {
      context := {
        config := Config.standard (σ := Unit) Host.bare
        executionCount := 0
        interrupted := false
        workingDirectory := ⟨"/"⟩
        environment := ∅
        generation := 0 }
      machine := () }
    ∃ o ∈ Kernel.outputs p (Magic.builtins p) ["draw()"] k, o.kind = .plot ∧ o.content = "drawn\n" ∧
      let n := { empty "n" "T" with
        cells := [(Cell.code "a" "draw()").record o 1, { Cell.code "b" "# T" with kind := .markdown }] }
      (∀ c ∈ n.cells, c.RecordedFrom (Kernel.outputs p (Magic.builtins p) ["draw()"] k)) ∧
      ofDocument n.id n.toDocument =
        { n with cells := n.cells.map fun c => { c with status := .idle } } := by
  intro p k
  have hplot : ((Kernel.outputs p (Magic.builtins p) ["draw()"] k).any fun o =>
      o.kind == .plot && o.content == "drawn\n") = true := by decide +kernel
  obtain ⟨o, ho, hplot⟩ := List.any_eq_true.mp hplot
  rw [Bool.and_eq_true, beq_iff_eq, beq_iff_eq] at hplot
  refine ⟨o, ho, hplot.1, hplot.2, ?_⟩
  intro n
  have hcells : ∀ c ∈ n.cells,
      c.RecordedFrom (Kernel.outputs p (Magic.builtins p) ["draw()"] k) := by
    intro c hc
    rcases List.mem_cons.mp hc with rfl | hc
    · exact Cell.recordedFrom_record rfl ho 1
    · rw [List.mem_singleton.mp hc]
      exact ⟨rfl, rfl⟩
  exact ⟨hcells, ofDocument_toDocument_of_recorded p k ["draw()"] hcells⟩

end Notebook

end NotebookKernel
