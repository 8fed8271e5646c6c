import NotebookKernel.Proofs.Notebook.DocumentText
import NotebookKernel.Proofs.Notebook.RoundTrip

/-!
# Notebooks that survive being written

The document of a notebook puts six levels of arrays and objects around the data of an output. A
notebook is portable when the text of its document can be read with these levels on top: its data
have no numbers but integers of 64 bits and leave six levels of the nesting limit free.
-/

namespace NotebookKernel

open Json

/-- The data of the output are in order, have integers for numbers, and may be put six levels deep. -/
structure Output.Portable (o : Output) : Prop where
  canonical : o.dataOrEmpty.Canonical
  integral : ∀ field ∈ o.dataOrEmpty.toList, field.2.AllNumbers Number.Integral
  nesting : ∀ field ∈ o.dataOrEmpty.toList, field.2.depth + 6 ≤ nestingLimit

/-- The data of all outputs are portable. -/
def Notebook.Portable (n : Notebook) : Prop :=
  ∀ c ∈ n.cells, ∀ o, c.output = some o → o.Portable

theorem integral_uint32 (n : UInt32) : (Number.int n.toNat).Integral := by
  have hn := n.toNat_lt
  simp only [Number.Integral, Nat.pow_eq]
  omega

namespace Output

theorem mem_bundle {o : Output} {field : String × Json} (h : field ∈ o.bundle.toList) :
    field = (Mime.plain, (Multiline.ofText o.content).toJson) ∨ field ∈ o.dataOrEmpty.toList := by
  rw [bundle] at h
  split at h
  · exact .inr h
  · exact Entries.mem_insert h

theorem canonical_toDocument {o : Output} (h : o.Portable) : o.toDocument.Canonical := by
  have hbundle : o.bundle.Canonical := by
    intro field hfield
    rcases mem_bundle hfield with rfl | hfield
    · exact itemsCanonical_iff.mpr (List.forall_mem_map.mpr fun _ _ => trivial)
    · exact h.canonical field hfield
  have hempty : (∅ : SortedMap Json).Canonical := by rintro _ ⟨⟩
  rw [toDocument]
  split
  · trivial
  · exact ⟨hbundle, hempty⟩
  · exact ⟨hbundle, hempty⟩
  · trivial

/-- The record of an output has two levels around the data. -/
theorem fits_toDocument {o : Output} {limit : Nat}
    (h : ∀ field ∈ o.dataOrEmpty.toList, field.2.Fits Number.Integral (limit + 1)) :
    o.toDocument.toJson.Fits Number.Integral (limit + 3) := by
  have hbundle : (Json.object o.bundle.toList).Fits Number.Integral (limit + 2) := by
    refine fits_object_iff.mpr fun field hfield => ?_
    rcases mem_bundle hfield with rfl | hfield
    · exact fits_ofStrings _
    · exact h field hfield
  have hdisplay : (DocumentOutput.displayData o.bundle ∅).toJson.Fits Number.Integral
      (limit + 3) := by
    rw [DocumentOutput.toJson, fits_object_iff]
    simp only [List.forall_mem_cons]
    exact ⟨fits_string _, hbundle, fits_object_nil, List.forall_mem_nil _⟩
  rw [toDocument]
  split
  · rw [DocumentOutput.toJson, fits_object_iff]
    simp only [List.forall_mem_cons]
    exact ⟨fits_string _, fits_string _, fits_string _, fits_ofStrings _, List.forall_mem_nil _⟩
  · exact hdisplay
  · exact hdisplay
  · rw [DocumentOutput.toJson, fits_object_iff]
    simp only [List.forall_mem_cons]
    exact ⟨fits_string _, fits_string _, fits_ofStrings _, List.forall_mem_nil _⟩

end Output

namespace Cell

theorem canonical_toDocument {c : Cell} (h : ∀ o, c.output = some o → o.Portable) :
    c.toDocument.Canonical := by
  have hempty : (∅ : SortedMap Json).Canonical := by rintro _ ⟨⟩
  rw [toDocument]
  split
  · exact hempty
  · refine ⟨hempty, fun d hd => ?_⟩
    obtain ⟨o, ho, rfl⟩ := Option.map_eq_some_iff.mp (Option.mem_toList.mp hd)
    exact o.canonical_toDocument (h o ho)

/-- The record of a cell has two levels around those of its outputs. -/
theorem fits_toDocument {c : Cell} {limit : Nat}
    (h : ∀ o, c.output = some o →
      ∀ field ∈ o.dataOrEmpty.toList, field.2.Fits Number.Integral (limit + 1)) :
    c.toDocument.toJson.Fits Number.Integral (limit + 5) := by
  have hcount : (ofOption (fun n : UInt32 => ofNat n.toNat) c.executionCount).Fits Number.Integral
      (limit + 4) := by
    cases c.executionCount with
    | none => exact fits_null
    | some n => exact ⟨Nat.zero_le _, integral_uint32 n⟩
  have houtputs : (Json.array ((c.output.map Output.toDocument).toList.map DocumentOutput.toJson)).Fits
      Number.Integral (limit + 4) := by
    refine fits_array_iff.mpr (List.forall_mem_map.mpr fun d hd => ?_)
    obtain ⟨o, ho, rfl⟩ := Option.map_eq_some_iff.mp (Option.mem_toList.mp hd)
    exact o.fits_toDocument (h o ho)
  rw [toDocument]
  split
  · rw [DocumentCell.toJson, fits_object_iff]
    simp only [CellFrame.toFields, optionalField, List.cons_append, List.nil_append,
      List.forall_mem_cons]
    exact ⟨fits_string _, fits_string _, fits_object_nil, fits_ofStrings _, List.forall_mem_nil _⟩
  · rw [DocumentCell.toJson, fits_object_iff]
    simp only [CellFrame.toFields, optionalField, List.cons_append, List.nil_append,
      List.forall_mem_cons]
    exact ⟨fits_string _, fits_string _, fits_object_nil, fits_ofStrings _, hcount, houtputs,
      List.forall_mem_nil _⟩

end Cell

/-- The metadata have two levels as far as their keys are known. -/
theorem DocumentMetadata.fits_toJson {m : DocumentMetadata} (h : m.extra = ∅) (limit : Nat) :
    m.toJson.Fits Number.Integral (limit + 2) := by
  have hkernel (k : KernelSpec) : k.toJson.Fits Number.Integral (limit + 1) := by
    rw [KernelSpec.toJson, fits_object_iff]
    simp only [List.forall_mem_append, List.forall_mem_singleton]
    exact ⟨⟨fits_string _, fits_optionalField _ fits_string _⟩, fits_string _⟩
  have hlanguage (i : LanguageInfo) : i.toJson.Fits Number.Integral (limit + 1) := by
    rw [LanguageInfo.toJson, fits_object_iff]
    simp only [List.forall_mem_append, List.forall_mem_singleton]
    exact ⟨⟨fits_string _, fits_optionalField _ fits_string _⟩, fits_optionalField _ fits_string _⟩
  rw [toJson, fits_object_iff, h]
  simp only [List.forall_mem_append]
  exact ⟨⟨⟨⟨⟨fits_optionalField _ hkernel _, fits_optionalField _ hlanguage _⟩,
    fits_optionalField _ fits_string _⟩, fits_optionalField _ fits_string _⟩,
    fits_optionalField _ fits_string _⟩, by rintro _ ⟨⟩⟩

namespace Notebook

theorem canonical_toDocument {n : Notebook} (h : n.Portable) : n.toDocument.Canonical where
  metadata := ⟨by rintro _ ⟨⟩, by rintro _ ⟨⟩⟩
  cells := List.forall_mem_map.mpr fun c hc => c.canonical_toDocument (h c hc)

theorem fits_toDocument {n : Notebook} (h : n.Portable) :
    n.toDocument.toJson.Fits Number.Integral nestingLimit := by
  have hcells : (Json.array (n.toDocument.cells.map DocumentCell.toJson)).Fits Number.Integral
      (nestingLimit - 1) := by
    refine fits_array_iff.mpr (List.forall_mem_map.mpr (List.forall_mem_map.mpr fun c hc => ?_))
    refine c.fits_toDocument fun o ho field hfield => ?_
    have hnesting := (h c hc o ho).nesting field hfield
    rw [nestingLimit] at hnesting
    exact ⟨by omega, (h c hc o ho).integral field hfield⟩
  have hmetadata := DocumentMetadata.fits_toJson (m := n.toDocument.metadata) rfl 124
  refine fits_object_iff.mpr ?_
  simp only [List.forall_mem_cons]
  exact ⟨hmetadata, ⟨Nat.zero_le _, integral_uint32 _⟩, ⟨Nat.zero_le _, integral_uint32 _⟩, hcells,
    List.forall_mem_nil _⟩

/-- The document of a portable notebook is read back from its text. -/
theorem ofText?_toText_toDocument {n : Notebook} (h : n.Portable) :
    Document.ofText? n.toDocument.toText = some n.toDocument :=
  Document.ofText?_toText (canonical_toDocument h)
    ((fits_toDocument h).mono (Nat.le_refl _) fun _ => Number.Integral.legible)

/-- Whatever the cells hold, a text that can be read at all gives the metadata that were written: they
stand in front. -/
theorem metadata_of_ofText?_toText {n : Notebook} {read : Document}
    (h : Document.ofText? n.toDocument.toText = some read) :
    read.metadata = n.toDocument.metadata := by
  have hcanonical : n.toDocument.metadata.Canonical := ⟨by rintro _ ⟨⟩, by rintro _ ⟨⟩⟩
  have hfits := (DocumentMetadata.fits_toJson (m := n.toDocument.metadata) rfl 124).mono
    (Nat.le_refl _) fun _ => Number.Integral.legible
  exact Document.metadata_of_ofText?_toText hcanonical hfits h

end Notebook

end NotebookKernel
