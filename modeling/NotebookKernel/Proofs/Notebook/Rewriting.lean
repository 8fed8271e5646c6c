import NotebookKernel.Notebook.Store
import NotebookKernel.Proofs.Host.Files
import NotebookKernel.Proofs.Json.Nesting
import NotebookKernel.Proofs.Json.WholeDoubles
import NotebookKernel.Proofs.Notebook.DocumentText

/-!
# Documents that were read can be written and read again

Every record that is read is in order, and nests no deeper than what it was read from, but for the few
levels of the defaults that stand for missing fields. So a document that was read fits into the nesting
limit again, and its text gives the same document.
-/

namespace NotebookKernel

open Json Reader

theorem Multiline.gives : Gives reader fun limit m => m.toJson.depth ≤ limit := by
  intro limit v m h
  simp only [reader] at h
  split at h
  · obtain ⟨text, -, rfl⟩ := Option.map_eq_some_iff.mp h
    exact Nat.zero_le _
  · obtain ⟨parts, hparts, rfl⟩ := Option.map_eq_some_iff.mp h
    obtain ⟨n, rfl, -⟩ := gives_list (P := fun _ _ => True) (fun _ _ _ _ => trivial) _ _ _ hparts
    exact depth_ofStrings_le parts n
  · cases h

/-! ## Metadata -/

theorem KernelSpec.gives : Gives reader fun limit k => k.toJson.depth ≤ limit := by
  intro limit v k h
  simp only [reader, Option.bind_eq_bind, Option.bind_eq_some_iff, Option.some.injEq] at h
  obtain ⟨r, hr, displayName, -, language, -, name, -, rfl⟩ := h
  rw [Record.limit_of_ofScanned? hr, toJson, depth_object_le_iff]
  simp only [List.forall_mem_append, List.forall_mem_singleton]
  exact ⟨⟨Nat.zero_le _, depth_optionalField_le fun _ _ => Nat.zero_le _⟩, Nat.zero_le _⟩

theorem LanguageInfo.gives : Gives reader fun limit i => i.toJson.depth ≤ limit := by
  intro limit v i h
  simp only [reader, Option.bind_eq_bind, Option.bind_eq_some_iff, Option.some.injEq] at h
  obtain ⟨r, hr, name, -, version, -, extension, -, rfl⟩ := h
  rw [Record.limit_of_ofScanned? hr, toJson, depth_object_le_iff]
  simp only [List.forall_mem_append, List.forall_mem_singleton]
  exact ⟨⟨Nat.zero_le _, depth_optionalField_le fun _ _ => Nat.zero_le _⟩,
    depth_optionalField_le fun _ _ => Nat.zero_le _⟩

theorem DocumentMetadata.gives :
    Gives reader fun limit m => m.Canonical ∧ m.toJson.depth ≤ limit := by
  intro limit v m h
  simp only [reader] at h
  split at h
  · next fields =>
    simp only [Option.bind_eq_bind, Option.bind_eq_some_iff, Option.some.injEq] at h
    obtain ⟨r, hr, kernelSpec, hkernel, languageInfo, hlanguage, title, -, created, -, modified, -,
      extra, hextra, rfl⟩ := h
    obtain ⟨hcanonical, hdepth⟩ := gives_map _ _ _ hextra
    have hunknown : ∀ field ∈ extra.toList, field.1 ∉ knownKeys := by
      intro field hfield hknown
      obtain ⟨other, hother, hkey⟩ := List.mem_map.mp (map_spec hextra field hfield)
      have hnot := (List.mem_filter.mp hother).2
      rw [hkey] at hnot
      simp [hknown] at hnot
    refine ⟨⟨hunknown, hcanonical⟩, ?_⟩
    rw [Record.limit_of_ofScanned? hr, depth_object_le_iff] at hdepth
    rw [Record.limit_of_ofScanned? hr, toJson, depth_object_le_iff]
    simp only [List.forall_mem_append]
    exact ⟨⟨⟨⟨⟨depth_optionalField_le (Record.optional?_spec KernelSpec.gives hkernel),
      depth_optionalField_le (Record.optional?_spec LanguageInfo.gives hlanguage)⟩,
      depth_optionalField_le fun _ _ => Nat.zero_le _⟩,
      depth_optionalField_le fun _ _ => Nat.zero_le _⟩,
      depth_optionalField_le fun _ _ => Nat.zero_le _⟩, hdepth⟩
  · cases h

/-! ## Output records -/

/-- A missing object is read as an empty one, which has a level of its own. -/
theorem Record.map_spec {r : Record} {key : String} {m : SortedMap Json}
    (h : r.withDefault? key ∅ map = some m) :
    m.Canonical ∧ (Json.object m.toList).depth ≤ max r.limit 1 := by
  refine withDefault?_spec (P := fun limit m =>
    m.Canonical ∧ (Json.object m.toList).depth ≤ max limit 1) (fun limit v m hm => ?_) ?_ h
  · obtain ⟨hcanonical, hdepth⟩ := gives_map _ _ _ hm
    exact ⟨hcanonical, Nat.le_trans hdepth (Nat.le_max_left _ _)⟩
  · exact ⟨(fun _ hfield => nomatch hfield), Nat.le_max_right _ _⟩

theorem DocumentOutput.gives :
    Gives reader fun limit o => o.Canonical ∧ o.toJson.depth ≤ max limit 2 := by
  intro limit v o h
  simp only [reader, Option.bind_eq_bind, Option.bind_eq_some_iff] at h
  obtain ⟨t, ht, h⟩ := h
  rw [← Tagged.limit_of_ofScanned? ht]
  split at h
  · simp only [Option.bind_eq_some_iff, Option.some.injEq] at h
    obtain ⟨r, hr, name, -, text, htext, rfl⟩ := h
    have hdepth := Record.required?_spec Multiline.gives htext
    rw [Record.limit_of_ofScanned? hr, toJson, depth_object_le_max_iff]
    simp only [List.forall_mem_cons]
    exact ⟨trivial, Nat.zero_le _, Nat.zero_le _, Nat.le_trans hdepth (Nat.le_max_left _ _),
      List.forall_mem_nil _⟩
  · simp only [Option.bind_eq_some_iff, Option.some.injEq] at h
    obtain ⟨r, hr, executionCount, -, data, hdata, metadata, hmetadata, rfl⟩ := h
    obtain ⟨hdata, hdataDepth⟩ := Record.required?_spec gives_map hdata
    obtain ⟨hmetadata, hmetadataDepth⟩ := Record.map_spec hmetadata
    rw [Record.limit_of_ofScanned? hr, toJson, depth_object_le_max_iff]
    simp only [List.forall_mem_cons]
    exact ⟨⟨hdata, hmetadata⟩, Nat.zero_le _, depth_count_le _ _,
      Nat.le_trans hdataDepth (Nat.le_max_left _ _), hmetadataDepth, List.forall_mem_nil _⟩
  · simp only [Option.bind_eq_some_iff, Option.some.injEq] at h
    obtain ⟨r, hr, data, hdata, metadata, hmetadata, rfl⟩ := h
    obtain ⟨hdata, hdataDepth⟩ := Record.required?_spec gives_map hdata
    obtain ⟨hmetadata, hmetadataDepth⟩ := Record.map_spec hmetadata
    rw [Record.limit_of_ofScanned? hr, toJson, depth_object_le_max_iff]
    simp only [List.forall_mem_cons]
    exact ⟨⟨hdata, hmetadata⟩, Nat.zero_le _, Nat.le_trans hdataDepth (Nat.le_max_left _ _),
      hmetadataDepth, List.forall_mem_nil _⟩
  · simp only [Option.bind_eq_some_iff, Option.some.injEq] at h
    obtain ⟨r, hr, name, -, value, -, traceback, -, rfl⟩ := h
    have hdepth : (ofStrings traceback).depth ≤ max r.limit 1 :=
      Nat.le_trans (depth_ofStrings_le traceback 0) (Nat.le_max_right _ _)
    rw [Record.limit_of_ofScanned? hr, toJson, depth_object_le_max_iff]
    simp only [List.forall_mem_cons]
    exact ⟨trivial, Nat.zero_le _, Nat.zero_le _, Nat.zero_le _, hdepth, List.forall_mem_nil _⟩
  · cases h

/-! ## Cell records and documents -/

theorem CellFrame.gives {r : Record} {f : CellFrame} (h : ofRecord? r = some f) :
    f.metadata.Canonical ∧ ∀ field ∈ f.toFields, field.2.depth ≤ max r.limit 1 := by
  simp only [ofRecord?, Option.bind_eq_bind, Option.bind_eq_some_iff, Option.some.injEq] at h
  obtain ⟨id, -, metadata, hmetadata, source, hsource, rfl⟩ := h
  obtain ⟨hmetadata, hdepth⟩ := Record.map_spec hmetadata
  have hsource : source.toJson.depth ≤ max r.limit 1 :=
    Record.withDefault?_spec (P := fun limit m => m.toJson.depth ≤ max limit 1)
      (fun limit v m hm => Nat.le_trans (Multiline.gives _ _ _ hm) (Nat.le_max_left _ _))
      (Nat.le_max_right _ _) hsource
  refine ⟨hmetadata, ?_⟩
  rw [toFields]
  simp only [List.forall_mem_append, List.forall_mem_cons]
  exact ⟨depth_optionalField_le fun _ _ => Nat.zero_le _, hdepth, hsource, List.forall_mem_nil _⟩

/-- Markdown and raw cells have a frame and nothing else. -/
theorem CellFrame.gives_tagged {r : Record} {f : CellFrame} (h : ofRecord? r = some f) (tag : String) :
    f.metadata.Canonical ∧
      (Json.object (("cell_type", .string tag) :: f.toFields)).depth ≤ max (r.limit + 1) 4 := by
  obtain ⟨hcanonical, hdepth⟩ := CellFrame.gives h
  rw [depth_object_le_max_iff]
  simp only [List.forall_mem_cons]
  exact ⟨hcanonical, Nat.zero_le _, fun field hfield => Nat.le_trans (hdepth field hfield) (by omega)⟩

theorem DocumentCell.gives :
    Gives reader fun limit c => c.Canonical ∧ c.toJson.depth ≤ max limit 4 := by
  intro limit v c h
  simp only [reader, Option.bind_eq_bind, Option.bind_eq_some_iff] at h
  obtain ⟨t, ht, h⟩ := h
  rw [← Tagged.limit_of_ofScanned? ht]
  split at h
  · simp only [Option.bind_eq_some_iff, Option.some.injEq] at h
    obtain ⟨r, hr, frame, hframe, executionCount, -, outputs, houtputs, rfl⟩ := h
    obtain ⟨hcanonical, hdepth⟩ := CellFrame.gives hframe
    obtain ⟨houtputs, houtputsDepth⟩ := Record.withDefault?_array_spec DocumentOutput.gives houtputs
    rw [Record.limit_of_ofScanned? hr, toJson, depth_object_le_max_iff]
    simp only [List.forall_mem_append, List.forall_mem_cons]
    exact ⟨⟨hcanonical, houtputs⟩, ⟨⟨Nat.zero_le _, List.forall_mem_nil _⟩,
      fun field hfield => Nat.le_trans (hdepth field hfield) (by omega)⟩,
      depth_count_le _ _, houtputsDepth, List.forall_mem_nil _⟩
  · simp only [Option.bind_eq_some_iff, Option.some.injEq] at h
    obtain ⟨r, hr, frame, hframe, rfl⟩ := h
    rw [Record.limit_of_ofScanned? hr]
    exact CellFrame.gives_tagged hframe "markdown"
  · simp only [Option.bind_eq_some_iff, Option.some.injEq] at h
    obtain ⟨r, hr, frame, hframe, rfl⟩ := h
    rw [Record.limit_of_ofScanned? hr]
    exact CellFrame.gives_tagged hframe "raw"
  · cases h

namespace Document

theorem gives : Gives reader fun limit d => d.Canonical ∧ d.toJson.depth ≤ max limit 6 := by
  intro limit v d h
  simp only [reader, Option.bind_eq_bind, Option.bind_eq_some_iff, Option.some.injEq] at h
  obtain ⟨r, hr, metadata, hmetadata, format, -, formatMinor, -, cells, hcells, rfl⟩ := h
  obtain ⟨hcells, hcellsDepth⟩ := Record.withDefault?_array_spec DocumentCell.gives hcells
  have hmetadata : metadata.Canonical ∧ metadata.toJson.depth ≤ max r.limit 5 := by
    refine Record.withDefault?_spec (P := fun limit m => m.Canonical ∧ m.toJson.depth ≤ max limit 5)
      (fun limit v m hm => ?_) ?_ hmetadata
    · obtain ⟨hcanonical, hdepth⟩ := DocumentMetadata.gives _ _ _ hm
      exact ⟨hcanonical, Nat.le_trans hdepth (Nat.le_max_left _ _)⟩
    · have hempty : (∅ : DocumentMetadata).toJson.depth ≤ 5 := by decide
      exact ⟨⟨(fun _ hfield => nomatch hfield), (fun _ hfield => nomatch hfield)⟩,
        Nat.le_trans hempty (Nat.le_max_right _ _)⟩
  rw [Record.limit_of_ofScanned? hr, toJson, depth_object_le_max_iff]
  simp only [List.forall_mem_cons]
  exact ⟨⟨hmetadata.1, hcells⟩, hmetadata.2, Nat.zero_le _, Nat.zero_le _, hcellsDepth,
    List.forall_mem_nil _⟩

/-- The text of a document that was read is read as the same document, if its numbers are whole. -/
theorem ofText?_toText_of_ofText? {text : String} {d : Document} (h : ofText? text = some d)
    (hnumbers : d.toJson.AllNumbers Number.Whole) : ofText? d.toText = some d := by
  obtain ⟨v, -, hread⟩ := Option.bind_eq_some_iff.mp h
  obtain ⟨hcanonical, hdepth⟩ := gives _ _ _ hread
  exact ofText?_toText hcanonical ⟨hdepth, AllNumbers.mono (fun _ => Number.Whole.legible) _ hnumbers⟩

end Document

namespace Store

variable {σ : Type}

/-- What is read is the document of a text, in the version that is supported. -/
theorem of_readDocument {h : Host σ} {file : Path} {s : σ} {d : Document}
    (hread : readDocument h file s = .ok d) :
    (∃ text, Document.ofText? text = some d) ∧ d.format = Document.supportedFormat := by
  simp only [readDocument] at hread
  split at hread
  · cases hread
  · next text _ =>
    split at hread
    · cases hread
    · next document hdocument =>
      split at hread
      · next hformat =>
        cases hread
        exact ⟨⟨text, hdocument⟩, hformat⟩
      · cases hread

/-- A document that was read can be written to any file, and is read from it as it is. -/
theorem readDocument_writeDocument {h : Host σ} {directory : Path} {accepts : String → Prop}
    {files : σ → SortedMap Bytes} (hkeeps : h.Keeps directory accepts files) {name : String}
    (hname : accepts name) {file : Path} {s : σ} {d : Document}
    (hread : readDocument h file s = .ok d) (hnumbers : d.toJson.AllNumbers Number.Whole) :
    ∃ s', writeDocument h (directory ++ name) d s = (.ok (), s') ∧
      readDocument h (directory ++ name) s' = .ok d := by
  obtain ⟨⟨text, htext⟩, hformat⟩ := of_readDocument hread
  have hagain := Document.ofText?_toText_of_ofText? htext hnumbers
  obtain ⟨s', hwrite, hfiles⟩ := hkeeps.writeFile (Utf8.encode d.toText) s hname
  have hfile : h.readFile (directory ++ name) s' = .ok (Utf8.encode d.toText) :=
    hkeeps.readFile s' hname (by rw [hfiles, SortedMap.get?_insert, if_pos rfl])
  refine ⟨s', ?_, readDocument_of_readText (Host.readText_of_readFile hfile) hagain hformat⟩
  rw [writeDocument, hwrite]
  rfl

/-- A document from elsewhere: a key of the metadata that is not known, a title that is null, and a cell
without an identifier whose output has no metadata. -/
theorem readDocument_writeDocument_of_foreign :
    let value : Json := .object [
      ("cells", .array [.object [("source", .string "f()"), ("cell_type", .string "code"),
        ("outputs", .array [.object [("output_type", .string "display_data"),
          ("data", .object [("text/plain", .string "3")])]])]]),
      ("metadata", .object [("x", .array [Json.ofInt 7, Json.ofInt (-3)]), ("title", .null)]),
      ("nbformat_minor", Json.ofInt 5), ("nbformat", Json.ofInt 4)]
    let d : Document :=
      { metadata := { (∅ : DocumentMetadata) with
          extra := SortedMap.ofList [("x", .array [Json.ofInt 7, Json.ofInt (-3)])] }
        format := 4
        formatMinor := 5
        cells := [.code ⟨none, ∅, .single "f()"⟩ none
          [.displayData (SortedMap.ofList [("text/plain", .string "3")]) ∅]] }
    let root : Path := ⟨"/"⟩
    let s : SortedMap Bytes × Nat := (SortedMap.ofList [("a", Utf8.encode value.compact)], 0)
    readDocument (Host.ofFiles root) (root ++ "a") s = .ok d ∧
      ∃ s', writeDocument (Host.ofFiles root) (root ++ "b") d s = (.ok (), s') ∧
        readDocument (Host.ofFiles root) (root ++ "b") s' = .ok d := by
  intro value d root s
  have hkeeps := Host.keeps_ofFiles root
  have hname (name : String) (h : name = "a" ∨ name = "b") : Path.IsFileName name := by
    rcases h with rfl | rfl <;> constructor <;> decide
  have hdocument : Document.ofText? value.compact = some d := by
    have hvalue : value.AllNumbers Number.Integral := by
      simp only [value, AllNumbers, ItemsAllNumbers, FieldsAllNumbers, Json.ofInt, Number.Integral]
      decide
    rw [Document.ofText?, Scanned.ofText?_compact (hvalue.mono fun _ => Number.Integral.legible)]
    rfl
  have hfile := hkeeps.readFile s (hname "a" (.inl rfl)) (SortedMap.get?_ofList_singleton _ _ _)
  have hread := readDocument_of_readText (Host.readText_of_readFile hfile) hdocument rfl
  have hnumbers : d.toJson.AllNumbers Number.Whole := by
    have hjson : d.toJson = .object [
        ("metadata", .object [("x", .array [Json.ofInt 7, Json.ofInt (-3)])]),
        ("nbformat", Json.ofInt 4), ("nbformat_minor", Json.ofInt 5),
        ("cells", .array [.object [("cell_type", .string "code"), ("metadata", .object []),
          ("source", .string "f()"), ("execution_count", .null),
          ("outputs", .array [.object [("output_type", .string "display_data"),
            ("data", .object [("text/plain", .string "3")]), ("metadata", .object [])]])]])] := rfl
    simp only [hjson, AllNumbers, ItemsAllNumbers, FieldsAllNumbers, Json.ofInt, Number.Whole,
      Number.Integral]
    decide
  exact ⟨hread, readDocument_writeDocument hkeeps (hname "b" (.inr rfl)) hread hnumbers⟩

end Store

end NotebookKernel
