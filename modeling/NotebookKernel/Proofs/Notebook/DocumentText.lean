import NotebookKernel.Notebook.Document
import NotebookKernel.Proofs.Json.Reading
import NotebookKernel.Proofs.Json.Scanning

/-!
# Documents are read back from their text

The JSON of every record is read as the record (`Reads`), field by field, as long as the free-form maps
in it are in order. With what is known of the scanner, the whole document is read back from its text.
-/

namespace NotebookKernel

open Json Reader

/-- All objects within the values are in ascending order of their keys. -/
def SortedMap.Canonical (m : SortedMap Json) : Prop := ∀ field ∈ m.toList, field.2.Canonical

theorem Multiline.reads (m : Multiline) : Reads Multiline.reader m.toJson m := by
  cases m with
  | single text => exact fun _ _ => rfl
  | lines parts =>
    intro limit hdepth
    have hread := reads_strings parts limit hdepth
    simp only [toJson, ofStrings, Scanned.ofJson] at hread ⊢
    simp [reader, hread]

/-! ## Metadata -/

namespace KernelSpec

theorem reads (k : KernelSpec) : Reads reader k.toJson k := by
  refine reads_object fun limit hdepth => ?_
  generalize hfields : [("display_name", Json.string k.displayName)]
    ++ optionalField "language" .string k.language ++ [("name", .string k.name)] = fields at *
  have hkeys : (fields.map Prod.fst).Sublist ["display_name", "language", "name"] := by
    rw [← hfields, List.map_append, List.map_append]
    exact ((List.Sublist.refl ["display_name"]).append
      (Record.optionalField_sublist _ _ _)).append (List.Sublist.refl _)
  have hdisplay := Record.required?_ofFields "display_name" (by simp [← hfields])
    (reads_string k.displayName) hdepth
  have hlanguage := Record.optional?_ofFields "language" (o := k.language) (by simp [← hfields])
    reads_string (by simp) hdepth
  have hname := Record.required?_ofFields "name" (by simp [← hfields]) (reads_string k.name) hdepth
  rw [reader, Record.ofScanned?_ofJson hkeys (by decide)]
  simp [hdisplay, hlanguage, hname]

end KernelSpec

namespace LanguageInfo

theorem reads (i : LanguageInfo) : Reads reader i.toJson i := by
  refine reads_object fun limit hdepth => ?_
  generalize hfields : [("name", Json.string i.name)] ++ optionalField "version" .string i.version
    ++ optionalField "file_extension" .string i.fileExtension = fields at *
  have hkeys : (fields.map Prod.fst).Sublist ["name", "version", "file_extension"] := by
    rw [← hfields, List.map_append, List.map_append]
    exact ((List.Sublist.refl ["name"]).append
      (Record.optionalField_sublist _ _ _)).append (Record.optionalField_sublist _ _ _)
  have hname := Record.required?_ofFields "name" (by simp [← hfields]) (reads_string i.name) hdepth
  have hversion := Record.optional?_ofFields "version" (o := i.version) (by simp [← hfields])
    reads_string (by simp) hdepth
  have hextension := Record.optional?_ofFields "file_extension" (o := i.fileExtension)
    (by simp [← hfields]) reads_string (by simp) hdepth
  rw [reader, Record.ofScanned?_ofJson hkeys (by decide)]
  simp [hname, hversion, hextension]

end LanguageInfo

namespace DocumentMetadata

/-- The other keys are none of the known ones, and what they hold is in order. -/
structure Canonical (m : DocumentMetadata) : Prop where
  unknown : ∀ field ∈ m.extra.toList, field.1 ∉ knownKeys
  extra : m.extra.Canonical

theorem reads {m : DocumentMetadata} (h : m.Canonical) : Reads reader m.toJson m := by
  refine reads_object fun limit hdepth => ?_
  generalize hfields : optionalField "kernelspec" KernelSpec.toJson m.kernelSpec
    ++ optionalField "language_info" LanguageInfo.toJson m.languageInfo
    ++ optionalField "title" .string m.title ++ optionalField "created" .string m.created
    ++ optionalField "modified" .string m.modified = fields at *
  have hkeys : (fields.map Prod.fst).Sublist knownKeys := by
    simp only [← hfields, List.map_append]
    exact ((((Record.optionalField_sublist _ _ _).append (Record.optionalField_sublist _ _ _)).append
      (Record.optionalField_sublist _ _ _)).append (Record.optionalField_sublist _ _ _)).append
      (Record.optionalField_sublist _ _ _)
  have hknown : ∀ field ∈ fields, field.1 ∈ knownKeys := fun field hfield =>
    hkeys.subset (List.mem_map_of_mem hfield)
  have hparts : fieldsDepth fields ≤ limit ∧ fieldsDepth m.extra.toList ≤ limit := by
    simp only [fieldsDepth_le_iff, List.mem_append] at hdepth ⊢
    exact ⟨fun field hfield => hdepth field (.inl hfield),
      fun field hfield => hdepth field (.inr hfield)⟩
  have hkernel := Record.optional?_ofFields "kernelspec" (o := m.kernelSpec) (by simp [← hfields])
    KernelSpec.reads (by simp [KernelSpec.toJson]) hparts.1
  have hlanguage := Record.optional?_ofFields "language_info" (o := m.languageInfo)
    (by simp [← hfields]) LanguageInfo.reads (by simp [LanguageInfo.toJson]) hparts.1
  have htitle := Record.optional?_ofFields "title" (o := m.title) (by simp [← hfields])
    reads_string (by simp) hparts.1
  have hcreated := Record.optional?_ofFields "created" (o := m.created) (by simp [← hfields])
    reads_string (by simp) hparts.1
  have hmodified := Record.optional?_ofFields "modified" (o := m.modified) (by simp [← hfields])
    reads_string (by simp) hparts.1
  have hrecord := Record.ofScanned?_ofJson_append hkeys (by decide) h.unknown limit
  have hextra := reads_map h.extra (limit + 1) (by simpa [depth] using hparts.2)
  have hothers : (Scanned.fieldsOfJson (fields ++ m.extra.toList)).filter
      (fun field => !field.1.any knownKeys.contains) = Scanned.fieldsOfJson m.extra.toList := by
    rw [Scanned.fieldsOfJson_eq_map, Scanned.fieldsOfJson_eq_map, List.map_append, List.filter_append]
    have hleft : (fields.map fun field => (some field.1, Scanned.ofJson field.2)).filter
        (fun field => !field.1.any knownKeys.contains) = [] := by
      rw [List.filter_eq_nil_iff, List.forall_mem_map]
      exact fun field hfield => by simpa using hknown field hfield
    have hright : (m.extra.toList.map fun field => (some field.1, Scanned.ofJson field.2)).filter
        (fun field => !field.1.any knownKeys.contains) =
        m.extra.toList.map fun field => (some field.1, Scanned.ofJson field.2) := by
      rw [List.filter_eq_self, List.forall_mem_map]
      exact fun field hfield => by simpa using h.unknown field hfield
    rw [hleft, hright, List.nil_append]
  simp only [Scanned.ofJson] at hrecord hextra ⊢
  rw [reader]
  simp [hrecord, hkernel, hlanguage, htitle, hcreated, hmodified, hothers, hextra]

end DocumentMetadata

/-! ## Output records -/

namespace DocumentOutput

/-- What the maps of the record hold is in order. -/
def Canonical : DocumentOutput → Prop
  | .executeResult _ data metadata => data.Canonical ∧ metadata.Canonical
  | .displayData data metadata => data.Canonical ∧ metadata.Canonical
  | _ => True

theorem reads {o : DocumentOutput} (h : o.Canonical) : Reads reader o.toJson o := by
  cases o with
  | stream name text =>
    refine Tagged.reads_record tags ["name", "text"] (List.Sublist.refl _) (by decide)
      fun t limit htag hrecord hdepth => ?_
    have hname := Record.required?_ofFields "name" (by simp) (reads_string name) hdepth
    have htext := Record.required?_ofFields "text" (by simp) text.reads hdepth
    simp [htag, hrecord, hname, htext]
  | executeResult executionCount data metadata =>
    refine Tagged.reads_record tags ["execution_count", "data", "metadata"] (List.Sublist.refl _) (by decide)
      fun t limit htag hrecord hdepth => ?_
    have hcount := Record.optional?_ofFields_ofOption "execution_count" (o := executionCount)
      (by simp) reads_uint32 (by simp [Json.ofNat, Json.ofInt]) hdepth
    have hdata := Record.required?_ofFields "data" (by simp) (reads_map h.1) hdepth
    have hmetadata := Record.withDefault?_ofFields "metadata" ∅ (by simp) (reads_map h.2) hdepth
    simp [htag, hrecord, hcount, hdata, hmetadata]
  | displayData data metadata =>
    refine Tagged.reads_record tags ["data", "metadata"] (List.Sublist.refl _) (by decide)
      fun t limit htag hrecord hdepth => ?_
    have hdata := Record.required?_ofFields "data" (by simp) (reads_map h.1) hdepth
    have hmetadata := Record.withDefault?_ofFields "metadata" ∅ (by simp) (reads_map h.2) hdepth
    simp [htag, hrecord, hdata, hmetadata]
  | error name value traceback =>
    refine Tagged.reads_record tags ["ename", "evalue", "traceback"] (List.Sublist.refl _) (by decide)
      fun t limit htag hrecord hdepth => ?_
    have hname := Record.required?_ofFields "ename" (by simp) (reads_string name) hdepth
    have hvalue := Record.required?_ofFields "evalue" (by simp) (reads_string value) hdepth
    have htraceback := Record.required?_ofFields "traceback" (by simp)
      (reads_strings traceback) hdepth
    simp [htag, hrecord, hname, hvalue, htraceback]

end DocumentOutput

/-! ## Cell records and documents -/

namespace CellFrame

theorem keys_toFields (f : CellFrame) : (f.toFields.map Prod.fst).Sublist keys := by
  rw [toFields, List.map_append]
  exact (Record.optionalField_sublist _ _ _).append (List.Sublist.refl ["metadata", "source"])

/-- The frame is read from the fields in front of others. -/
theorem ofRecord?_append {f : CellFrame} (h : f.metadata.Canonical) (others : List (String × Json))
    (hid : Entries.get? "id" others = none) {limit : Nat}
    (hdepth : fieldsDepth (f.toFields ++ others) ≤ limit) :
    ofRecord? (Record.ofFields (f.toFields ++ others) limit) = some f := by
  have hid := Record.optional?_ofFields "id" (o := f.id) (by simp [toFields, hid]) reads_string
    (by simp) hdepth
  have hmetadata := Record.withDefault?_ofFields "metadata" ∅ (by simp [toFields]) (reads_map h) hdepth
  have hsource := Record.withDefault?_ofFields "source" (.lines []) (by simp [toFields])
    f.source.reads hdepth
  rw [ofRecord?, hid, hmetadata, hsource]
  rfl

theorem ofRecord?_toFields {f : CellFrame} (h : f.metadata.Canonical) {limit : Nat}
    (hdepth : fieldsDepth f.toFields ≤ limit) :
    ofRecord? (Record.ofFields f.toFields limit) = some f := by
  have hread := ofRecord?_append h [] rfl (show fieldsDepth (f.toFields ++ []) ≤ limit by
    rwa [List.append_nil])
  rwa [List.append_nil] at hread

end CellFrame

namespace DocumentCell

/-- What the maps of the record and of its outputs hold is in order. -/
def Canonical : DocumentCell → Prop
  | .code frame _ outputs => frame.metadata.Canonical ∧ ∀ o ∈ outputs, o.Canonical
  | .markdown frame => frame.metadata.Canonical
  | .raw frame => frame.metadata.Canonical

theorem reads {c : DocumentCell} (h : c.Canonical) : Reads reader c.toJson c := by
  cases c with
  | code frame executionCount outputs =>
    have hkeys := frame.keys_toFields.append (List.Sublist.refl ["execution_count", "outputs"])
    rw [toJson, List.append_assoc, List.singleton_append]
    refine Tagged.reads_record [] (CellFrame.keys ++ ["execution_count", "outputs"])
      (by rwa [List.map_append]) (by decide) fun t limit htag hrecord hdepth => ?_
    have hframe := CellFrame.ofRecord?_append h.1 _ (by simp) hdepth
    have hcount := Record.optional?_ofFields_ofOption "execution_count" (o := executionCount)
      (by simp [CellFrame.toFields]) reads_uint32 (by simp [Json.ofNat, Json.ofInt]) hdepth
    have houtputs := Record.withDefault?_ofFields "outputs" [] (by simp [CellFrame.toFields])
      (reads_list fun o ho => DocumentOutput.reads (h.2 o ho)) hdepth
    simp [htag, hrecord, hframe, hcount, houtputs]
  | markdown frame | raw frame =>
    refine Tagged.reads_record [] CellFrame.keys frame.keys_toFields (by decide)
      fun t limit htag hrecord hdepth => ?_
    simp [htag, hrecord, CellFrame.ofRecord?_toFields h hdepth]

end DocumentCell

namespace Document

/-- What the maps of the document hold is in order. -/
structure Canonical (d : Document) : Prop where
  metadata : d.metadata.Canonical
  cells : ∀ c ∈ d.cells, c.Canonical

theorem reads {d : Document} (h : d.Canonical) : Reads reader d.toJson d := by
  refine reads_object fun limit hdepth => ?_
  have hmetadata := Record.withDefault?_ofFields "metadata" ∅ (by simp)
    (DocumentMetadata.reads h.metadata) hdepth
  have hformat := Record.required?_ofFields "nbformat" (by simp) (reads_uint32 d.format) hdepth
  have hminor := Record.required?_ofFields "nbformat_minor" (by simp) (reads_uint32 d.formatMinor)
    hdepth
  have hcells := Record.withDefault?_ofFields "cells" [] (by simp)
    (reads_list fun c hc => DocumentCell.reads (h.cells c hc)) hdepth
  generalize hfields : [("metadata", d.metadata.toJson), ("nbformat", Json.ofNat d.format.toNat),
    ("nbformat_minor", Json.ofNat d.formatMinor.toNat),
    ("cells", Json.array (d.cells.map DocumentCell.toJson))] = fields at *
  have hkeys : (fields.map Prod.fst).Sublist
      ["metadata", "nbformat", "nbformat_minor", "cells"] := by
    rw [← hfields]
    exact List.Sublist.refl _
  rw [reader, Record.ofScanned?_ofJson hkeys (by decide)]
  simp [hmetadata, hformat, hminor, hcells]

/-- A document whose numbers are legible is read back from its text if it nests within the limit. -/
theorem ofText?_toText {d : Document} (h : d.Canonical)
    (hfits : d.toJson.Fits Number.Legible nestingLimit) : ofText? d.toText = some d := by
  rw [ofText?, toText, Scanned.ofText?_pretty hfits.2]
  exact reads h nestingLimit hfits.1

/-- If the text of a document can be read, its metadata are those that were written. -/
theorem metadata_of_ofText?_toText {d read : Document} (hcanonical : d.metadata.Canonical)
    (hfits : d.metadata.toJson.Fits Number.Legible (nestingLimit - 1))
    (h : ofText? d.toText = some read) : read.metadata = d.metadata := by
  rw [ofText?, toText, toJson] at h
  obtain ⟨v, hscan, hread⟩ := Option.bind_eq_some_iff.mp h
  obtain ⟨fields, rfl⟩ := Scanned.exists_fields_of_ofText?_pretty hfits.2 hscan
  rw [reader] at hread
  obtain ⟨r, hrecord, hread⟩ := Option.bind_eq_some_iff.mp hread
  obtain ⟨rest, rfl⟩ := Record.exists_fields_of_ofScanned? (by simp) hrecord
  obtain ⟨metadata, hmetadata, hread⟩ := Option.bind_eq_some_iff.mp hread
  have hwritten : DocumentMetadata.reader 126 _ = _ := DocumentMetadata.reads hcanonical _ hfits.1
  simp only [Record.withDefault?, Entries.get?_cons, if_pos, hwritten, Option.some_inj] at hmetadata
  obtain ⟨format, -, hread⟩ := Option.bind_eq_some_iff.mp hread
  obtain ⟨minor, -, hread⟩ := Option.bind_eq_some_iff.mp hread
  obtain ⟨cells, -, hread⟩ := Option.bind_eq_some_iff.mp hread
  cases hread
  exact hmetadata.symm

end Document

end NotebookKernel
