import NotebookKernel.Proofs.Notebook.RoundTrip

/-!
# Documents of other programs, loaded and saved

Reading a document settles the form of everything in it, so that saving the notebook and reading it
again should change nothing. It does so for all records but one kind: a result with data beside its plain
text of which none is an image or HTML is read as a text with data, and texts are written without any
(`Notebook.ofDocument_toDocument_ofDocument_iff`).
-/

namespace NotebookKernel

open Text

/-- The record is a result whose bundle has something beside the plain text, but neither an image nor
HTML. -/
def DocumentOutput.IsTextWithData : DocumentOutput → Prop
  | .executeResult _ data _ => (∃ mime ∈ data.keys, mime ≠ Mime.plain) ∧ Mime.html ∉ data.keys ∧
      ∀ mime ∈ data.keys, startsWith "image/" mime = false
  | _ => False

namespace Output

variable (bundle : MimeBundle) (fallback : Kind)

theorem isEmpty_erase_iff :
    (bundle.erase Mime.plain).isEmpty = true ↔ ∀ mime ∈ bundle.keys, mime = Mime.plain := by
  have hkeys : (bundle.erase Mime.plain).isEmpty = true ↔ (bundle.erase Mime.plain).keys = [] := by
    rw [SortedMap.isEmpty, List.isEmpty_iff, SortedMap.keys, List.map_eq_nil_iff]
  rw [hkeys, List.eq_nil_iff_forall_not_mem]
  simp only [SortedMap.mem_keys_erase, not_and, not_not]

theorem dataOrEmpty_ofBundle : (ofBundle bundle fallback).dataOrEmpty = bundle.erase Mime.plain := by
  simp only [dataOrEmpty, ofBundle]
  split
  · next hempty =>
    refine SortedMap.ext_get? fun key => ?_
    simp only [SortedMap.isEmpty, List.isEmpty_iff] at hempty
    rw [SortedMap.get?, SortedMap.get?, hempty]
    rfl
  · rfl

theorem erase_bundle_ofBundle :
    (ofBundle bundle fallback).bundle.erase Mime.plain = bundle.erase Mime.plain := by
  rw [erase_bundle, dataOrEmpty_ofBundle]
  refine SortedMap.ext_get? fun key => ?_
  by_cases h : Mime.plain = key <;> simp [SortedMap.get?_erase, h]

/-- The content that was found is found again: where there was none, the plain text is gone. -/
theorem content_ofBundle_bundle (fallback' : Kind) :
    (ofBundle (ofBundle bundle fallback).bundle fallback').content =
      (ofBundle bundle fallback).content := by
  rw [content_ofBundle_eq_iff, dataOrEmpty_ofBundle]
  intro _ v text hv
  simp [SortedMap.get?_erase] at hv

/-- A bundle is read by its plain text and by what else is in it. -/
theorem ofBundle_congr {a b : MimeBundle} (herase : a.erase Mime.plain = b.erase Mime.plain)
    (hcontent : (ofBundle a fallback).content = (ofBundle b fallback).content) :
    ofBundle a fallback = ofBundle b fallback := by
  simp only [ofBundle] at hcontent
  simp only [ofBundle, herase, hcontent]

/-- The bundle of an output that was read is read as the same output. -/
theorem ofBundle_bundle (fallback' : Kind) :
    ofBundle (ofBundle bundle fallback).bundle fallback' = ofBundle bundle fallback' :=
  ofBundle_congr fallback' (erase_bundle_ofBundle bundle fallback)
    (content_ofBundle_bundle bundle fallback fallback')

theorem kind_ofBundle :
    (ofBundle bundle fallback).kind =
      if ∃ mime ∈ bundle.keys, startsWith "image/" mime = true then .plot
      else if Mime.html ∈ bundle.keys then .html
      else fallback := by
  simp only [ofBundle, any_image_erase, contains_html_erase]

theorem data_ofBundle_eq_none_iff :
    (ofBundle bundle fallback).data = none ↔ ∀ mime ∈ bundle.keys, mime = Mime.plain := by
  rw [← isEmpty_erase_iff]
  simp [ofBundle]

/-- Where the bundle itself tells the kind, the fallback does not matter. -/
theorem ofBundle_fallback (h : (ofBundle bundle fallback).kind ≠ fallback) (fallback' : Kind) :
    ofBundle bundle fallback' = ofBundle bundle fallback := by
  have hkind : (ofBundle bundle fallback').kind = (ofBundle bundle fallback).kind := by
    simp only [kind_ofBundle] at h ⊢
    split_ifs at h ⊢
    · rfl
    · rfl
    · exact absurd rfl h
  simp only [ofBundle] at hkind ⊢
  rw [hkind]

theorem toDocument_of_bundle {o : Output} (h : o.kind = .plot ∨ o.kind = .html) :
    o.toDocument = .displayData o.bundle ∅ := by
  rcases h with h | h <;> rw [toDocument, h]

theorem kind_ofBundle_text_iff :
    (ofBundle bundle .text).kind = .text ↔
      Mime.html ∉ bundle.keys ∧ ∀ mime ∈ bundle.keys, startsWith "image/" mime = false := by
  rw [kind_ofBundle]
  split_ifs with himage hhtml
  · refine iff_of_false nofun fun h => ?_
    obtain ⟨mime, hmem, htrue⟩ := himage
    exact absurd htrue (by rw [h.2 mime hmem]; decide)
  · exact iff_of_false nofun fun h => h.1 hhtml
  · exact iff_of_true rfl ⟨hhtml, by simpa using himage⟩

/-- Of an output that is a text, what is written as a stream comes back. -/
theorem ofDocument_toDocument_of_text {o : Output} (h : o.kind = .text) :
    ofDocument o.toDocument = o ↔ o.data = none := by
  obtain ⟨kind, content, data⟩ := o
  obtain rfl : kind = .text := h
  simp only [toDocument, ofDocument, text, Multiline.toText_ofText, Output.mk.injEq, true_and]
  exact eq_comm

/-- A record that was read stays as it is, but for a text with data. -/
theorem ofDocument_toDocument_of_record_iff (r : DocumentOutput) :
    ofDocument (ofDocument r).toDocument = ofDocument r ↔ ¬r.IsTextWithData := by
  cases r with
  | stream name t =>
    refine iff_of_true ?_ id
    simp only [ofDocument, toDocument, text, Multiline.toText_ofText]
  | error name value traceback =>
    refine iff_of_true ?_ id
    simp only [ofDocument, toDocument, error]
    exact congrArg error (join_splitOn '\n' _)
  | displayData data metadata =>
    refine iff_of_true ?_ id
    have hkind : (ofBundle data .plot).kind = .plot ∨ (ofBundle data .plot).kind = .html := by
      rw [kind_ofBundle]
      split_ifs <;> simp
    rw [ofDocument, toDocument_of_bundle hkind]
    exact ofBundle_bundle data .plot .plot
  | executeResult count data metadata =>
    rw [DocumentOutput.IsTextWithData, ← kind_ofBundle_text_iff, ofDocument]
    by_cases htext : (ofBundle data .text).kind = .text
    · rw [ofDocument_toDocument_of_text htext, data_ofBundle_eq_none_iff]
      simp [htext]
    · have hkind : (ofBundle data .text).kind = .plot ∨ (ofBundle data .text).kind = .html := by
        rw [kind_ofBundle] at htext ⊢
        split_ifs at htext ⊢ <;> simp_all
      refine iff_of_true ?_ fun h => htext h.2
      rw [toDocument_of_bundle hkind]
      exact (ofBundle_bundle data .text .plot).trans (ofBundle_fallback data .text htext .plot)

end Output

namespace DocumentCell

/-- The output record that is read of a cell: the first one of a code cell. -/
def firstOutput? : DocumentCell → Option DocumentOutput
  | .code _ _ outputs => outputs.head?
  | _ => none

/-- A cell that was read stays as it is unless its output is a text with data. -/
theorem toCell_toDocument_toCell_iff (id : String) (c : DocumentCell) :
    (c.toCell id).toDocument.toCell id = c.toCell id ↔
      ∀ r, c.firstOutput? = some r → ¬r.IsTextWithData := by
  have hsource (m : Multiline) : (Multiline.ofText m.toText).toText = m.toText :=
    Multiline.toText_ofText _
  cases c with
  | code frame executionCount outputs =>
    cases outputs with
    | nil => simp [toCell, Cell.toDocument, hsource, firstOutput?]
    | cons r outputs =>
      simp only [firstOutput?, List.head?_cons, Option.some.injEq, forall_eq']
      rw [← Output.ofDocument_toDocument_of_record_iff]
      simp [toCell, Cell.toDocument, hsource]
  | markdown frame => simp [toCell, Cell.toDocument, hsource, firstOutput?]
  | raw frame => simp [toCell, Cell.toDocument, hsource, firstOutput?]

theorem id_toCell (id : String) (c : DocumentCell) : (c.toCell id).id = id := by
  cases c <;> rfl

/-- Cells that were read have identifiers of their own, and stay as they are one by one. -/
theorem toCells_map_toDocument_iff (earlier : List String) (cells : List DocumentCell) :
    (toCells earlier cells).map (fun c => c.toDocument.toCell c.id) = toCells earlier cells ↔
      ∀ c ∈ cells, ∀ r, c.firstOutput? = some r → ¬r.IsTextWithData := by
  induction cells generalizing earlier with
  | nil => exact iff_of_true rfl (List.forall_mem_nil _)
  | cons c cells ih =>
    have hcell (id : String) (earlier : List String) :
        (c.toCell id :: toCells earlier cells).map (fun c => c.toDocument.toCell c.id) =
            c.toCell id :: toCells earlier cells ↔
          ∀ c' ∈ c :: cells, ∀ r, c'.firstOutput? = some r → ¬r.IsTextWithData := by
      rw [List.map_cons, List.cons.injEq, ih, id_toCell, toCell_toDocument_toCell_iff,
        List.forall_mem_cons]
    rw [toCells]
    split
    · exact hcell _ _
    · exact hcell _ _

end DocumentCell

namespace Notebook

/-- Loading a document, saving it and loading it again gives the notebook of the first time exactly when
no output that was read is a text with data. -/
theorem ofDocument_toDocument_ofDocument_iff (id : String) (d : Document) :
    ofDocument id (ofDocument id d).toDocument = ofDocument id d ↔
      ∀ c ∈ d.cells, ∀ r, c.firstOutput? = some r → ¬r.IsTextWithData := by
  have hcells : (ofDocument id (ofDocument id d).toDocument).cells =
      (DocumentCell.toCells [] d.cells).map fun c => c.toDocument.toCell c.id :=
    cells_ofDocument_toDocument (ofDocument id d)
  rw [← DocumentCell.toCells_map_toDocument_iff [], ← hcells]
  exact ⟨congrArg Notebook.cells, fun h => by simp only [ofDocument] at h ⊢; rw [h]; rfl⟩

/-- A result that is shown as a formula is down to its plain text the second time. -/
theorem ofDocument_toDocument_ofDocument_ne_of_formula :
    let data : MimeBundle :=
      SortedMap.ofList [(Mime.plain, .string "x**2"), ("text/latex", .string "$x^2$")]
    let frame : CellFrame := ⟨some "a", ∅, .single "x**2"⟩
    let cell : DocumentCell := .code frame (some 1) [.executeResult (some 1) data ∅]
    let document : Document := ⟨∅, Document.supportedFormat, 5, [cell]⟩
    ofDocument "n" (ofDocument "n" document).toDocument ≠ ofDocument "n" document := by
  intro data frame cell document h
  have hdata := congrArg (fun n => n.cells.map fun c => (c.output.bind (·.data)).isSome) h
  revert hdata
  decide

end Notebook

end NotebookKernel
