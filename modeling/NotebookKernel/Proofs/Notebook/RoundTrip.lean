import NotebookKernel.Notebook.Conversion
import NotebookKernel.Proofs.Text.Pieces
import Mathlib.Data.List.Forall2

/-!
# What a notebook keeps on its way through a document

Titles, time stamps, identifiers, sources and execution counts always come back. Of an output with
data the kind has to be guessed from the MIME types again, and an empty content is not written at all.
`Output.Recoverable` says when kind and content come back nevertheless, and
`Notebook.agrees_ofDocument_toDocument_iff` that this is exactly when the notebook does.
-/

namespace NotebookKernel

open Text

namespace Json

/-- The text that a document holds in this form: one string, or a list of lines. -/
def text? : Json → Option String
  | .string s => some s
  | .array items => (items.mapM string?).map fun parts => (Multiline.lines parts).toText
  | _ => none

theorem list_string_ofJson (limit : Nat) (items : List Json) :
    (Scanned.itemsOfJson items).mapM (Reader.string limit) = items.mapM string? := by
  induction items with
  | nil => rfl
  | cons item items ih =>
    rw [Scanned.itemsOfJson, List.mapM_cons, List.mapM_cons, ih]
    cases item <;> rfl

theorem multiline_ofJson (limit : Nat) (v : Json) :
    (Multiline.reader (limit + 1) (Scanned.ofJson v)).map Multiline.toText = v.text? := by
  cases v with
  | array items =>
    simp only [Scanned.ofJson, Multiline.reader, Reader.list, list_string_ofJson, text?]
    cases items.mapM string? <;> rfl
  | _ => rfl

theorem text?_toJson_ofText (text : String) : (Multiline.ofText text).toJson.text? = some text := by
  have hparts (parts : List String) : (parts.map Json.string).mapM string? = some parts := by
    induction parts with
    | nil => rfl
    | cons part parts ih => simp [List.mapM_cons, ih, string?]
  have htext := Multiline.toText_ofText text
  simp only [Multiline.ofText] at htext ⊢
  simp [Multiline.toJson, ofStrings, text?, hparts, htext]

end Json

namespace Output

/-- Two outputs of one kind and with one content. -/
def Agrees (a b : Output) : Prop := a.kind = b.kind ∧ a.content = b.content

/-- The data of an output, empty where there is none. -/
def dataOrEmpty (o : Output) : MimeBundle := o.data.getD ∅

/-- Kind and content can be told from the data. -/
structure Recoverable (o : Output) : Prop where
  /-- HTML is known by its MIME type, and by there being no image. -/
  html : o.kind = .html → Mime.html ∈ o.dataOrEmpty.keys ∧
    ∀ mime ∈ o.dataOrEmpty.keys, startsWith "image/" mime = false
  /-- A plot beside HTML is known by its image. -/
  plot : o.kind = .plot → Mime.html ∈ o.dataOrEmpty.keys →
    ∃ mime ∈ o.dataOrEmpty.keys, startsWith "image/" mime = true
  /-- Where there is no content, the data holds no plain text in its place. -/
  content : o.kind = .html ∨ o.kind = .plot → o.content = "" →
    ∀ v text, o.dataOrEmpty.get? Mime.plain = some v → v.text? = some text → text = ""

theorem plainText?_eq (bundle : MimeBundle) :
    plainText? bundle = (bundle.get? Mime.plain).bind Json.text? := by
  unfold plainText?
  congr 1
  funext v
  exact Json.multiline_ofJson _ v

/-- Taking the plain text out of a bundle leaves the data, less its own plain text. -/
theorem erase_bundle (o : Output) : o.bundle.erase Mime.plain = o.dataOrEmpty.erase Mime.plain := by
  apply SortedMap.ext_get?
  intro key
  simp only [bundle, dataOrEmpty]
  split
  · rfl
  · by_cases h : Mime.plain = key <;> simp [SortedMap.get?_erase, SortedMap.get?_insert, h]

theorem plainText?_bundle_of_content {o : Output} (h : o.content ≠ "") :
    plainText? o.bundle = some o.content := by
  have hnonempty : o.content.isEmpty = false := by simpa using h
  rw [plainText?_eq, bundle]
  simp [hnonempty, SortedMap.get?_insert, Json.text?_toJson_ofText]

theorem bundle_of_content_eq {o : Output} (h : o.content = "") : o.bundle = o.dataOrEmpty := by
  simp [bundle, dataOrEmpty, h]

/-- The content comes back unless it is empty and the data has a plain text of its own. -/
theorem content_ofBundle_eq_iff (o : Output) (fallback : Kind) :
    (ofBundle o.bundle fallback).content = o.content ↔
      (o.content = "" →
        ∀ v text, o.dataOrEmpty.get? Mime.plain = some v → v.text? = some text → text = "") := by
  by_cases h : o.content = ""
  · rw [ofBundle, bundle_of_content_eq h, plainText?_eq, h]
    constructor
    · intro hcontent _ v text hv htext
      simpa [hv, htext] using hcontent
    · intro hdata
      cases hv : o.dataOrEmpty.get? Mime.plain with
      | none => rfl
      | some v =>
        cases htext : v.text? with
        | none => simp [htext]
        | some text => simp [htext, hdata rfl v text hv htext]
  · simp [ofBundle, plainText?_bundle_of_content h, h]

theorem any_image_erase (data : MimeBundle) :
    (data.erase Mime.plain).keys.any (startsWith "image/") = true ↔
      ∃ mime ∈ data.keys, startsWith "image/" mime = true := by
  rw [List.any_eq_true]
  constructor
  · rintro ⟨mime, hmem, himage⟩
    exact ⟨mime, (SortedMap.mem_keys_erase.mp hmem).1, himage⟩
  · rintro ⟨mime, hmem, himage⟩
    refine ⟨mime, SortedMap.mem_keys_erase.mpr ⟨hmem, ?_⟩, himage⟩
    rintro rfl
    exact absurd himage (by decide)

theorem contains_html_erase (data : MimeBundle) :
    (data.erase Mime.plain).contains Mime.html = true ↔ Mime.html ∈ data.keys := by
  rw [SortedMap.contains_iff, SortedMap.mem_keys_erase]
  exact and_iff_left (by decide)

/-- The kind that is guessed for display data. -/
theorem kind_ofBundle_eq (o : Output) (fallback : Kind) :
    (ofBundle o.bundle fallback).kind =
      if ∃ mime ∈ o.dataOrEmpty.keys, startsWith "image/" mime = true then .plot
      else if Mime.html ∈ o.dataOrEmpty.keys then .html
      else fallback := by
  simp only [ofBundle, erase_bundle]
  simp only [any_image_erase, contains_html_erase]

theorem agrees_ofDocument_iff (o : Output) :
    o.Agrees (ofDocument o.toDocument) ↔ o.Recoverable := by
  cases hkind : o.kind with
  | text =>
    refine iff_of_true ?_ ⟨by simp [hkind], by simp [hkind], by simp [hkind]⟩
    simp [Agrees, toDocument, ofDocument, hkind, text, Multiline.toText_ofText]
  | error =>
    refine iff_of_true ?_ ⟨by simp [hkind], by simp [hkind], by simp [hkind]⟩
    simp only [Agrees, toDocument, hkind, ofDocument, error, true_and]
    exact (join_splitOn '\n' o.content).symm
  | html =>
    simp only [Agrees, toDocument, hkind, ofDocument]
    rw [kind_ofBundle_eq, eq_comm (a := o.content), content_ofBundle_eq_iff]
    constructor
    · rintro ⟨hguess, hcontent⟩
      refine ⟨fun _ => ?_, by simp [hkind], fun _ => hcontent⟩
      split at hguess
      · cases hguess
      · next himage =>
        split at hguess
        · next hhtml => exact ⟨hhtml, by simpa using himage⟩
        · cases hguess
    · intro h
      obtain ⟨hhtml, himage⟩ := h.html hkind
      refine ⟨?_, h.content (.inl hkind)⟩
      rw [if_neg (by simpa using himage), if_pos hhtml]
  | plot =>
    simp only [Agrees, toDocument, hkind, ofDocument]
    rw [kind_ofBundle_eq, eq_comm (a := o.content), content_ofBundle_eq_iff]
    constructor
    · rintro ⟨hguess, hcontent⟩
      refine ⟨by simp [hkind], fun _ hhtml => ?_, fun _ => hcontent⟩
      by_contra himage
      rw [if_neg himage, if_pos hhtml] at hguess
      cases hguess
    · intro h
      refine ⟨?_, h.content (.inr hkind)⟩
      by_cases himage : ∃ mime ∈ o.dataOrEmpty.keys, startsWith "image/" mime = true
      · rw [if_pos himage]
      · rw [if_neg himage, if_neg fun hhtml => himage (h.plot hkind hhtml)]

end Output

namespace Cell

/-- Two cells that differ in their status and in the data of their outputs at most. -/
structure Agrees (a b : Cell) : Prop where
  id : a.id = b.id
  kind : a.kind = b.kind
  content : a.content = b.content
  executionCount : a.executionCount = b.executionCount
  output : Option.Rel Output.Agrees a.output b.output

/-- The cell can be told from its record: a markdown cell was never run, and the output of a code cell
shows in its data what it is. -/
def Recoverable (c : Cell) : Prop :=
  match c.kind with
  | .markdown => c.executionCount = none ∧ c.output = none
  | .code => ∀ o, c.output = some o → o.Recoverable

theorem agrees_toCell_toDocument_iff (c : Cell) :
    c.Agrees (c.toDocument.toCell c.id) ↔ c.Recoverable := by
  obtain ⟨id, kind, content, executionCount, output, status⟩ := c
  have hcontent := Multiline.toText_ofText content
  cases kind with
  | markdown =>
    simp only [toDocument, DocumentCell.toCell, Recoverable]
    constructor
    · intro h
      refine ⟨h.executionCount, ?_⟩
      cases output with
      | none => rfl
      | some o => cases h.output
    · rintro ⟨rfl, rfl⟩
      exact ⟨rfl, rfl, hcontent.symm, rfl, .none⟩
  | code =>
    simp only [toDocument, DocumentCell.toCell, Recoverable]
    cases output with
    | none => exact iff_of_true ⟨rfl, rfl, hcontent.symm, rfl, .none⟩ (by simp)
    | some o =>
      constructor
      · rintro h _ ⟨⟩
        cases h.output with
        | some hrel => exact o.agrees_ofDocument_iff.mp hrel
      · intro h
        have hrel := o.agrees_ofDocument_iff.mpr (h o rfl)
        exact ⟨rfl, rfl, hcontent.symm, rfl, .some hrel⟩

end Cell

namespace Notebook

/-- Two notebooks of one title and one pair of time stamps whose cells agree one by one. -/
structure Agrees (a b : Notebook) : Prop where
  title : a.title = b.title
  created : a.created = b.created
  modified : a.modified = b.modified
  cells : List.Forall₂ Cell.Agrees a.cells b.cells

/-- Every cell keeps its identifier, so that none is derived. -/
theorem toCells_map_toDocument (earlier : List String) (cells : List Cell) :
    DocumentCell.toCells earlier (cells.map Cell.toDocument)
      = cells.map fun c => c.toDocument.toCell c.id := by
  induction cells with
  | nil => rfl
  | cons c cells ih =>
    have hid : c.toDocument.frame.id = some c.id := by
      simp only [Cell.toDocument]
      split <;> rfl
    rw [List.map_cons, DocumentCell.toCells, hid, List.map_cons, ih]

theorem cells_ofDocument_toDocument (n : Notebook) :
    (ofDocument n.id n.toDocument).cells = n.cells.map fun c => c.toDocument.toCell c.id :=
  toCells_map_toDocument [] n.cells

/-- A notebook agrees with what is read back from its document exactly when each of its cells can be
recovered. -/
theorem agrees_ofDocument_toDocument_iff (n : Notebook) :
    n.Agrees (ofDocument n.id n.toDocument) ↔ ∀ c ∈ n.cells, c.Recoverable := by
  have hcells : List.Forall₂ Cell.Agrees n.cells (ofDocument n.id n.toDocument).cells ↔
      ∀ c ∈ n.cells, c.Recoverable := by
    rw [cells_ofDocument_toDocument, List.forall₂_map_right_iff, List.forall₂_same]
    exact forall₂_congr fun c _ => c.agrees_toCell_toDocument_iff
  rw [← hcells]
  exact ⟨fun h => h.cells, fun h => ⟨rfl, rfl, rfl, h⟩⟩

/-- HTML without any data comes back as a plot. -/
theorem not_agrees_of_html_without_data :
    let cell : Cell := { Cell.code "a" "x" with output := some ⟨.html, "<b>x</b>", none⟩ }
    let notebook : Notebook := { Notebook.empty "n" "T" with cells := [cell] }
    ¬notebook.Agrees (ofDocument notebook.id notebook.toDocument) := by
  intro cell notebook h
  cases h.cells with
  | cons hcell _ =>
    cases hcell.output with
    | some hrel => exact absurd hrel.1 (by decide)

end Notebook

end NotebookKernel
