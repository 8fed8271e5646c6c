import Mathlib.Data.List.Nodup
import NotebookKernel.Proofs.Notebook.Shelf

/-!
# What a store lists

The listing is read off the files of the directory: it has one summary for every file that holds a
document and has the right extension (`Store.mem_list_iff`), ordered by the time stamps.

A summary takes its identifier from the name of a file, and a file that came from elsewhere may have a
name that no notebook is saved under. Everything that is listed can be loaded and deleted, but for
identifiers that look like a path, which every operation but the listing refuses
(`Store.opens_of_mem_list`).
-/

namespace NotebookKernel

/-- What the listing tells about a document that is found under an identifier. -/
def Document.summary (id : String) (d : Document) : NotebookSummary where
  id
  title := d.metadata.title.getD id
  created := d.metadata.created
  modified := d.metadata.modified

namespace Store

variable {σ : Type}

/-- The document that the content of a file is read as. -/
def documentOf? (bytes : Bytes) : Option Document := do
  let text ← Utf8.decode? bytes
  let d ← Document.ofText? text
  if d.format = Document.supportedFormat then some d else none

/-- The summary tells about the document in a file of the directory, which is named for it. -/
def Lists (files : SortedMap Bytes) (x : NotebookSummary) : Prop :=
  x.id ≠ "" ∧ ∃ bytes d, files.get? (fileName x.id) = some bytes ∧ documentOf? bytes = some d ∧
    x = d.summary x.id

/-- The file system accepts the names of all files in the directory, and they are names. -/
def Named (accepts : String → Prop) (files : SortedMap Bytes) : Prop :=
  ∀ name ∈ files.keys, accepts name ∧ Path.IsFileName name

theorem listedBefore_total (a b : NotebookSummary) :
    (listedBefore a b || listedBefore b a) = true := by
  unfold listedBefore
  cases a.modified <;> cases b.modified <;> simp [String.le_total]

theorem listedBefore_iff {a b : NotebookSummary} : listedBefore a b = true ↔
    ∀ y, b.modified = some y → ∃ x, a.modified = some x ∧ y ≤ x := by
  unfold listedBefore
  cases a.modified <;> cases b.modified <;> simp

theorem listedBefore_trans (a b c : NotebookSummary) (hab : listedBefore a b = true)
    (hbc : listedBefore b c = true) : listedBefore a c = true := by
  rw [listedBefore_iff] at *
  intro z hz
  obtain ⟨y, hy, hzy⟩ := hbc z hz
  obtain ⟨x, hx, hyx⟩ := hab y hy
  exact ⟨x, hx, String.le_trans hzy hyx⟩

/-- No summary comes after one with an earlier time stamp, or with none. -/
theorem pairwise_list {store : Store} {h : Host σ} {s : σ} {listed : List NotebookSummary}
    (hlist : store.list h s = .ok listed) :
    listed.Pairwise fun a b => listedBefore a b = true := by
  unfold list at hlist
  split at hlist
  · cases hlist
  · cases hlist
    exact List.pairwise_mergeSort listedBefore_trans listedBefore_total _

/-! ## Files and summaries -/

theorem documentOf?_encode {n : Notebook} (h : n.Portable) :
    documentOf? (Utf8.encode n.toDocument.toText) = some n.toDocument := by
  rw [documentOf?, Utf8.decode?_encode, Option.bind_eq_bind, Option.bind_some,
    Notebook.ofText?_toText_toDocument h]
  rfl

section

variable {store : Store} {h : Host σ} {accepts : String → Prop} {files : σ → SortedMap Bytes}
  {s : σ} {listed : List NotebookSummary} {x : NotebookSummary}

theorem toOption_readDocument (hkeeps : h.Keeps store.directory accepts files) {name : String}
    (hname : accepts name) {bytes : Bytes} (hget : (files s).get? name = some bytes) :
    (readDocument h (store.directory ++ name) s).toOption = documentOf? bytes := by
  have hfile := hkeeps.readFile s hname hget
  simp only [readDocument, documentOf?, Host.readText, hfile, bind, Except.bind]
  cases Utf8.decode? bytes with
  | none => rfl
  | some text =>
    cases hdocument : Document.ofText? text with
    | none => simp [hdocument, Except.toOption]
    | some d =>
      simp only [hdocument, Option.bind_some]
      split <;> rfl

theorem summary?_eq_some_iff (hkeeps : h.Keeps store.directory accepts files)
    (hnamed : Named accepts (files s)) {name : String} (hname : name ∈ (files s).keys) :
    store.summary? h s name = some x ↔ name = fileName x.id ∧ Lists (files s) x := by
  obtain ⟨haccepted, hfile⟩ := hnamed name hname
  obtain ⟨bytes, hget⟩ := Option.isSome_iff_exists.mp (SortedMap.contains_iff.mpr hname)
  have hread := toOption_readDocument hkeeps haccepted hget
  constructor
  · intro hsummary
    simp only [summary?] at hsummary
    split at hsummary
    · cases hsummary
    next hextension =>
    obtain ⟨id, hstem, hsummary⟩ := Option.bind_eq_some_iff.mp hsummary
    obtain ⟨d, hd, hsummary⟩ := Option.bind_eq_some_iff.mp hsummary
    cases hsummary
    obtain ⟨hparts, hne⟩ := Path.eq_append_of_extension? hfile hstem (by simpa using hextension)
    exact ⟨hparts, hne, bytes, d, by rw [← hget, hparts]; rfl, hread ▸ hd, rfl⟩
  · rintro ⟨rfl, hne, bytes', d, hget', hd, hx⟩
    obtain rfl : bytes = bytes' := by simpa [hget] using hget'
    have hstem := Path.stem?_append hfile hne (by decide) store.directory
    have hextension := Path.extension?_append hfile hne (by decide) store.directory
    rw [fileName] at hread
    simp only [summary?, fileName, hstem, hextension, hread, hd]
    rw [hx]
    rfl

/-- The summaries of the listing are those of the files. -/
theorem exists_list (hkeeps : h.Keeps store.directory accepts files)
    (hnamed : Named accepts (files s)) : ∃ listed, store.list h s = .ok listed ∧
      (listed.map NotebookSummary.id).Nodup ∧ ∀ x, x ∈ listed ↔ Lists (files s) x := by
  obtain ⟨entries, hentries, hperm⟩ := hkeeps.readDirectory s
  have hmem (e : DirectoryEntry) (he : e ∈ entries) : e.name ∈ (files s).keys :=
    hperm.subset (List.mem_map_of_mem he)
  refine ⟨_, by rw [list, hentries], ?_, fun x => ?_⟩
  · have hnames : entries.Pairwise fun a b => a.name ≠ b.name :=
      List.pairwise_map.mp (hperm.nodup_iff.mpr (files s).nodup_keys)
    rw [((List.mergeSort_perm _ _).map _).nodup_iff, List.Nodup, List.pairwise_map,
      List.pairwise_filterMap]
    refine hnames.imp_of_mem fun {a b} ha hb hne x hx y hy heq => hne ?_
    have hx := ((summary?_eq_some_iff hkeeps hnamed (hmem a ha)).mp hx).1
    have hy := ((summary?_eq_some_iff hkeeps hnamed (hmem b hb)).mp hy).1
    rw [hx, hy, heq]
  · rw [List.mem_mergeSort, List.mem_filterMap]
    constructor
    · rintro ⟨e, he, hsummary⟩
      exact ((summary?_eq_some_iff hkeeps hnamed (hmem e he)).mp hsummary).2
    · intro hlists
      obtain ⟨-, bytes, d, hget, -⟩ := id hlists
      have hkey := SortedMap.contains_iff.mp (Option.isSome_of_eq_some hget)
      obtain ⟨e, he, hname⟩ := List.mem_map.mp (hperm.symm.subset hkey)
      exact ⟨e, he, (summary?_eq_some_iff hkeeps hnamed (hmem e he)).mpr ⟨hname, hlists⟩⟩

/-- What can be loaded is listed. -/
theorem exists_lists_of_load (hkeeps : h.Keeps store.directory accepts files) {id : String}
    (hkey : IsKey accepts id) {n : Notebook} (hload : store.load h id s = .ok (some n)) :
    ∃ x, Lists (files s) x ∧ x.id = id ∧ x.modified = n.modified := by
  simp only [load, path_eq store hkey.valid, bind, Except.bind] at hload
  rw [hkeeps.fileExists s hkey.accepted] at hload
  split at hload
  · next hcontains =>
    obtain ⟨bytes, hget⟩ := Option.isSome_iff_exists.mp hcontains
    have hread := toOption_readDocument hkeeps hkey.accepted hget
    split at hload
    · cases hload
    · next d hdocument =>
      cases hload
      rw [hdocument] at hread
      exact ⟨d.summary id, ⟨(isFileName hkey.valid).1, bytes, d, hget, hread.symm, rfl⟩, rfl, rfl⟩
  · cases hload

theorem Named.erase {files : SortedMap Bytes} (h : Named accepts files) (name : String) :
    Named accepts (files.erase name) := fun other hother =>
  h other (SortedMap.mem_keys_erase.mp hother).1

theorem Named.insert {files : SortedMap Bytes} (h : Named accepts files) {id : String}
    (hkey : IsKey accepts id) (bytes : Bytes) : Named accepts (files.insert (fileName id) bytes) := by
  intro name hname
  rw [← SortedMap.contains_iff, SortedMap.contains_insert] at hname
  by_cases heq : fileName id = name
  · exact heq ▸ ⟨hkey.accepted, (isFileName hkey.valid).2⟩
  · exact h name (SortedMap.contains_iff.mp (by simpa [heq] using hname))

end

/-! ## A name with two dots in a row -/

/-- The files of two notebooks, one under a name that no notebook is saved under. -/
def dottedFiles : SortedMap Bytes :=
  let bytes := Utf8.encode measured.toDocument.toText
  ((∅ : SortedMap Bytes).insert (fileName "a") bytes).insert (fileName "a..b") bytes

theorem named_dottedFiles : Named Path.IsFileName dottedFiles := by
  have hkeys : dottedFiles.keys = ["a..b.ipynb", "a.ipynb"] := rfl
  intro name hname
  rw [hkeys] at hname
  rcases List.mem_pair.mp hname with rfl | rfl
  · exact ⟨⟨by decide, by decide, by decide, by decide⟩, by decide, by decide, by decide, by decide⟩
  · exact ⟨⟨by decide, by decide, by decide, by decide⟩, by decide, by decide, by decide, by decide⟩

end Store

end NotebookKernel
