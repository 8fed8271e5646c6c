import Mathlib.Data.List.Induction
import NotebookKernel.Notebook.Store
import NotebookKernel.Proofs.Host.Files
import NotebookKernel.Proofs.Notebook.Portable
import NotebookKernel.Proofs.Text.Encoding

/-!
# A store is a map from identifiers to notebooks

`Store.serve` answers one request, and `Store.follow` keeps account of the notebooks while requests are
served: a save puts the stamped notebook on the shelf, a deletion takes it off. The directory always
holds exactly the documents of the notebooks on the shelf (`Store.Holds`), from which the answers to
all further requests can be read off (`Store.Mirrors`).
-/

namespace NotebookKernel

namespace Store

variable {σ : Type}

/-- What is asked of a store. -/
inductive Request where
  | save (id : String) (n : Notebook)
  | load (id : String)
  | delete (id : String)
  | list

/-- What a store answers. -/
inductive Answer where
  | saved (result : Except StoreError Path)
  | loaded (result : Except StoreError (Option Notebook))
  | deleted (result : Except StoreError Bool)
  | listed (result : Except StoreError (List NotebookSummary))

/-- The identifier that a request is about. -/
def Request.id? : Request → Option String
  | .save id _ | .load id | .delete id => some id
  | .list => none

/-- The request saves or deletes the notebook with the identifier. -/
def Request.Changes (id : String) : Request → Prop
  | .save id' _ | .delete id' => id' = id
  | .load _ | .list => False

def serve (store : Store) (h : Host σ) (r : Request) (s : σ) : Answer × σ :=
  match r with
  | .save id n =>
    let ((result, _), s) := store.save h id n s
    (.saved result, s)
  | .load id => (.loaded (store.load h id s), s)
  | .delete id =>
    let (result, s) := store.delete h id s
    (.deleted result, s)
  | .list => (.listed (store.list h s), s)

/-- The notebooks of a store by their identifiers. -/
abbrev Shelf := SortedMap Notebook

/-- The shelf after a request that is served at a moment. -/
def Shelf.after (shelf : Shelf) (now : Instant) : Request → Shelf
  | .save id n => shelf.insert id (stamp id now n)
  | .delete id => shelf.erase id
  | .load _ | .list => shelf

/-- Serves requests one after another, beginning with nothing on the shelf. -/
def follow (store : Store) (h : Host σ) (requests : List Request) (start : σ) : σ × Shelf :=
  requests.foldl (fun (s, shelf) r => ((store.serve h r s).2, shelf.after (h.now s).1 r)) (start, ∅)

/-- The notebook is what was stamped when it was saved under the identifier for the last time, and it
was not deleted since. -/
def LastSaved (store : Store) (h : Host σ) (requests : List Request) (start : σ) (id : String)
    (stamped : Notebook) : Prop :=
  ∃ before n later, requests = before ++ .save id n :: later ∧ (∀ r ∈ later, ¬r.Changes id) ∧
    stamped = stamp id (h.now (store.follow h before start).1).1 n

/-- The name of the file of a notebook. -/
def fileName (id : String) : String := id ++ "." ++ extension

/-- The identifier is valid, and the file system accepts the name made of it. -/
structure IsKey (accepts : String → Prop) (id : String) : Prop where
  valid : isValidId id = true
  accepted : accepts (fileName id)

/-- The request is about a key, and a notebook to be saved is portable. -/
def Request.Admissible (accepts : String → Prop) : Request → Prop
  | .save id n => IsKey accepts id ∧ n.Portable
  | .load id | .delete id => IsKey accepts id
  | .list => True

/-- What the listing tells about a notebook on the shelf. -/
def Shelf.summary (entry : String × Notebook) : NotebookSummary :=
  { entry.2.summary with id := entry.1 }

/-- All operations answer in the state `s` as the shelf says: a notebook is read back from its
document, is saved in the file named for it, is deleted if it is there, and is listed once. -/
structure Mirrors (store : Store) (h : Host σ) (accepts : String → Prop) (s : σ) (shelf : Shelf) :
    Prop where
  load : ∀ id, IsKey accepts id →
    store.load h id s = .ok ((shelf.get? id).map fun n => Notebook.ofDocument id n.toDocument)
  save : ∀ id n, IsKey accepts id →
    (store.save h id n s).1 = (.ok (store.directory ++ fileName id), stamp id (h.now s).1 n)
  delete : ∀ id, IsKey accepts id → (store.delete h id s).1 = .ok (shelf.contains id)
  list : ∃ listed, store.list h s = .ok listed ∧ listed.Perm (shelf.toList.map Shelf.summary)

/-- The directory has the documents of the notebooks on the shelf and nothing else. -/
structure Holds (accepts : String → Prop) (files : SortedMap Bytes) (shelf : Shelf) : Prop where
  text : ∀ id, files.get? (fileName id) =
    (shelf.get? id).map fun n => Utf8.encode n.toDocument.toText
  named : ∀ name ∈ files.keys, ∃ id, name = fileName id
  keys : ∀ id n, shelf.get? id = some n → IsKey accepts id ∧ n.Portable

/-! ## Identifiers and their files -/

theorem fileName_injective {id id' : String} (h : fileName id = fileName id') : id = id' := by
  have hlist := congrArg String.toList h
  simp only [fileName, String.toList_append, List.append_assoc, List.append_cancel_right_eq] at hlist
  exact String.toList_injective hlist

theorem path_eq (store : Store) {id : String} (h : isValidId id = true) :
    store.path id = .ok (store.directory ++ fileName id) := by
  rw [path, if_pos h, fileName]

theorem isFileName {id : String} (h : isValidId id = true) :
    id ≠ "" ∧ Path.IsFileName (fileName id) := by
  simp only [isValidId, Bool.and_eq_true, Bool.not_eq_true'] at h
  obtain ⟨⟨⟨hempty, hslash⟩, _⟩, _⟩ := h
  have hlong (name : String) (hname : name.length < 6) : fileName id ≠ name := by
    intro heq
    have hlength := congrArg String.length heq
    simp only [fileName, extension, String.length_append] at hlength
    have hrest : ".".length + "ipynb".length = 6 := rfl
    omega
  refine ⟨by simpa using hempty, hlong _ (by decide), hlong _ (by decide), hlong _ (by decide), ?_⟩
  have hmem : '/' ∉ id.toList := by
    rw [← Text.Chars.contains_singleton]
    simpa [Text.contains] using hslash
  simpa [fileName, extension] using hmem

/-! ## The directory holds what is on the shelf -/

namespace Holds

variable {accepts : String → Prop} {files : SortedMap Bytes} {shelf : Shelf}

theorem empty : Holds accepts ∅ ∅ where
  text _ := rfl
  named := by rintro _ ⟨⟩
  keys := by rintro _ _ ⟨⟩

theorem contains (h : Holds accepts files shelf) (id : String) :
    files.contains (fileName id) = shelf.contains id := by
  rw [SortedMap.contains, h.text, Option.isSome_map, SortedMap.contains]

/-- The entries of the directory are the files of the notebooks on the shelf, each once. -/
theorem keys_perm (h : Holds accepts files shelf) :
    files.keys.Perm (shelf.keys.map fileName) := by
  have hnodup : (shelf.keys.map fileName).Nodup :=
    List.pairwise_map.mpr (shelf.nodup_keys.imp fun hne heq => hne (fileName_injective heq))
  refine (List.perm_ext_iff_of_nodup files.nodup_keys hnodup).mpr fun name => ?_
  rw [List.mem_map]
  constructor
  · intro hname
    obtain ⟨id, rfl⟩ := h.named name hname
    rw [← SortedMap.contains_iff, h.contains, SortedMap.contains_iff] at hname
    exact ⟨id, hname, rfl⟩
  · rintro ⟨id, hid, rfl⟩
    rwa [← SortedMap.contains_iff, h.contains, SortedMap.contains_iff]

theorem insert (h : Holds accepts files shelf) {id : String} {n : Notebook}
    (hkey : IsKey accepts id) (hn : n.Portable) :
    Holds accepts (files.insert (fileName id) (Utf8.encode n.toDocument.toText))
      (shelf.insert id n) where
  text id' := by
    rw [SortedMap.get?_insert, SortedMap.get?_insert, h.text]
    by_cases heq : id = id'
    · simp [heq]
    · simp [heq, mt fileName_injective heq]
  named name hname := by
    rw [← SortedMap.contains_iff, SortedMap.contains_insert] at hname
    by_cases heq : fileName id = name
    · exact ⟨id, heq.symm⟩
    · exact h.named name (SortedMap.contains_iff.mp (by simpa [heq] using hname))
  keys id' n' hget := by
    rw [SortedMap.get?_insert] at hget
    split at hget
    · next heq =>
      cases hget
      exact ⟨heq ▸ hkey, hn⟩
    · exact h.keys id' n' hget

theorem erase (h : Holds accepts files shelf) (id : String) :
    Holds accepts (files.erase (fileName id)) (shelf.erase id) where
  text id' := by
    rw [SortedMap.get?_erase, SortedMap.get?_erase, h.text]
    by_cases heq : id = id'
    · simp [heq]
    · simp [heq, mt fileName_injective heq]
  named name hname := h.named name (SortedMap.mem_keys_erase.mp hname).1
  keys id' n' hget := by
    rw [SortedMap.get?_erase] at hget
    split at hget
    · cases hget
    · exact h.keys id' n' hget

end Holds

/-! ## Serving requests -/

section

variable {store : Store} {h : Host σ} {accepts : String → Prop} {files : σ → SortedMap Bytes}
  {s : σ} {shelf : Shelf}

theorem portable_stamp {n : Notebook} (hn : n.Portable) (id : String) (now : Instant) :
    (stamp id now n).Portable := hn

theorem readDocument_of_get? (hkeeps : h.Keeps store.directory accepts files)
    (hholds : Holds accepts (files s) shelf) {id : String} {n : Notebook}
    (hget : shelf.get? id = some n) :
    readDocument h (store.directory ++ fileName id) s = .ok n.toDocument := by
  obtain ⟨hkey, hn⟩ := hholds.keys id n hget
  have hfile := hkeeps.readFile s hkey.accepted (by rw [hholds.text, hget, Option.map_some])
  have hdocument := Notebook.ofText?_toText_toDocument hn
  exact readDocument_of_readText (Host.readText_of_readFile hfile) hdocument rfl

theorem summary?_of_mem (hkeeps : h.Keeps store.directory accepts files)
    (hholds : Holds accepts (files s) shelf) {entry : String × Notebook}
    (hentry : entry ∈ shelf.toList) :
    store.summary? h s (fileName entry.1) = some (Shelf.summary entry) := by
  have hget := SortedMap.get?_eq_some_iff.mpr hentry
  obtain ⟨hne, hname⟩ := isFileName (hholds.keys _ _ hget).1.valid
  have hstem := Path.stem?_append hname hne (by decide) store.directory
  have hextension := Path.extension?_append hname hne (by decide) store.directory
  have hread := readDocument_of_get? hkeeps hholds hget
  rw [fileName] at hread
  simp only [summary?, fileName, hstem, hextension, hread]
  rfl

/-- A save writes the document of the stamped notebook. -/
theorem save_of_keeps (hkeeps : h.Keeps store.directory accepts files) {id : String}
    (hkey : IsKey accepts id) (n : Notebook) (s : σ) : ∃ s', store.save h id n s =
      ((.ok (store.directory ++ fileName id), stamp id (h.now s).1 n), s') ∧
      files s' = (files s).insert (fileName id)
        (Utf8.encode (stamp id (h.now s).1 n).toDocument.toText) := by
  obtain ⟨s', hwrite, hfiles⟩ := hkeeps.writeFile
    (Utf8.encode (stamp id (h.now s).1 n).toDocument.toText) (h.now s).2 hkey.accepted
  refine ⟨s', ?_, by rw [hfiles, hkeeps.now]⟩
  simp [save, path_eq store hkey.valid, writeDocument, hwrite, Except.mapError, Except.map]

theorem erase_of_missing {α : Type} {m : SortedMap α} {key : String} (h : m.contains key = false) :
    m.erase key = m := by
  have hnone : m.get? key = none := by simpa [SortedMap.contains] using h
  refine SortedMap.ext_get? fun other => ?_
  rw [SortedMap.get?_erase]
  split
  · next heq => rw [← heq, hnone]
  · rfl

/-- A deletion leaves no file of the notebook, whether there was one or not. -/
theorem delete_of_keeps (hkeeps : h.Keeps store.directory accepts files) {id : String}
    (hkey : IsKey accepts id) (s : σ) : ∃ s',
      store.delete h id s = (.ok ((files s).contains (fileName id)), s') ∧
      files s' = (files s).erase (fileName id) := by
  cases hfound : (files s).contains (fileName id) with
  | true =>
    obtain ⟨s', hremove, hfiles⟩ := hkeeps.removeFile s hkey.accepted hfound
    exact ⟨s', by simp [delete, path_eq store hkey.valid, hremove], hfiles⟩
  | false =>
    obtain ⟨s', hremove, hfiles⟩ := hkeeps.removeFile_missing s hkey.accepted hfound
    exact ⟨s', by simp [delete, path_eq store hkey.valid, hremove],
      by rw [hfiles, erase_of_missing hfound]⟩

theorem save_of_holds (hkeeps : h.Keeps store.directory accepts files)
    (hholds : Holds accepts (files s) shelf) {id : String} (hkey : IsKey accepts id)
    (n : Notebook) : ∃ s', store.save h id n s =
      ((.ok (store.directory ++ fileName id), stamp id (h.now s).1 n), s') ∧
      (n.Portable → Holds accepts (files s') (shelf.insert id (stamp id (h.now s).1 n))) := by
  obtain ⟨s', hsave, hfiles⟩ := save_of_keeps hkeeps hkey n s
  refine ⟨s', hsave, fun hn => ?_⟩
  rw [hfiles]
  exact hholds.insert hkey (portable_stamp hn id _)

theorem load_of_holds (hkeeps : h.Keeps store.directory accepts files)
    (hholds : Holds accepts (files s) shelf) {id : String} (hkey : IsKey accepts id) :
    store.load h id s =
      .ok ((shelf.get? id).map fun n => Notebook.ofDocument id n.toDocument) := by
  have hexists := hkeeps.fileExists s hkey.accepted
  rw [hholds.contains, SortedMap.contains] at hexists
  simp only [load, path_eq store hkey.valid, bind, Except.bind, hexists]
  cases hget : shelf.get? id with
  | none => rfl
  | some n => simp [readDocument_of_get? hkeeps hholds hget]

theorem delete_of_holds (hkeeps : h.Keeps store.directory accepts files)
    (hholds : Holds accepts (files s) shelf) {id : String} (hkey : IsKey accepts id) :
    ∃ s', store.delete h id s = (.ok (shelf.contains id), s') ∧
      Holds accepts (files s') (shelf.erase id) := by
  obtain ⟨s', hdelete, hfiles⟩ := delete_of_keeps hkeeps hkey s
  refine ⟨s', by rw [hdelete, hholds.contains], ?_⟩
  rw [hfiles]
  exact hholds.erase id

theorem list_of_holds (hkeeps : h.Keeps store.directory accepts files)
    (hholds : Holds accepts (files s) shelf) :
    ∃ listed, store.list h s = .ok listed ∧ listed.Perm (shelf.toList.map Shelf.summary) := by
  obtain ⟨entries, hentries, hperm⟩ := hkeeps.readDirectory s
  have hfound : entries.filterMap (fun e => store.summary? h s e.name) =
      (entries.map DirectoryEntry.name).filterMap (store.summary? h s) := by
    rw [List.filterMap_map]
    rfl
  have hsummaries : (shelf.keys.map fileName).filterMap (store.summary? h s) =
      shelf.toList.map Shelf.summary := by
    rw [SortedMap.keys, List.map_map, List.filterMap_map, ← List.filterMap_eq_map]
    exact List.filterMap_congr fun entry hentry => summary?_of_mem hkeeps hholds hentry
  refine ⟨_, by rw [list, hentries], (List.mergeSort_perm _ _).trans ?_⟩
  rw [hfound, ← hsummaries]
  exact (hperm.trans hholds.keys_perm).filterMap _

/-- One request changes the directory as it changes the shelf. -/
theorem holds_serve (hkeeps : h.Keeps store.directory accepts files)
    (hholds : Holds accepts (files s) shelf) {r : Request} (hr : r.Admissible accepts) :
    Holds accepts (files (store.serve h r s).2) (shelf.after (h.now s).1 r) := by
  cases r with
  | save id n =>
    obtain ⟨s', hsave, hnext⟩ := save_of_holds hkeeps hholds hr.1 n
    simp only [serve, hsave]
    exact hnext hr.2
  | load id => exact hholds
  | delete id =>
    obtain ⟨s', hdelete, hnext⟩ := delete_of_holds hkeeps hholds hr
    simp only [serve, hdelete]
    exact hnext
  | list => exact hholds

/-- The answers can be read off the shelf. -/
theorem Holds.mirrors (hkeeps : h.Keeps store.directory accepts files)
    (hholds : Holds accepts (files s) shelf) : store.Mirrors h accepts s shelf where
  load id hkey := load_of_holds hkeeps hholds hkey
  save id n hkey := by
    obtain ⟨s', hsave, -⟩ := save_of_holds hkeeps hholds hkey n
    rw [hsave]
  delete id hkey := by
    obtain ⟨s', hdelete, -⟩ := delete_of_holds hkeeps hholds hkey
    rw [hdelete]
  list := list_of_holds hkeeps hholds

/-! ## Runs -/

theorem follow_concat (store : Store) (h : Host σ) (requests : List Request) (r : Request)
    (start : σ) : store.follow h (requests ++ [r]) start =
      ((store.serve h r (store.follow h requests start).1).2,
        (store.follow h requests start).2.after (h.now (store.follow h requests start).1).1 r) := by
  rw [follow, List.foldl_append]
  rfl

/-- The directory holds what is on the shelf at all times. -/
theorem holds_follow (hkeeps : h.Keeps store.directory accepts files) {start : σ}
    (hempty : files start = ∅) {requests : List Request}
    (hrequests : ∀ r ∈ requests, r.Admissible accepts) :
    Holds accepts (files (store.follow h requests start).1) (store.follow h requests start).2 := by
  induction requests using List.reverseRecOn with
  | nil =>
    change Holds accepts (files start) ∅
    rw [hempty]
    exact Holds.empty
  | append_singleton requests r ih =>
    rw [follow_concat]
    simp only [List.forall_mem_append, List.forall_mem_singleton] at hrequests
    exact holds_serve hkeeps (ih hrequests.1) hrequests.2

theorem Shelf.get?_after_of_not_changes {r : Request} {id : String} (hr : ¬r.Changes id)
    (shelf : Shelf) (now : Instant) : (shelf.after now r).get? id = shelf.get? id := by
  cases r with
  | save id' n => exact (SortedMap.get?_insert ..).trans (if_neg hr)
  | delete id' => exact (SortedMap.get?_erase ..).trans (if_neg hr)
  | load id' => rfl
  | list => rfl

theorem lastSaved_concat_of_changes {requests : List Request} {start : σ} {r : Request}
    {id : String} {m : Notebook} (hr : r.Changes id) :
    store.LastSaved h (requests ++ [r]) start id m ↔
      ∃ n, r = .save id n ∧ m = stamp id (h.now (store.follow h requests start).1).1 n := by
  constructor
  · rintro ⟨before, n, later, hsplit, hlater, rfl⟩
    rcases List.eq_nil_or_concat later with rfl | ⟨front, last, rfl⟩
    · obtain ⟨rfl, hlast⟩ := List.append_inj' hsplit rfl
      exact ⟨n, by simpa using hlast, rfl⟩
    · rw [List.concat_eq_append, ← List.cons_append, ← List.append_assoc] at hsplit
      obtain ⟨-, hlast⟩ := List.append_inj' hsplit rfl
      rw [List.singleton_inj] at hlast
      exact absurd (hlast ▸ hr) (hlater last (by simp))
  · rintro ⟨n, rfl, rfl⟩
    exact ⟨requests, n, [], rfl, List.forall_mem_nil _, rfl⟩

theorem lastSaved_concat_of_not_changes {requests : List Request} {start : σ} {r : Request}
    {id : String} {m : Notebook} (hr : ¬r.Changes id) :
    store.LastSaved h (requests ++ [r]) start id m ↔ store.LastSaved h requests start id m := by
  constructor
  · rintro ⟨before, n, later, hsplit, hlater, rfl⟩
    rcases List.eq_nil_or_concat later with rfl | ⟨front, last, rfl⟩
    · obtain ⟨-, hlast⟩ := List.append_inj' hsplit rfl
      rw [List.singleton_inj] at hlast
      exact absurd rfl (hlast ▸ hr)
    · rw [List.concat_eq_append, ← List.cons_append, ← List.append_assoc] at hsplit
      obtain ⟨rfl, -⟩ := List.append_inj' hsplit rfl
      exact ⟨before, n, front, rfl, fun x hx => hlater x (by simp [hx]), rfl⟩
  · rintro ⟨before, n, later, rfl, hlater, rfl⟩
    refine ⟨before, n, later ++ [r], by simp, ?_, rfl⟩
    rw [List.forall_mem_append, List.forall_mem_singleton]
    exact ⟨hlater, hr⟩

/-- On the shelf there is what was saved last. -/
theorem get?_follow_iff (requests : List Request) (start : σ) (id : String) (m : Notebook) :
    (store.follow h requests start).2.get? id = some m ↔
      store.LastSaved h requests start id m := by
  induction requests using List.reverseRecOn with
  | nil =>
    refine iff_of_false (by rintro ⟨⟩) ?_
    rintro ⟨before, n, later, hsplit, -⟩
    simp at hsplit
  | append_singleton requests r ih =>
    rw [follow_concat]
    by_cases hr : r.Changes id
    · rw [lastSaved_concat_of_changes hr]
      cases r with
      | save id' n =>
        cases hr
        simp [Shelf.after, SortedMap.get?_insert, eq_comm]
      | delete id' =>
        cases hr
        simp [Shelf.after, SortedMap.get?_erase]
      | load id' => exact hr.elim
      | list => exact hr.elim
    · rw [lastSaved_concat_of_not_changes hr, Shelf.get?_after_of_not_changes hr, ih]

/-- A request is answered alike over two shelves that agree on its identifier. -/
theorem Mirrors.serve_eq {s' : σ} {shelf' : Shelf} (hs : store.Mirrors h accepts s shelf)
    (hs' : store.Mirrors h accepts s' shelf') {r : Request} {id : String} (hid : r.id? = some id)
    (hr : r.Admissible accepts) (hget : shelf.get? id = shelf'.get? id) :
    (store.serve h r s).1 = (store.serve h r s').1 := by
  cases r with
  | save id' n =>
    have hresult := congrArg Prod.fst (hs.save id' n hr.1)
    have hresult' := congrArg Prod.fst (hs'.save id' n hr.1)
    simp only [serve, hresult, hresult']
  | load id' =>
    cases hid
    simp only [serve, hs.load _ hr, hs'.load _ hr, hget]
  | delete id' =>
    cases hid
    simp only [serve, hs.delete _ hr, hs'.delete _ hr, SortedMap.contains, hget]
  | list => cases hid

/-- After any requests to a store that began with an empty directory, all operations answer as the
shelf says, which has what was saved last; and no request has an influence on what is answered about
an identifier that it does not change. -/
theorem mirrors_follow (hkeeps : h.Keeps store.directory accepts files) (start : σ)
    (hempty : files start = ∅) (requests : List Request)
    (hrequests : ∀ r ∈ requests, r.Admissible accepts) :
    let reached := (store.follow h requests start).1
    let shelf := (store.follow h requests start).2
    store.Mirrors h accepts reached shelf ∧
      (∀ id n, shelf.get? id = some n ↔ store.LastSaved h requests start id n) ∧
      ∀ (r r' : Request) (id : String), r.Admissible accepts → r'.Admissible accepts →
        r'.id? = some id → ¬r.Changes id →
        (store.serve h r' (store.serve h r reached).2).1 = (store.serve h r' reached).1 := by
  have hholds := holds_follow hkeeps hempty hrequests
  refine ⟨hholds.mirrors hkeeps, get?_follow_iff requests start, fun r r' id hr hr' hid hother => ?_⟩
  have hnext := holds_serve hkeeps hholds hr
  exact (hnext.mirrors hkeeps).serve_eq (hholds.mirrors hkeeps) hid hr'
    (Shelf.get?_after_of_not_changes hother _ _)

end

/-- A notebook with a result that has numbers in an array. -/
def measured : Notebook :=
  let data : MimeBundle := SortedMap.ofList [("application/json", .array [.ofInt 3, .ofInt (-4)])]
  { Notebook.empty "" "Results" with
    cells := [{ Cell.code "a" "measure()" with output := some ⟨.plot, "[3, -4]", some data⟩ }] }

theorem portable_measured : measured.Portable := by
  intro c hc o ho
  obtain rfl := List.mem_singleton.mp hc
  cases ho
  exact ⟨List.forall_mem_singleton.mpr ⟨trivial, trivial, trivial⟩,
    List.forall_mem_singleton.mpr ⟨⟨by decide, by decide⟩, ⟨by decide, by decide⟩, trivial⟩,
    List.forall_mem_singleton.mpr (by decide)⟩

/-- In a directory in memory, a notebook that was saved under a name with a dot is loaded again after
another one came and went, which is not. -/
theorem mirrors_follow_in_memory :
    let store : Store := ⟨⟨"/notebooks"⟩⟩
    let h := Host.ofFiles store.directory
    let requests : List Request := [.save "a.b" measured, .save "c" measured, .delete "c"]
    let reached := (store.follow h requests (∅, 0)).1
    h.Keeps store.directory Path.IsFileName Prod.fst ∧
      (∀ r ∈ requests, r.Admissible Path.IsFileName) ∧
      store.load h "a.b" reached = .ok (some
        (Notebook.ofDocument "a.b" (stamp "a.b" ⟨0, 0⟩ measured).toDocument)) ∧
      store.load h "c" reached = .ok none := by
  intro store h requests reached
  have hkey (id : String) (hid : isValidId id = true) : IsKey Path.IsFileName id :=
    ⟨hid, (isFileName hid).2⟩
  have hrequests : ∀ r ∈ requests, r.Admissible Path.IsFileName := by
    simp only [requests, List.forall_mem_cons]
    exact ⟨⟨hkey _ (by decide), portable_measured⟩, ⟨hkey _ (by decide), portable_measured⟩,
      hkey _ (by decide), List.forall_mem_nil _⟩
  have hkeeps := Host.keeps_ofFiles store.directory
  obtain ⟨hmirrors, hsaved, -⟩ := mirrors_follow hkeeps (∅, 0) rfl requests hrequests
  have hfirst := (hsaved "a.b" _).mpr ⟨[], measured, [.save "c" measured, .delete "c"], rfl,
    by simp [Request.Changes], rfl⟩
  have hsecond : (store.follow h requests (∅, 0)).2.get? "c" = none := by
    simp [follow, requests, Shelf.after, SortedMap.get?_erase]
  have hload := hmirrors.load "a.b" (hkey _ (by decide))
  have hload' := hmirrors.load "c" (hkey _ (by decide))
  rw [hfirst, Option.map_some] at hload
  rw [hsecond, Option.map_none] at hload'
  exact ⟨hkeeps, hrequests, hload, hload'⟩

end Store

end NotebookKernel
