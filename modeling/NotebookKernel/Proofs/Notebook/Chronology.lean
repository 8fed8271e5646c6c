import NotebookKernel.Proofs.Notebook.Listing
import NotebookKernel.Proofs.Time.Stamps

/-!
# The listing is in chronological order

While notebooks are saved and deleted, every file of a saved notebook has the time stamp of its last
save (`Store.Stamped`), whatever other files the directory began with and wherever the clock is set in
between. As time stamps are ordered like moments, the listing is in the order of the last saves
(`Store.list_chronological`).
-/

namespace NotebookKernel

namespace Store

variable {σ : Type}

/-- The notebook with the identifier was saved for the last time at the moment, and was not deleted
since. -/
def LastSavedAt (store : Store) (h : Host σ) (requests : List Request) (start : σ) (id : String)
    (i : Instant) : Prop :=
  ∃ before n later, requests = before ++ .save id n :: later ∧ (∀ r ∈ later, ¬r.Changes id) ∧
    i = (h.now (store.follow h before start).1).1

/-- Every notebook is saved at a moment that has a time stamp. -/
def SavesAtProper (store : Store) (h : Host σ) (requests : List Request) (start : σ) : Prop :=
  ∀ before id n later, requests = before ++ .save id n :: later →
    (h.now (store.follow h before start).1).1.Proper

/-- The directory has the documents of the notebooks on the shelf, and maybe other files. -/
structure Stocks (accepts : String → Prop) (files : SortedMap Bytes) (shelf : Shelf) : Prop where
  text : ∀ id n, shelf.get? id = some n →
    files.get? (fileName id) = some (Utf8.encode n.toDocument.toText)
  named : Named accepts files

/-- The listing is in chronological order. -/
structure IsChronological (store : Store) (h : Host σ) (accepts : String → Prop)
    (requests : List Request) (start : σ) (listed : List NotebookSummary) : Prop where
  /-- Every notebook shows the time stamp of its last save. -/
  stamped : ∀ x ∈ listed, ∀ i, store.LastSavedAt h requests start x.id i →
    x.modified = some i.timestamp
  /-- Every notebook that can be loaded is listed. -/
  loadable : ∀ id n, IsKey accepts id →
    store.load h id (store.follow h requests start).1 = .ok (some n) →
    ∃ x ∈ listed, x.id = id ∧ x.modified = n.modified
  /-- Every portable notebook that was saved and not deleted is listed. -/
  saved : ∀ id n, store.LastSaved h requests start id n → n.Portable → ∃ x ∈ listed, x.id = id
  nodup : (listed.map NotebookSummary.id).Nodup
  /-- The notebook that was saved last comes first. -/
  ordered : listed.Pairwise fun x y => ∀ i j, store.LastSavedAt h requests start x.id i →
    store.LastSavedAt h requests start y.id j → j.nanoseconds ≤ i.nanoseconds
  /-- Notebooks without a time stamp come last. -/
  unstamped : listed.Pairwise fun x y => x.modified = none → y.modified = none

section

variable {store : Store} {h : Host σ} {accepts : String → Prop} {files : σ → SortedMap Bytes}
  {s : σ} {shelf : Shelf}

theorem LastSavedAt.exists_lastSaved {requests : List Request} {start : σ} {id : String} {i : Instant}
    (hsaved : store.LastSavedAt h requests start id i) :
    ∃ n, store.LastSaved h requests start id (stamp id i n) := by
  obtain ⟨before, n, later, hsplit, hlater, rfl⟩ := hsaved
  exact ⟨n, before, n, later, hsplit, hlater, rfl⟩

theorem LastSavedAt.proper {requests : List Request} {start : σ} {id : String} {i : Instant}
    (hsaved : store.LastSavedAt h requests start id i)
    (hclock : store.SavesAtProper h requests start) : i.Proper := by
  obtain ⟨before, n, later, hsplit, -, rfl⟩ := hsaved
  exact hclock before id n later hsplit

/-! ## Files keep the time stamps -/

namespace Stocks

variable {content : SortedMap Bytes}

theorem insert (hstocks : Stocks accepts content shelf) {id : String} (hkey : IsKey accepts id)
    (n : Notebook) : Stocks accepts
      (content.insert (fileName id) (Utf8.encode n.toDocument.toText)) (shelf.insert id n) where
  text id' n' hget := by
    rw [SortedMap.get?_insert] at hget ⊢
    by_cases heq : id = id'
    · rw [if_pos heq] at hget
      cases hget
      rw [if_pos (by rw [heq])]
    · rw [if_neg heq] at hget
      rw [if_neg (mt fileName_injective heq), hstocks.text id' n' hget]
  named := hstocks.named.insert hkey _

theorem erase (hstocks : Stocks accepts content shelf) (id : String) :
    Stocks accepts (content.erase (fileName id)) (shelf.erase id) where
  text id' n' hget := by
    rw [SortedMap.get?_erase] at hget ⊢
    by_cases heq : id = id'
    · rw [if_pos heq] at hget
      cases hget
    · rw [if_neg heq] at hget
      rw [if_neg (mt fileName_injective heq), hstocks.text id' n' hget]
  named := hstocks.named.erase _

end Stocks

/-- One request changes the files as it changes the shelf. -/
theorem stocks_serve (hkeeps : h.Keeps store.directory accepts files)
    (hstocks : Stocks accepts (files s) shelf) {r : Request}
    (hr : ∀ id, r.id? = some id → IsKey accepts id) :
    Stocks accepts (files (store.serve h r s).2) (shelf.after (h.now s).1 r) := by
  cases r with
  | save id n =>
    obtain ⟨s', hsave, hfiles⟩ := save_of_keeps hkeeps (hr id rfl) n s
    simp only [serve, hsave, hfiles]
    exact hstocks.insert (hr id rfl) _
  | load id => exact hstocks
  | delete id =>
    obtain ⟨s', hdelete, hfiles⟩ := delete_of_keeps hkeeps (hr id rfl) s
    simp only [serve, hdelete, hfiles]
    exact hstocks.erase id
  | list => exact hstocks

/-- The directory has the documents of what is on the shelf at all times. -/
theorem stocks_follow (hkeeps : h.Keeps store.directory accepts files) {start : σ}
    (hnamed : Named accepts (files start)) {requests : List Request}
    (hrequests : ∀ r ∈ requests, ∀ id, r.id? = some id → IsKey accepts id) :
    Stocks accepts (files (store.follow h requests start).1) (store.follow h requests start).2 := by
  induction requests using List.reverseRecOn with
  | nil => exact ⟨by rintro _ _ ⟨⟩, hnamed⟩
  | append_singleton requests r ih =>
    rw [follow_concat]
    simp only [List.forall_mem_append, List.forall_mem_singleton] at hrequests
    exact stocks_serve hkeeps (ih hrequests.1) hrequests.2

/-! ## The order of the last saves -/

/-- A listed notebook shows the time stamp of its last save. -/
theorem modified_of_lists (hstocks : Stocks accepts (files s) shelf) {x : NotebookSummary}
    (hx : Lists (files s) x) {n : Notebook} (hget : shelf.get? x.id = some n) :
    x.modified = n.modified := by
  obtain ⟨-, bytes, d, hbytes, hdocument, heq⟩ := hx
  rw [hstocks.text x.id n hget, Option.some_inj] at hbytes
  rw [← hbytes, documentOf?, Utf8.decode?_encode, Option.bind_eq_bind, Option.bind_some] at hdocument
  obtain ⟨read, hread, hformat⟩ := Option.bind_eq_some_iff.mp hdocument
  obtain ⟨-, hd⟩ := Option.ite_none_right_eq_some.mp hformat
  cases hd
  rw [heq]
  exact congrArg DocumentMetadata.modified (Notebook.metadata_of_ofText?_toText hread)

theorem lists_of_portable (hstocks : Stocks accepts (files s) shelf) {id : String} {n : Notebook}
    (hne : id ≠ "") (hget : shelf.get? id = some n) (hn : n.Portable) :
    Lists (files s) (n.toDocument.summary id) :=
  ⟨hne, _, _, hstocks.text id n hget, documentOf?_encode hn, rfl⟩

/-- Whatever files there are at the start, and wherever the clock is set while notebooks are saved and
deleted, the listing is in chronological order. -/
theorem list_chronological (hkeeps : h.Keeps store.directory accepts files) (start : σ)
    (hnamed : Named accepts (files start)) (requests : List Request)
    (hrequests : ∀ r ∈ requests, ∀ id, r.id? = some id → IsKey accepts id)
    (hclock : store.SavesAtProper h requests start) :
    ∃ listed, store.list h (store.follow h requests start).1 = .ok listed ∧
      store.IsChronological h accepts requests start listed := by
  have hstocks := stocks_follow hkeeps hnamed hrequests
  obtain ⟨listed, hlist, hids, hmem⟩ := exists_list hkeeps hstocks.named
  have hstamp : ∀ x ∈ listed, ∀ i, store.LastSavedAt h requests start x.id i →
      x.modified = some i.timestamp := by
    intro x hx i hsaved
    obtain ⟨n, hsaved⟩ := hsaved.exists_lastSaved
    have hget := (get?_follow_iff requests start x.id _).mpr hsaved
    rw [modified_of_lists hstocks ((hmem x).mp hx) hget]
    rfl
  refine ⟨listed, hlist, hstamp, fun id n hkey hload => ?_, fun id n hsaved hn => ?_, hids, ?_, ?_⟩
  · obtain ⟨x, hx, hid, hmodified⟩ := exists_lists_of_load hkeeps hkey hload
    exact ⟨x, (hmem x).mpr hx, hid, hmodified⟩
  · have hget := (get?_follow_iff requests start id n).mpr hsaved
    obtain ⟨before, m, later, hsplit, -⟩ := hsaved
    have hkey := hrequests (.save id m) (by simp [hsplit]) id rfl
    exact ⟨_, (hmem _).mpr (lists_of_portable hstocks (isFileName hkey.valid).1 hget hn), rfl⟩
  · refine (pairwise_list hlist).imp_of_mem fun {x y} hx hy hbefore i j hi hj => ?_
    obtain ⟨stamp, hstamp', hle⟩ := listedBefore_iff.mp hbefore _ (hstamp y hy j hj)
    rw [hstamp x hx i hi, Option.some_inj] at hstamp'
    rw [← hstamp'] at hle
    exact (Instant.timestamp_le_iff (hj.proper hclock) (hi.proper hclock)).mp hle
  · refine (pairwise_list hlist).imp fun {x y} hbefore hnone => ?_
    refine Option.eq_none_iff_forall_ne_some.mpr fun stamp hstamp => ?_
    obtain ⟨earlier, hearlier, -⟩ := listedBefore_iff.mp hbefore stamp hstamp
    rw [hnone] at hearlier
    cases hearlier

end

/-- A machine with the files of one directory that is told what its clock shows. -/
def clocked (directory : Path) (clock : Nat → Instant) : Host (SortedMap Bytes × Nat) :=
  { Host.ofFiles directory with now s := (clock s.2, s.1, s.2 + 1) }

theorem keeps_clocked (directory : Path) (clock : Nat → Instant) :
    (clocked directory clock).Keeps directory Path.IsFileName Prod.fst :=
  { Host.keeps_ofFiles directory with now := fun _ => rfl }

theorem snd_serve_save (directory : Path) (clock : Nat → Instant) {id : String}
    (hid : isValidId id = true) (n : Notebook) (s : SortedMap Bytes × Nat) :
    (serve ⟨directory⟩ (clocked directory clock) (.save id n) s).2.2 = s.2 + 1 := by
  simp [serve, save, path_eq _ hid, writeDocument, clocked, Host.ofFiles,
    Host.entryName?_append directory (isFileName hid).2]

/-- Three notebooks are saved within a second, with stamps of three lengths, and the clock is set back
before the second one. A file with a name that no notebook is saved under is there from the start. -/
theorem list_chronological_within_a_second :
    let store : Store := ⟨⟨"/notebooks"⟩⟩
    let clock (n : Nat) : Instant := ⟨10, [500000000, 0, 500001000].getD n 0⟩
    let h := clocked store.directory clock
    let start : SortedMap Bytes × Nat := (dottedFiles, 0)
    let requests : List Request := [.save "b" measured, .save "c" measured, .save "d" measured]
    h.Keeps store.directory Path.IsFileName Prod.fst ∧ Named Path.IsFileName dottedFiles ∧
      (∀ r ∈ requests, ∀ id, r.id? = some id → IsKey Path.IsFileName id) ∧
      store.SavesAtProper h requests start ∧
      store.LastSavedAt h requests start "b" ⟨10, 500000000⟩ ∧
      store.LastSavedAt h requests start "c" ⟨10, 0⟩ ∧
      store.LastSavedAt h requests start "d" ⟨10, 500001000⟩ ∧
      ∃ listed, store.list h (store.follow h requests start).1 = .ok listed ∧
        store.IsChronological h Path.IsFileName requests start listed := by
  intro store clock h start requests
  have hkeeps : h.Keeps store.directory Path.IsFileName Prod.fst := keeps_clocked _ _
  have hkey (id : String) (hid : isValidId id = true) : IsKey Path.IsFileName id :=
    ⟨hid, (isFileName hid).2⟩
  have hrequests : ∀ r ∈ requests, ∀ id, r.id? = some id → IsKey Path.IsFileName id := by
    simp only [requests, List.forall_mem_cons, Request.id?, Option.some.injEq, forall_eq']
    exact ⟨hkey _ (by decide), hkey _ (by decide), hkey _ (by decide), List.forall_mem_nil _⟩
  have hclock : store.SavesAtProper h requests start := by
    intro before id n later _
    have hnanos : ∀ n, (clock n).nanos < 1000000000
      | 0 | 1 | 2 => by decide
      | n + 3 => by simp [clock]
    exact ⟨show 0 ≤ (Instant.dateOfDays 0).year by decide,
      show (Instant.dateOfDays 0).year ≤ 9999 by decide, hnanos _⟩
  have hmoment (s : SortedMap Bytes × Nat) : (h.now s).1 = clock s.2 := rfl
  have htick (id : String) (hid : isValidId id = true) (s : SortedMap Bytes × Nat) :
      (store.serve h (.save id measured) s).2.2 = s.2 + 1 := snd_serve_save _ _ hid _ _
  refine ⟨hkeeps, named_dottedFiles, hrequests, hclock,
    ⟨[], measured, _, rfl, by simp [Request.Changes], rfl⟩,
    ⟨[.save "b" measured], measured, _, rfl, by simp [Request.Changes], ?_⟩,
    ⟨[.save "b" measured, .save "c" measured], measured, _, rfl, by simp, ?_⟩,
    list_chronological hkeeps start named_dottedFiles requests hrequests hclock⟩
  · simp [follow, hmoment, htick "b" (by decide), start, clock]
  · simp [follow, hmoment, htick "b" (by decide), htick "c" (by decide), start, clock]

end Store

end NotebookKernel
