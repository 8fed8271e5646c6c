import NotebookKernel.Proofs.Notebook.Shelf

/-!
# Saves that fail

An identifier that is refused is refused before anything is done. A file that cannot be written is found
out too late: the notebook is stamped by then, and the file may have been emptied
(`Store.interrupted_of_save_error`).
-/

namespace NotebookKernel

namespace Store

variable {σ ι : Type}

/-- What is left of a save that could not write its file. The notebook has the identifier and the time
stamps of the save; the file is as it was, or has a beginning of the document; all other files are as
they were. -/
structure Interrupted (store : Store) (h : Host σ) (place : σ → String → ι)
    (content : σ → ι → Option Bytes) (id : String) (n : Notebook) (s : σ) (e : StoreError)
    (n' : Notebook) (s' : σ) : Prop where
  error : ∃ reason, e = .write (store.directory ++ fileName id) reason
  identifier : n'.id = id
  created : n'.created = n.created.or (some (h.now s).1.timestamp)
  modified : n'.modified = some (h.now s).1.timestamp
  title : n'.title = n.title
  cells : n'.cells = n.cells
  places : place s' = place s
  file : content s' (place s (fileName id)) = content s (place s (fileName id)) ∨
    ∃ written, written <+: Utf8.encode n'.toDocument.toText ∧
      content s' (place s (fileName id)) = some written
  others : ∀ p, p ≠ place s (fileName id) → content s' p = content s p

section

variable {store : Store} {h : Host σ} {place : σ → String → ι} {content : σ → ι → Option Bytes}
  {id : String} {n n' : Notebook} {s s' : σ} {e : StoreError}

/-- A save fails where its document cannot be written, and the notebook is stamped nevertheless. -/
theorem exists_write_of_save_error (hvalid : isValidId id = true)
    (hsave : store.save h id n s = ((.error e, n'), s')) :
    n' = stamp id (h.now s).1 n ∧ ∃ reason, e = .write (store.directory ++ fileName id) reason ∧
      h.writeFile (store.directory ++ fileName id) (Utf8.encode n'.toDocument.toText) (h.now s).2 =
        (.error reason, s') := by
  rcases hwrite : h.writeFile (store.directory ++ fileName id)
    (Utf8.encode (stamp id (h.now s).1 n).toDocument.toText) (h.now s).2 with ⟨result, after⟩
  simp only [save, path_eq store hvalid, writeDocument, hwrite] at hsave
  cases result with
  | ok => cases hsave
  | error reason =>
    cases hsave
    exact ⟨rfl, reason, rfl, hwrite⟩

/-- A save that fails because of the identifier changes nothing at all. One that fails later leaves the
notebook stamped and no file changed but its own. -/
theorem interrupted_of_save_error (hfails : h.FailsInPlace store.directory place content)
    (hsave : store.save h id n s = ((.error e, n'), s')) :
    (isValidId id = false → e = .invalidId id ∧ n' = n ∧ s' = s) ∧
      (isValidId id = true → store.Interrupted h place content id n s e n' s') := by
  constructor
  · intro hinvalid
    have hpath : store.path id = .error (.invalidId id) := if_neg (by simp [hinvalid])
    simp only [save, hpath] at hsave
    cases hsave
    exact ⟨rfl, rfl, rfl⟩
  · intro hvalid
    obtain ⟨rfl, reason, herror, hwrite⟩ := exists_write_of_save_error hvalid hsave
    have hname := (isFileName hvalid).2
    have hfile := hfails.content_self hname hwrite
    rw [hfails.place_now, hfails.content_now] at hfile
    refine ⟨⟨reason, herror⟩, rfl, rfl, rfl, rfl, rfl, ?_, hfile, fun p hne => ?_⟩
    · rw [hfails.place_eq hname hwrite, hfails.place_now]
    · rw [hfails.content_of_ne hname hwrite (by rwa [hfails.place_now]), hfails.content_now]

end

/-! ## A directory without room -/

theorem encode_toText_ne_nil (d : Document) : Utf8.encode d.toText ≠ [] := by
  intro hnil
  have hdecode := Utf8.decode?_encode d.toText
  rw [hnil] at hdecode
  have hempty : "" = d.toText := Option.some.inj hdecode
  have hchars : d.toText.toList ≠ [] := by
    rw [Document.toText, Json.pretty, String.toList_ofList]
    exact List.cons_ne_nil _ _
  exact hchars (by rw [← hempty]; rfl)

/-- A save into a directory without room. -/
theorem save_cramped (store : Store) {id : String} (hvalid : isValidId id = true) (n : Notebook)
    (s : SortedMap Bytes × Nat) :
    store.save (Host.cramped store.directory 0) id n s =
      ((.error (.write (store.directory ++ fileName id) .fileTooLarge), stamp id ⟨s.2, 0⟩ n),
        s.1.insert (fileName id) [], s.2 + 1) := by
  have hlength : ¬(Utf8.encode (stamp id ⟨s.2, 0⟩ n).toDocument.toText).length ≤ 0 := by
    rw [Nat.le_zero, List.length_eq_zero_iff]
    exact encode_toText_ne_nil _
  have hnow : (Host.cramped store.directory 0).now s = (⟨s.2, 0⟩, s.1, s.2 + 1) := rfl
  simp only [save, path_eq store hvalid, writeDocument, hnow,
    Host.writeFile_cramped store.directory 0 (isFileName hvalid).2, if_neg hlength, List.take_zero]
  rfl

/-- The file of a notebook, alone in its directory. -/
def soleFile : SortedMap Bytes :=
  (∅ : SortedMap Bytes).insert (fileName "a") (Utf8.encode measured.toDocument.toText)

/-- A notebook that could not be saved has another identifier and other time stamps than before, and
the document that was stored is lost. -/
theorem not_unchanged_of_save_error :
    let store : Store := ⟨⟨"/notebooks"⟩⟩
    ∃ e n' s', store.save (Host.cramped store.directory 0) "a" measured (soleFile, 0) =
        ((.error e, n'), s') ∧
      n'.id ≠ measured.id ∧ n'.created ≠ measured.created ∧ n'.modified ≠ measured.modified ∧
      s'.1.get? (fileName "a") ≠ soleFile.get? (fileName "a") := by
  intro store
  refine ⟨_, _, _, save_cramped store (by decide) measured _, by decide,
    by simp [stamp, measured, Notebook.empty], by simp [stamp, measured, Notebook.empty], ?_⟩
  rw [soleFile, SortedMap.get?_insert, SortedMap.get?_insert, if_pos rfl, if_pos rfl]
  exact fun heq => encode_toText_ne_nil _ (Option.some.inj heq).symm

/-- The same save, and one under an identifier that is refused. -/
theorem interrupted_of_save_error_without_room :
    let store : Store := ⟨⟨"/notebooks"⟩⟩
    let h := Host.cramped store.directory 0
    h.FailsInPlace store.directory (fun _ name => name) (fun s => s.1.get?) ∧
      (∃ e n' s', store.save h "a" measured (soleFile, 0) = ((.error e, n'), s') ∧
        store.Interrupted h (fun _ name => name) (fun s => s.1.get?) "a" measured (soleFile, 0) e n' s') ∧
      ∃ e n' s', store.save h "a/b" measured (soleFile, 0) = ((.error e, n'), s') ∧
        e = .invalidId "a/b" ∧ n' = measured ∧ s' = (soleFile, 0) := by
  intro store h
  have hfails := Host.failsInPlace_cramped store.directory 0
  have hsave := save_cramped store (show isValidId "a" = true by decide) measured (soleFile, 0)
  have hrefused : store.save h "a/b" measured (soleFile, 0) =
      ((.error (.invalidId "a/b"), measured), soleFile, 0) := rfl
  exact ⟨hfails, ⟨_, _, _, hsave, (interrupted_of_save_error hfails hsave).2 (by decide)⟩,
    _, _, _, hrefused, (interrupted_of_save_error hfails hrefused).1 (by decide)⟩

end Store

end NotebookKernel
