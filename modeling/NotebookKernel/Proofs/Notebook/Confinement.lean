import NotebookKernel.Proofs.Notebook.Shelf

/-!
# The file of a notebook is its own

An identifier is arbitrary text. Where it is not refused, the file that is made of it is an entry of the
directory of the store, is named for it, and is the file of no other identifier (`Store.IsDocument`).
Loading, saving and deleting a notebook are confined to this file, and to no file at all if the identifier is
refused (`Store.confined_to_document`).
-/

namespace NotebookKernel

namespace Store

open Host

variable {σ : Type}

/-- The identifier is empty, has a slash or a backslash, or has two dots in a row. -/
def Unfit (id : String) : Prop :=
  id = "" ∨ '/' ∈ id.toList ∨ '\\' ∈ id.toList ∨ ['.', '.'] <:+: id.toList

/-- The file is the directory of the store with one component more, which is an ordinary name. Without its
extension, this name is the identifier. -/
structure IsDocument (store : Store) (id : String) (file : Path) : Prop where
  joined : file = store.directory ++ fileName id
  components : file.components = store.directory.components ++ [.name (fileName id)]
  isFileName : Path.IsFileName (fileName id)
  no_backslash : '\\' ∉ (fileName id).toList
  extension : file.extension? = some "ipynb"
  stem : file.stem? = some id

/-! ## Identifiers and files -/

theorem isValidId_iff_not_unfit {id : String} : isValidId id = true ↔ ¬Unfit id := by
  have hslash : Text.contains "/" id = true ↔ '/' ∈ id.toList := Text.Chars.contains_singleton _ _
  have hbackslash : Text.contains "\\" id = true ↔ '\\' ∈ id.toList :=
    Text.Chars.contains_singleton _ _
  have hdots : Text.contains ".." id = true ↔ ['.', '.'] <:+: id.toList := Text.Chars.contains_iff
  rw [Unfit, ← hslash, ← hbackslash, ← hdots]
  simp [isValidId, and_assoc]

theorem isDocument_of_isValidId (store : Store) {id : String} (h : isValidId id = true) :
    store.IsDocument id (store.directory ++ fileName id) := by
  obtain ⟨hne, hname⟩ := isFileName h
  have hbackslash : '\\' ∉ id.toList := fun hmem =>
    isValidId_iff_not_unfit.mp h (.inr (.inr (.inl hmem)))
  exact {
    joined := rfl
    components := Path.components_append store.directory hname
    isFileName := hname
    no_backslash := by simpa [fileName, extension] using hbackslash
    extension := Path.extension?_append hname hne (by decide) store.directory
    stem := Path.stem?_append hname hne (by decide) store.directory }

/-- No two identifiers have the same file, also if it were written in another way, and none is refused in the
words of another. -/
theorem injective_components_path (store : Store) :
    Function.Injective fun id => (store.path id).map Path.components := by
  intro id id' heq
  dsimp only at heq
  cases h : isValidId id <;> cases h' : isValidId id'
  · simpa [path, h, h', Except.map] using heq
  · simp [path, h, h', Except.map] at heq
  · simp [path, h, h', Except.map] at heq
  · rw [path_eq store h, path_eq store h', Except.map, Except.map, Except.ok.injEq,
      (store.isDocument_of_isValidId h).components, (store.isDocument_of_isValidId h').components,
      List.append_cancel_left_eq, List.singleton_inj, Path.Component.name.injEq] at heq
    exact fileName_injective heq

/-! ## Operations on one file -/

variable (store : Store) (id : String)

theorem confinedTo_load :
    ConfinedTo (store.path id).toOption fun (h : Host σ) s => (store.load h id s, s) := by
  cases hpath : store.path id with
  | error e => exact .of_idle (.error e) fun h s => by simp only [load, hpath, bind, Except.bind]
  | ok file => exact {
      eq_only h s := by simp [load, readDocument, hpath, bind, Except.bind, Except.toOption]
      frame _ _ _ _ _ _ _ := rfl }

theorem confinedTo_save (n : Notebook) :
    ConfinedTo (store.path id).toOption fun (h : Host σ) s => store.save h id n s := by
  cases hpath : store.path id with
  | error e => exact .of_idle (.error e, n) fun h s => by simp only [save, hpath]
  | ok file => exact {
      eq_only h s := by simp [save, writeDocument, hpath, Except.toOption]
      frame h _ view hnow hwrite _ s := by
        simp only [save, writeDocument, hpath]
        rw [hwrite file rfl, hnow] }

theorem snd_delete {file : Path} (hpath : store.path id = .ok file) (h : Host σ) (s : σ) :
    (store.delete h id s).2 = (h.removeFile file s).2 := by
  simp only [delete, hpath]
  split <;> simp [*]

theorem confinedTo_delete :
    ConfinedTo (store.path id).toOption fun (h : Host σ) s => store.delete h id s := by
  cases hpath : store.path id with
  | error e => exact .of_idle (.error e) fun h s => by simp only [delete, hpath]
  | ok file => exact {
      eq_only h s := by simp [delete, hpath, Except.toOption]
      frame h _ view _ _ hremove s := by rw [store.snd_delete id hpath, hremove file rfl] }

/-- An identifier is refused, or it has a file of its own in the directory of the store. Whatever the machine
makes of paths, the path of this file is the only one that a notebook is loaded, saved or deleted by. None
that leads out of the directory is ever used, and none of another identifier. -/
theorem confined_to_document :
    (∀ id, Unfit id ∧ store.path id = .error (.invalidId id) ∨
      ¬Unfit id ∧ ∃ file, store.path id = .ok file ∧ store.IsDocument id file) ∧
    (Function.Injective fun id => (store.path id).map Path.components) ∧
    ∀ (σ : Type) (id : String),
      (ConfinedTo (store.path id).toOption fun (h : Host σ) s => (store.load h id s, s)) ∧
      (∀ n, ConfinedTo (store.path id).toOption fun (h : Host σ) s => store.save h id n s) ∧
      ConfinedTo (store.path id).toOption fun (h : Host σ) s => store.delete h id s := by
  refine ⟨fun id => ?_, store.injective_components_path, fun σ id =>
    ⟨store.confinedTo_load id, store.confinedTo_save id, store.confinedTo_delete id⟩⟩
  by_cases hunfit : Unfit id
  · have hinvalid : ¬isValidId id = true := fun h => isValidId_iff_not_unfit.mp h hunfit
    exact .inl ⟨hunfit, if_neg hinvalid⟩
  · have hvalid := isValidId_iff_not_unfit.mpr hunfit
    exact .inr ⟨hunfit, _, path_eq store hvalid, store.isDocument_of_isValidId hvalid⟩

example : (path ⟨⟨"nb"⟩⟩ ".").map Path.components = .ok [.name "nb", .name "..ipynb"] := by decide

end Store

end NotebookKernel
