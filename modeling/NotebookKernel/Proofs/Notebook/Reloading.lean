import NotebookKernel.Notebook.Store
import NotebookKernel.Proofs.Notebook.Portable
import NotebookKernel.Proofs.Notebook.Recorded

/-!
# Notebooks that are loaded, run and saved

The outputs of a kernel fit into a document, and every cell that was loaded comes back from one. So a
notebook that was loaded, was given new outputs for its code cells and was saved has just these new
outputs when it is loaded again (`Notebook.ranAs_of_recorded`).
-/

namespace NotebookKernel

variable {σ : Type}

/-! ## Loading -/

namespace Store

variable {store : Store} {h : Host σ} {id : String} {file : Path}

theorem exists_document_of_load {s : σ} {n : Notebook} (hload : store.load h id s = .ok (some n)) :
    ∃ d, n = Notebook.ofDocument id d := by
  unfold load at hload
  cases hpath : store.path id with
  | error e =>
    rw [hpath] at hload
    cases hload
  | ok file =>
    simp only [hpath, bind, Except.bind] at hload
    split at hload
    · cases hread : readDocument h file s with
      | error e =>
        rw [hread] at hload
        cases hload
      | ok d =>
        rw [hread] at hload
        cases hload
        exact ⟨d, rfl⟩
    · cases hload

/-- Looking at the clock changes nothing about what is loaded. -/
theorem load_monotonic (hfile : ∀ file, store.path id = .ok file → h.KeepsFile file) (s : σ) :
    store.load h id (h.monotonic s).2 = store.load h id s := by
  unfold load
  cases hpath : store.path id with
  | error e => rfl
  | ok file =>
    simp only [bind, Except.bind, readDocument, Host.readText, (hfile file hpath).fileExists_monotonic,
      (hfile file hpath).readFile_monotonic]

/-- What was saved is loaded, as it was stamped. -/
theorem load_of_save (hfile : h.KeepsFile file) (hpath : store.path id = .ok file) {n : Notebook}
    (hn : n.Portable) {s : σ} (hsave : (store.save h id n s).1.1.isOk = true) :
    (store.save h id n s).1.1 = .ok file ∧ store.load h id (store.save h id n s).2
      = .ok (some (Notebook.ofDocument id (stamp id (h.now s).1 n).toDocument)) := by
  have hstamped : (stamp id (h.now s).1 n).Portable := hn
  let bytes := Utf8.encode (stamp id (h.now s).1 n).toDocument.toText
  have hrun : store.save h id n s
      = ((((h.writeFile file bytes (h.now s).2).1.mapError (.write file)).map fun () => file,
          stamp id (h.now s).1 n), (h.writeFile file bytes (h.now s).2).2) := by
    rw [save, hpath]
    rfl
  rcases hwrite : h.writeFile file bytes (h.now s).2 with ⟨_ | _, s'⟩ <;> rw [hwrite] at hrun <;>
    rw [hrun] at hsave ⊢
  · cases hsave
  · have htext := Host.readText_of_readFile (hfile.readFile hwrite)
    have hread := readDocument_of_readText htext (Notebook.ofText?_toText_toDocument hstamped) rfl
    refine ⟨rfl, ?_⟩
    simp only [load, hpath, bind, Except.bind, hfile.fileExists hwrite, if_true, hread]

end Store

/-! ## The cells of a loaded notebook -/

/-- What is known of a cell that was loaded: it is idle, and if it has no code it was never run. -/
structure Cell.Loaded (c : Cell) : Prop where
  status : c.status = .idle
  unrun : c.kind = .markdown → c.executionCount = none ∧ c.output = none

theorem DocumentCell.loaded_toCell (id : String) (c : DocumentCell) : (c.toCell id).Loaded := by
  cases c with
  | code frame executionCount outputs => exact ⟨rfl, nofun⟩
  | markdown frame => exact ⟨rfl, fun _ => ⟨rfl, rfl⟩⟩
  | raw frame => exact ⟨rfl, fun _ => ⟨rfl, rfl⟩⟩

theorem DocumentCell.loaded_toCells (earlier : List String) (records : List DocumentCell) :
    ∀ c ∈ toCells earlier records, c.Loaded := by
  induction records generalizing earlier with
  | nil => rintro c ⟨⟩
  | cons record records ih =>
    rw [toCells]
    split <;> exact List.forall_mem_cons.mpr ⟨record.loaded_toCell _, ih _⟩

/-! ## Cells that are run -/

namespace Cell

/-- The cells once the code cells were run, one after another, with an output and a count for each. -/
def recordAll : List Cell → List (Output × UInt32) → List Cell
  | [], _ => []
  | c :: cells, results =>
    if c.isCode then
      match results with
      | [] => c :: cells
      | (output, count) :: results => c.record output count :: recordAll cells results
    else c :: recordAll cells results

/-- The second list has the same cells as the first one, but the code cells have these outputs and
counts, in order. -/
inductive RanAs : List Cell → List (Output × UInt32) → List Cell → Prop
  | nil : RanAs [] [] []
  | code {c : Cell} {cells cells' : List Cell} {results : List (Output × UInt32)} (output : Output)
      (count : UInt32) : c.kind = .code → RanAs cells results cells' →
      RanAs (c :: cells) ((output, count) :: results)
        ({ c with output := some output, executionCount := some count } :: cells')
  | markdown {c : Cell} {cells cells' : List Cell} {results : List (Output × UInt32)} :
      c.kind = .markdown → RanAs cells results cells' → RanAs (c :: cells) results (c :: cells')

theorem kind_of_isCode {c : Cell} (h : c.isCode = true) : c.kind = .code := by
  simpa [isCode] using h

theorem kind_of_not_isCode {c : Cell} (h : ¬c.isCode = true) : c.kind = .markdown := by
  obtain ⟨id, kind, content, executionCount, output, status⟩ := c
  cases kind with
  | code => exact absurd rfl h
  | markdown => rfl

/-- The statuses are not part of what is saved. -/
theorem ranAs_recordAll {cells : List Cell} (hcells : ∀ c ∈ cells, c.Loaded)
    {results : List (Output × UInt32)} (hlength : results.length = (cells.filter isCode).length) :
    RanAs cells results
      ((recordAll cells results).map fun c => { c with status := .idle }) := by
  induction cells generalizing results with
  | nil =>
    rw [List.length_eq_zero_iff.mp hlength]
    exact .nil
  | cons c cells ih =>
    obtain ⟨hc, hcells⟩ := List.forall_mem_cons.mp hcells
    have hidle : { c with status := .idle } = c := by rw [← hc.status]
    by_cases hcode : c.isCode = true
    · rw [List.filter_cons_of_pos hcode, List.length_cons] at hlength
      obtain ⟨⟨output, count⟩, results, rfl⟩ := List.exists_cons_of_length_eq_add_one hlength
      simp only [recordAll, hcode, if_true, List.map_cons]
      have hrecord : ({ c.record output count with status := .idle } : Cell)
          = { c with output := some output, executionCount := some count } := by
        rw [← hc.status]
        rfl
      rw [hrecord]
      exact .code output count (kind_of_isCode hcode) (ih hcells (by simpa using hlength))
    · rw [List.filter_cons_of_neg hcode] at hlength
      simp only [recordAll, hcode, Bool.false_eq_true, if_false, List.map_cons, hidle]
      exact .markdown (kind_of_not_isCode hcode) (ih hcells hlength)

theorem recordedFrom_recordAll {cells : List Cell} (hcells : ∀ c ∈ cells, c.Loaded)
    {results : List (Output × UInt32)} (hlength : results.length = (cells.filter isCode).length)
    {outputs : List Output} (hresults : ∀ r ∈ results, r.1 ∈ outputs) :
    ∀ c ∈ recordAll cells results, c.RecordedFrom outputs := by
  induction cells generalizing results with
  | nil => rintro c ⟨⟩
  | cons c cells ih =>
    obtain ⟨hc, hcells⟩ := List.forall_mem_cons.mp hcells
    by_cases hcode : c.isCode = true
    · rw [List.filter_cons_of_pos hcode, List.length_cons] at hlength
      obtain ⟨⟨output, count⟩, results, rfl⟩ := List.exists_cons_of_length_eq_add_one hlength
      obtain ⟨hfirst, hresults⟩ := List.forall_mem_cons.mp hresults
      simp only [recordAll, hcode, if_true]
      exact List.forall_mem_cons.mpr ⟨recordedFrom_record (kind_of_isCode hcode) hfirst count,
        ih hcells (by simpa using hlength) hresults⟩
    · rw [List.filter_cons_of_neg hcode] at hlength
      have hkind := kind_of_not_isCode hcode
      have hunrun : c.RecordedFrom outputs := by
        simp only [RecordedFrom, hkind]
        exact hc.unrun hkind
      simp only [recordAll, hcode, Bool.false_eq_true, if_false]
      exact List.forall_mem_cons.mpr ⟨hunrun, ih hcells hlength hresults⟩

end Cell

namespace Output

/-- Data that are nothing but texts are portable. -/
theorem portable_of_strings {o : Output}
    (h : ∀ field ∈ o.dataOrEmpty.toList, ∃ text, field.2 = .string text) : o.Portable := by
  refine ⟨fun field hfield => ?_, fun field hfield => ?_, fun field hfield => ?_⟩ <;>
    obtain ⟨text, htext⟩ := h field hfield <;> rw [htext]
  · trivial
  · trivial
  · exact Nat.le_of_ble_eq_true rfl

theorem Storable.portable {o : Output} (h : o.Storable) : o.Portable := by
  refine portable_of_strings fun field hfield => ?_
  obtain ⟨kind, content, data⟩ := o
  cases kind with
  | text | error =>
    cases h
    cases hfield
  | html | plot =>
    obtain ⟨text, hdata⟩ := h
    cases hdata
    exact ⟨text, congrArg Prod.snd (List.mem_singleton.mp hfield)⟩

end Output

namespace Notebook

/-- The notebook after its code cells were run. -/
def recorded (n : Notebook) (results : List (Output × UInt32)) : Notebook :=
  { n with cells := Cell.recordAll n.cells results }

/-- The second notebook is what is to be expected of the first one after a run that gave these results
for its code cells. -/
structure RanAs (n : Notebook) (results : List (Output × UInt32)) (n' : Notebook) : Prop where
  id : n'.id = n.id
  title : n'.title = n.title
  /-- The time of its creation is kept if it had one. -/
  created : ∀ time, n.created = some time → n'.created = some time
  cells : Cell.RanAs n.cells results n'.cells

variable {id : String} {d : Document} {results : List (Output × UInt32)}

theorem loaded_cells (id : String) (d : Document) : ∀ c ∈ (ofDocument id d).cells, c.Loaded :=
  DocumentCell.loaded_toCells [] d.cells

theorem portable_recorded
    (hlength : results.length = (ofDocument id d).codeCells.length)
    (hresults : ∀ r ∈ results, r.1.Storable) : ((ofDocument id d).recorded results).Portable := by
  intro c hc o ho
  have hrecorded := Cell.recordedFrom_recordAll (loaded_cells id d) hlength
    (fun r hr => List.mem_map_of_mem (f := Prod.fst) hr) c hc
  cases hkind : c.kind with
  | markdown =>
    simp only [Cell.RecordedFrom, hkind] at hrecorded
    rw [hrecorded.2] at ho
    cases ho
  | code =>
    simp only [Cell.RecordedFrom, hkind] at hrecorded
    obtain ⟨r, hr, rfl⟩ := List.mem_map.mp (hrecorded o ho)
    exact (hresults r hr).portable

/-- What was recorded is all there after the notebook was saved and loaded. -/
theorem ranAs_of_recorded (hlength : results.length = (ofDocument id d).codeCells.length)
    (hresults : ∀ r ∈ results, r.1.Storable) (now : Instant) :
    (ofDocument id d).RanAs results
      (ofDocument id (Store.stamp id now ((ofDocument id d).recorded results)).toDocument) := by
  have hrecorded := Cell.recordedFrom_recordAll (loaded_cells id d) hlength
    (fun r hr => List.mem_map_of_mem (f := Prod.fst) hr)
  have hstorable : ∀ o ∈ results.map Prod.fst, o.Storable := List.forall_mem_map.mpr hresults
  have hcells : (ofDocument id
      (Store.stamp id now ((ofDocument id d).recorded results)).toDocument).cells
      = ((ofDocument id d).recorded results).cells.map fun c => { c with status := .idle } := by
    refine (cells_ofDocument_toDocument (Store.stamp id now _)).trans ?_
    exact List.map_congr_left fun c hc => c.toCell_toDocument hstorable (hrecorded c hc)
  refine ⟨rfl, rfl, fun time htime => ?_, ?_⟩
  · have hkept : (ofDocument id
        (Store.stamp id now ((ofDocument id d).recorded results)).toDocument).created
        = (ofDocument id d).created.or (some now.timestamp) := rfl
    rw [hkept, htime]
    rfl
  · rw [hcells]
    exact Cell.ranAs_recordAll (loaded_cells id d) hlength

end Notebook

end NotebookKernel
