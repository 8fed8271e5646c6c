import NotebookKernel.CommandLine.Commands
import NotebookKernel.Proofs.Kernel.Outputs
import NotebookKernel.Proofs.Notebook.Reloading
import NotebookKernel.Proofs.Notebook.Shelf
import NotebookKernel.Proofs.Worker.Losses
import NotebookKernel.Proofs.Worker.Sparing

/-!
# Running a whole notebook

`Setting.Executes` says what it is to run some cells one after another in one kernel.
`runNotebook_faithful` says that this is what becomes of the code cells of a stored notebook, and that
their outputs and counts are what is stored afterwards.
-/

namespace NotebookKernel.CommandLine

open Act hiding pure

variable {σ γ : Type}

/-! ## Running cells -/

/-- Running the cells one after another, without a panic, leads from one kernel to the other one. With
the output of each goes the counter right after it. -/
inductive Setting.Executes (s : Setting σ) : List String → Kernel (Workbench σ) →
    List (Output × UInt32) → Kernel (Workbench σ) → Prop
  | nil (k : Kernel (Workbench σ)) : Executes s [] k [] k
  | cons {cell : String} {cells : List String} {k k' k'' : Kernel (Workbench σ)} {output : Output}
      {results : List (Output × UInt32)} : s.execute cell k = (some output, k') →
      Executes s cells k' results k'' →
      Executes s (cell :: cells) k ((output, k'.context.executionCount) :: results) k''

variable {s : Setting σ}

theorem Setting.Executes.length {cells : List String} {k k' : Kernel (Workbench σ)}
    {results : List (Output × UInt32)} (h : s.Executes cells k results k') :
    results.length = cells.length := by
  induction h with
  | nil => rfl
  | cons _ _ ih => simp only [List.length_cons, ih]

theorem Setting.Executes.storable {cells : List String} {k k' : Kernel (Workbench σ)}
    {results : List (Output × UInt32)} (h : s.Executes cells k results k') :
    ∀ r ∈ results, r.1.Storable := by
  induction h with
  | nil => exact List.forall_mem_nil _
  | @cons cell _ k _ _ output _ hrun _ ih =>
    refine List.forall_mem_cons.mpr ⟨?_, ih⟩
    exact Kernel.gives_storable_execute s.platform (Magic.every_builtins s.platform) cell k output
      (congrArg Prod.fst hrun)

/-- The code cells are executed in order, and what comes of each is recorded in it. -/
theorem executes_of_runCells {cells : List Cell} {k k' : Kernel (Workbench σ)} {run : CellRun}
    (h : runCells s cells k = (some run, k')) :
    ∃ results, s.Executes ((cells.filter Cell.isCode).map Cell.content) k results k' ∧
      run.cells = Cell.recordAll cells results ∧
      run.failed = results.countP fun r => r.1.isError := by
  -- Every code cell leaves another kernel for the cells below it.
  induction cells generalizing k run with
  | nil =>
    cases h
    exact ⟨[], .nil _, rfl, rfl⟩
  | cons cell cells ih =>
    by_cases hcode : cell.isCode = true
    · simp only [runCells, hcode, Bool.not_true, Bool.false_eq_true, if_false] at h
      obtain ⟨output, k₁, houtput, h⟩ := exists_of_bind_run h
      obtain ⟨context, k₂, hcontext, h⟩ := exists_of_bind_run h
      cases hcontext
      obtain ⟨later, k₃, hlater, h⟩ := exists_of_bind_run h
      cases h
      obtain ⟨results, hexecutes, hcells, hfailed⟩ := ih hlater
      refine ⟨(output, k₁.context.executionCount) :: results, ?_, ?_, ?_⟩
      · rw [List.filter_cons_of_pos hcode, List.map_cons]
        exact .cons houtput hexecutes
      · simp only [Cell.recordAll, hcode, if_true, hcells]
      · rw [List.countP_cons, hfailed]
    · simp only [runCells, hcode, Bool.not_false, if_true] at h
      obtain ⟨later, k₁, hlater, h⟩ := exists_of_bind_run h
      cases h
      obtain ⟨results, hexecutes, hcells, hfailed⟩ := ih hlater
      refine ⟨results, ?_, ?_, hfailed⟩
      · rwa [List.filter_cons_of_neg hcode]
      · simp only [Cell.recordAll, hcode, Bool.false_eq_true, if_false, hcells]

/-! ## The task -/

/-- What of the machine is left alone by the clock, the creation of directories and the processes. -/
structure Setting.Spares (s : Setting σ) (f : σ → γ) : Prop where
  monotonic : ∀ machine, f (s.host.monotonic machine).2 = f machine
  createDirectories : ∀ dir machine, f (s.host.createDirectories dir machine).2 = f machine
  processes : s.processes.Spares f

/-- The exit code of a run with these results: a failure if one of the outputs is an error. -/
def exitCodeOf (results : List (Output × UInt32)) : Nat :=
  if results.any fun r => r.1.isError then 1 else 0

theorem exitCodeOf_eq (results : List (Output × UInt32)) :
    exitCodeOf results = if (results.countP fun r => r.1.isError) = 0 then 0 else 1 := by
  unfold exitCodeOf
  by_cases hany : (results.any fun r => r.1.isError) = true
  · obtain ⟨r, hr, herror⟩ := List.any_eq_true.mp hany
    have hpos : 0 < results.countP fun r => r.1.isError := List.countP_pos_iff.mpr ⟨r, hr, herror⟩
    rw [if_pos hany, if_neg (by omega)]
  · have hzero : (results.countP fun r => r.1.isError) = 0 := by
      rw [List.countP_eq_zero]
      intro r hr herror
      exact hany (List.any_eq_true.mpr ⟨r, hr, herror⟩)
    rw [if_neg hany, if_pos hzero]

section Started

variable {store : Store} {id : String} {machine : σ} {n : Notebook} {context : Context}
  {bench : Workbench σ}

/-- Where there is a notebook and a kernel, the exit code tells whether a cell panicked. -/
theorem exitCode_eq_panicked_iff
    (hload : store.load s.host id (s.host.monotonic machine).2 = .ok (some n))
    (hstart : s.startKernel (s.host.monotonic machine).2 = (some (.ok context), bench)) :
    (runNotebook s store id machine).1.exitCode = 101 ↔
      (runCells s n.cells ⟨context, bench⟩).1 = none := by
  simp only [runNotebook, hload, hstart]
  rcases runCells s n.cells ⟨context, bench⟩ with ⟨_ | run, k⟩
  · exact iff_of_true rfl rfl
  · refine iff_of_false ?_ (Option.some_ne_none run)
    dsimp only
    split
    · exact (by decide : (1 : Nat) ≠ 101)
    · dsimp only
      split <;> decide

/-- If no cell panics, the code cells are executed, and the notebook is saved with what came of them. -/
theorem runNotebook_of_started
    (hload : store.load s.host id (s.host.monotonic machine).2 = .ok (some n))
    (hstart : s.startKernel (s.host.monotonic machine).2 = (some (.ok context), bench))
    (hpanic : (runNotebook s store id machine).1.exitCode ≠ 101) :
    ∃ results k, s.Executes (n.codeCells.map Cell.content) ⟨context, bench⟩ results k ∧
      let saving := store.save s.host id (n.recorded results) k.machine.machine
      (saving.1.1.isOk = true →
        (runNotebook s store id machine).1.exitCode = exitCodeOf results ∧
        (runNotebook s store id machine).2 = (s.host.monotonic saving.2).2) := by
  rcases hcells : runCells s n.cells ⟨context, bench⟩ with ⟨_ | run, k⟩
  · exact absurd ((exitCode_eq_panicked_iff hload hstart).mpr (congrArg Prod.fst hcells)) hpanic
  · obtain ⟨results, hexecutes, hrecorded, hfailed⟩ := executes_of_runCells hcells
    refine ⟨results, k, hexecutes, fun hsave => ?_⟩
    -- The failures were counted along the way, and what is saved is the recorded notebook.
    have hnotebook : ({ n with cells := run.cells } : Notebook) = n.recorded results := by
      rw [hrecorded]
      rfl
    rcases hsaving : store.save s.host id (n.recorded results) k.machine.machine
      with ⟨⟨_ | file, stamped⟩, machine'⟩
    · rw [hsaving] at hsave
      cases hsave
    · simp only [runNotebook, hload, hstart, hcells, hnotebook, hsaving, exitCodeOf_eq, hfailed]
      exact ⟨trivial, trivial⟩

end Started

/-- Where there is no notebook or no kernel, nothing is done but to try for a kernel. -/
theorem runNotebook_of_not_started {store : Store} {id : String} {machine : σ} {f : σ → γ}
    (hspares : s.Spares f)
    (hnone : ∀ n context bench, ¬(store.load s.host id (s.host.monotonic machine).2 = .ok (some n) ∧
      s.startKernel (s.host.monotonic machine).2 = (some (.ok context), bench))) :
    f (runNotebook s store id machine).2 = f machine := by
  have hclock := hspares.monotonic machine
  rcases hload : store.load s.host id (s.host.monotonic machine).2 with _ | _ | n
  · simpa only [runNotebook, hload] using hclock
  · simpa only [runNotebook, hload] using hclock
  · have hkept : f (s.startKernel (s.host.monotonic machine).2).2.machine = f machine :=
      (hspares.processes.setUpWorker hspares.createDirectories s.config
        (Workbench.idle (s.host.monotonic machine).2)).trans hclock
    rcases hstart : s.startKernel (s.host.monotonic machine).2 with ⟨_ | _ | context, bench⟩
    · rw [hstart] at hkept
      simpa only [runNotebook, hload, hstart] using hkept
    · rw [hstart] at hkept
      simpa only [runNotebook, hload, hstart] using hkept
    · exact absurd ⟨hload, hstart⟩ (hnone n context bench)

/-- Running a stored notebook, on a machine that keeps its file. If there is such a notebook, a kernel can
be started and no cell panics, then the contents of the code cells are executed in order in this kernel.
If what came of them can be saved then, nothing else is done, the exit code tells whether an output is an
error, and the notebook is loaded again with just these outputs and counts in its code cells. If there is
no such notebook or no kernel, whatever the clock, the creation of directories and the processes leave
alone stays the same, and so does the file. -/
theorem runNotebook_faithful (s : Setting σ) (store : Store) (id : String) (machine : σ)
    (hfile : ∀ file, store.path id = .ok file → s.host.KeepsFile file) :
    (∀ n context bench, store.load s.host id machine = .ok (some n) →
      s.startKernel (s.host.monotonic machine).2 = (some (.ok context), bench) →
      (runNotebook s store id machine).1.exitCode ≠ 101 →
      ∃ results k, s.Executes (n.codeCells.map Cell.content) ⟨context, bench⟩ results k ∧
        let saving := store.save s.host id (n.recorded results) k.machine.machine
        (saving.1.1.isOk = true →
          (runNotebook s store id machine).1.exitCode = exitCodeOf results ∧
          (runNotebook s store id machine).2 = (s.host.monotonic saving.2).2 ∧
          ∃ n', store.load s.host id (runNotebook s store id machine).2 = .ok (some n') ∧
            n.RanAs results n')) ∧
    ((∀ n context bench, ¬(store.load s.host id machine = .ok (some n) ∧
        s.startKernel (s.host.monotonic machine).2 = (some (.ok context), bench))) →
      ∀ {γ : Type} (f : σ → γ), s.Spares f → f (runNotebook s store id machine).2 = f machine) := by
  have hclock := Store.load_monotonic hfile
  refine ⟨fun n context bench hload hstart hpanic => ?_, fun hnone γ f hspares => ?_⟩
  · rw [← hclock] at hload
    obtain ⟨results, k, hexecutes, hsaving⟩ := runNotebook_of_started hload hstart hpanic
    refine ⟨results, k, hexecutes, fun hsave => ?_⟩
    obtain ⟨hexit, hmachine⟩ := hsaving hsave
    obtain ⟨d, rfl⟩ := Store.exists_document_of_load hload
    have hlength : results.length = (Notebook.ofDocument id d).codeCells.length := by
      rw [hexecutes.length, List.length_map]
    obtain ⟨file, hpath⟩ : ∃ file, store.path id = .ok file := by
      cases hpath : store.path id with
      | ok file => exact ⟨file, rfl⟩
      | error e =>
        rw [Store.save, hpath] at hsave
        cases hsave
    obtain ⟨-, hloaded⟩ := Store.load_of_save (hfile file hpath) hpath
      (Notebook.portable_recorded hlength hexecutes.storable) hsave
    rw [← hclock, ← hmachine] at hloaded
    exact ⟨hexit, hmachine, _, hloaded, Notebook.ranAs_of_recorded hlength hexecutes.storable _⟩
  · refine runNotebook_of_not_started hspares fun n context bench => ?_
    rw [hclock]
    exact hnone n context bench

/-! ## A notebook in memory -/

/-- The directory of the notebooks. -/
def shelf : Store := ⟨⟨"/notebooks"⟩⟩

/-- The tasks work on files in memory, and with a worker that answers what it is going to answer in any
case. The clock of the machine is its place in the answers. -/
def taped (replies : List Reply) : Setting (SortedMap Bytes × Nat) where
  host := Host.ofFiles shelf.directory
  processes := {
    spawn := fun _ _ _ m => (.ok 0, m)
    isAlive := fun _ m => (true, m)
    write := fun _ _ m => (.ok (), m)
    read := fun _ count m =>
      (((Session.tape replies).drop m.2).take count, m.1, m.2 + count)
    kill := fun _ m => m }
  config := { Config.standard (Host.ofFiles shelf.directory) with python := some ⟨"python"⟩ }
  input := []

/-- A notebook with a text and two cells of code. -/
def written : Notebook :=
  { Notebook.empty "a" "Results" with
    cells := [{ Cell.code "t" "# Results" with kind := .markdown }, Cell.code "x" "x = 1",
      Cell.code "y" "%reset"] }

/-- The files when only this notebook is there. -/
def filesWritten : SortedMap Bytes :=
  SortedMap.insert ∅ (Store.fileName "a") (Utf8.encode written.toDocument.toText)

theorem load_filesWritten (time : Nat) :
    shelf.load (Host.ofFiles shelf.directory) "a" (filesWritten, time)
      = .ok (some (Notebook.ofDocument "a" written.toDocument)) := by
  have hkey : Store.IsKey Path.IsFileName "a" := ⟨by decide, (Store.isFileName (by decide)).2⟩
  have hportable : written.Portable := by
    intro c hc o ho
    simp only [written, List.mem_cons, List.not_mem_nil, or_false] at hc
    rcases hc with rfl | rfl | rfl <;> cases ho
  have hholds := Store.Holds.empty.insert hkey hportable
  have hload := Store.load_of_holds (s := (filesWritten, time))
    (Host.keeps_ofFiles shelf.directory) hholds hkey
  rwa [SortedMap.get?_insert, if_pos rfl, Option.map_some] at hload

theorem isOk_save_taped (replies : List Reply) (n : Notebook) (m : SortedMap Bytes × Nat) :
    (shelf.save (taped replies).host "a" n m).1.1.isOk = true := by
  have hvalid : Store.isValidId "a" = true := by decide
  obtain ⟨m', hwrite, -⟩ := (Host.keeps_ofFiles shelf.directory).writeFile
    (Utf8.encode (Store.stamp "a" ((taped replies).host.now m).1 n).toDocument.toText)
    ((taped replies).host.now m).2 (Store.isFileName hvalid).2
  have hwritten : (taped replies).host.writeFile (shelf.directory ++ Store.fileName "a")
      (Utf8.encode (Store.stamp "a" ((taped replies).host.now m).1 n).toDocument.toText)
      ((taped replies).host.now m).2 = (.ok (), m') := hwrite
  simp only [Store.save, Store.path_eq shelf hvalid, Store.writeDocument, hwritten]
  rfl

/-- Whether a kernel can be started on the machine and runs the cells without a panic. -/
def runs (s : Setting σ) (machine : σ) (cells : List Cell) : Bool :=
  match s.startKernel machine with
  | (some (.ok context), bench) => (runCells s cells ⟨context, bench⟩).1.isSome
  | _ => false

theorem exists_of_runs {machine : σ} {cells : List Cell} (h : runs s machine cells = true) :
    ∃ context bench, s.startKernel machine = (some (.ok context), bench) ∧
      (runCells s cells ⟨context, bench⟩).1 ≠ none := by
  unfold runs at h
  split at h
  · next context bench hstart => exact ⟨context, bench, hstart, Option.isSome_iff_ne_none.mp h⟩
  · cases h

/-- The first cell raises an exception and the second one starts over. With a worker that does not answer
nothing happens to the file. -/
theorem runNotebook_faithful_in_memory :
    let s := taped [.pong, .done, .done, .done, .raised ⟨"E", "", "E"⟩, .streams "" "", .plot none,
      .done]
    let machine : SortedMap Bytes × Nat := (filesWritten, 0)
    let content (m : SortedMap Bytes × Nat) : Option Bytes :=
      (s.host.readFile (shelf.directory ++ Store.fileName "a") m).toOption
    (∀ file, shelf.path "a" = .ok file → s.host.KeepsFile file) ∧
      (∃ n context bench results k n', shelf.load s.host "a" machine = .ok (some n) ∧
        s.startKernel (s.host.monotonic machine).2 = (some (.ok context), bench) ∧
        (runNotebook s shelf "a" machine).1.exitCode ≠ 101 ∧
        s.Executes (n.codeCells.map Cell.content) ⟨context, bench⟩ results k ∧
        (shelf.save s.host "a" (n.recorded results) k.machine.machine).1.1.isOk = true ∧
        (runNotebook s shelf "a" machine).1.exitCode = exitCodeOf results ∧
        shelf.load s.host "a" (runNotebook s shelf "a" machine).2 = .ok (some n') ∧
        n.RanAs results n') ∧
      ((∀ context bench, (taped []).startKernel ((taped []).host.monotonic machine).2
        ≠ (some (.ok context), bench)) ∧ (taped []).Spares content ∧
        content (runNotebook (taped []) shelf "a" machine).2 = content machine) := by
  intro s machine content
  have hfile (replies : List Reply) (file : Path) (hpath : shelf.path "a" = .ok file) :
      (taped replies).host.KeepsFile file := by
    have hvalid : Store.isValidId "a" = true := by decide
    rw [Store.path_eq shelf hvalid] at hpath
    cases hpath
    exact Host.keepsFile_ofFiles shelf.directory (Store.isFileName hvalid).2
  have hload : shelf.load s.host "a" machine
      = .ok (some (Notebook.ofDocument "a" written.toDocument)) := load_filesWritten 0
  have hclocked : shelf.load s.host "a" (s.host.monotonic machine).2
      = .ok (some (Notebook.ofDocument "a" written.toDocument)) := load_filesWritten 0
  obtain ⟨context, bench, hstart, hcells⟩ : ∃ context bench,
      s.startKernel (s.host.monotonic machine).2 = (some (.ok context), bench) ∧
        (runCells s (Notebook.ofDocument "a" written.toDocument).cells ⟨context, bench⟩).1 ≠ none :=
    exists_of_runs (by decide +kernel)
  have hpanic : (runNotebook s shelf "a" machine).1.exitCode ≠ 101 := fun hcode =>
    hcells ((exitCode_eq_panicked_iff hclocked hstart).mp hcode)
  obtain ⟨results, k, hexecutes, hsaving⟩ :=
    (runNotebook_faithful s shelf "a" machine (hfile _)).1 _ context bench hload hstart hpanic
  have hsave := isOk_save_taped [.pong, .done, .done, .done, .raised ⟨"E", "", "E"⟩,
    .streams "" "", .plot none, .done]
    ((Notebook.ofDocument "a" written.toDocument).recorded results) k.machine.machine
  obtain ⟨hexit, -, n', hloaded, hranAs⟩ := hsaving hsave
  have hsilent : ∀ context bench, (taped []).startKernel ((taped []).host.monotonic machine).2
      ≠ (some (.ok context), bench) := by
    intro context bench hstart
    have hrefused : ((taped []).startKernel ((taped []).host.monotonic machine).2).1.any Except.isOk
        = false := by decide +kernel
    rw [hstart] at hrefused
    cases hrefused
  have hspares : (taped []).Spares content :=
    ⟨fun _ => rfl, fun _ _ => rfl, fun _ _ _ _ => rfl, fun _ _ => rfl, fun _ _ _ => rfl,
      fun _ _ _ => rfl, fun _ _ => rfl⟩
  have hkept := (runNotebook_faithful (taped []) shelf "a" machine (hfile [])).2
    (fun _ context bench h => hsilent context bench h.2) content hspares
  exact ⟨hfile _, ⟨_, context, bench, results, k, n', hload, hstart, hpanic, hexecutes, hsave, hexit,
    hloaded, hranAs⟩, hsilent, hspares, hkept⟩

end NotebookKernel.CommandLine
