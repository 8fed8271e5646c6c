import NotebookKernel.Proofs.Kernel.Routes
import NotebookKernel.Proofs.Text.Pieces

/-!
# The list and the table of the user's names

Both views of the namespace filter the bindings and sort them by name, the list after the other data is
dropped and the table before. `Variables.Shows` is what they agree on. The rows of the table are joined with
line feeds, so a name has one line of the table exactly if the part of its value that is shown has no line
feed (`Kernel.views_agree`).
-/

namespace NotebookKernel

open Source Text

variable {σ : Type}

namespace Variables

/-- The user's bindings in strictly ascending order of their names. -/
structure Shows (bindings shown : List Binding) : Prop where
  perm : shown.Perm (bindings.filter (isUserName ·.name))
  ascending : shown.Pairwise fun a b => a.name < b.name

/-- The lines above the rows of the table. -/
def tableHead : List String :=
  ["Variable   Type       Data/Info", String.ofList (List.replicate 40 '-')]

def sorted (bindings : List Binding) : List Binding :=
  (bindings.filter (isUserName ·.name)).mergeSort fun a b => decide (a.name ≤ b.name)

theorem shows_sorted {bindings : List Binding} (hnodup : (bindings.map Binding.name).Nodup) :
    Shows bindings (sorted bindings) := by
  have hperm : (sorted bindings).Perm (bindings.filter (isUserName ·.name)) := List.mergeSort_perm _ _
  have hle : (sorted bindings).Pairwise fun a b => a.name ≤ b.name := by
    have htrans (a b c : Binding) : decide (a.name ≤ b.name) = true → decide (b.name ≤ c.name) = true →
        decide (a.name ≤ c.name) = true := by
      simpa only [decide_eq_true_eq] using String.le_trans
    have htotal (a b : Binding) : (decide (a.name ≤ b.name) || decide (b.name ≤ a.name)) = true := by
      simpa using String.le_total a.name b.name
    exact (List.pairwise_mergeSort htrans htotal _).imp of_decide_eq_true
  have hne : (sorted bindings).Pairwise fun a b => a.name ≠ b.name := by
    have hdistinct : bindings.Pairwise fun a b => a.name ≠ b.name := List.pairwise_map.mp hnodup
    exact hperm.symm.pairwise (hdistinct.filter _) fun h => h.symm
  refine ⟨hperm, (hle.and hne).imp fun {a b} ⟨hle, hne⟩ => ?_⟩
  exact String.not_le.mp fun hge => hne (String.le_antisymm hle hge)

theorem names_eq (bindings : List Binding) : names bindings =
    if sorted bindings = [] then "No variables defined"
    else join "  " ((sorted bindings).map Binding.name) := by
  have hsorted : (sorted bindings).map Binding.name
      = ((bindings.map Binding.name).filter isUserName).mergeSort fun a b => decide (a ≤ b) := by
    rw [sorted, List.filter_map]
    exact List.map_mergeSort fun _ _ _ _ => rfl
  have hnil : sorted bindings = [] ↔ (bindings.map Binding.name).filter isUserName = [] := by
    rw [← List.map_eq_nil_iff, hsorted, ← List.length_eq_zero_iff, List.length_mergeSort,
      List.length_eq_zero_iff]
  simp only [names, List.isEmpty_iff, hnil, hsorted]

theorem table_eq (bindings : List Binding) :
    table bindings = join "\n" (tableHead ++ (sorted bindings).map row) := rfl

/-! ## The lines of the table -/

theorem mem_padRight {c : Char} {width : Nat} {s : String} (hspace : c ≠ ' ') :
    c ∈ (padRight width s).toList ↔ c ∈ s.toList := by
  simp [padRight, hspace]

/-- A line feed in a row comes from the value. -/
theorem lineFeed_mem_row_iff {b : Binding} (hname : '\n' ∉ b.name.toList)
    (htype : '\n' ∉ b.typeName.toList) :
    '\n' ∈ (row b).toList ↔ '\n' ∈ (take infoLimit b.representation).toList := by
  have hspace : ('\n' : Char) ≠ ' ' := by decide
  simp [row, mem_padRight hspace, hname, htype]

theorem splitOn_table (bindings : List Binding) :
    splitOn '\n' (table bindings) = tableHead ++ ((sorted bindings).map row).flatMap (splitOn '\n') := by
  have hhead : tableHead.flatMap (splitOn '\n') = tableHead :=
    flatMap_splitOn_eq_iff.mpr (by decide)
  rw [table_eq]
  refine (splitOn_join '\n' (by simp [tableHead])).trans ?_
  rw [List.flatMap_append, hhead]

end Variables

namespace Magic

variable {p : Platform σ} {d : Directive}

theorem lookup_builtins_of_who (h : d.calls "who" = true) :
    (builtins p).lookup d.scope d.name = some (showBindings p Variables.names) :=
  have hlower : lowercase "who" = "who" := by decide +kernel
  lookup_builtins_of_line (m := ("who", showBindings p Variables.names))
    (List.mem_of_getElem? (i := 9) rfl) hlower h

theorem lookup_builtins_of_whos (h : d.calls "whos" = true) :
    (builtins p).lookup d.scope d.name = some (showBindings p Variables.table) :=
  have hlower : lowercase "whos" = "whos" := by decide +kernel
  lookup_builtins_of_line (m := ("whos", showBindings p Variables.table))
    (List.mem_of_getElem? (i := 10) rfl) hlower h

end Magic

namespace Kernel

/-- A view of the bindings that the evaluator has. -/
theorem execute_of_showBindings {p : Platform σ} {cell : String} {d : Directive} {k : Kernel σ}
    {bindings : List Binding} {s : σ} {view : List Binding → String}
    (hd : Directive.ofCell? (trim cell) = some d)
    (hlookup : (Magic.builtins p).lookup d.scope d.name = some (Magic.showBindings p view))
    (hbindings : p.evaluator.bindings k.machine = (some (.ok bindings), s)) :
    (execute p (Magic.builtins p) cell k).1 = some (.text (view bindings)) := by
  obtain ⟨hcode, hroute⟩ := route_of_directive hd hlookup
  have hasked : KernelM.onMachine p.evaluator.bindings k.uninterrupted
      = (some (.ok bindings), k.uninterrupted.onto s) :=
    congrArg (fun r => (r.1, k.uninterrupted.onto r.2)) hbindings
  have hrun : Magic.showBindings p view d k.uninterrupted
      = (some (.text (view bindings)), k.uninterrupted.onto s) :=
    Act.bind_run_of_some hasked _
  rw [execute_of_magic hcode hroute (by rw [hrun]; rfl), hrun]

/-- Both views show the user's names in ascending order. The lines of the table are its two head lines and
then the lines of each row; these are the rows themselves exactly if no value has a line feed among the
characters that are shown of it. -/
theorem views_agree {p : Platform σ} {k : Kernel σ} {bindings : List Binding} {s : σ}
    (hbindings : p.evaluator.bindings k.machine = (some (.ok bindings), s))
    (hnodup : (bindings.map Binding.name).Nodup)
    (hlines : ∀ b ∈ bindings, '\n' ∉ b.name.toList ∧ '\n' ∉ b.typeName.toList) :
    ∃ shown content, Variables.Shows bindings shown ∧
      (∀ cell d, Directive.ofCell? (trim cell) = some d → d.calls "who" = true →
        (execute p (Magic.builtins p) cell k).1 = some (.text
          (if shown = [] then "No variables defined" else join "  " (shown.map Binding.name)))) ∧
      (∀ cell d, Directive.ofCell? (trim cell) = some d → d.calls "whos" = true →
        (execute p (Magic.builtins p) cell k).1 = some (.text content)) ∧
      splitOn '\n' content
        = Variables.tableHead ++ (shown.map Variables.row).flatMap (splitOn '\n') ∧
      (splitOn '\n' content = Variables.tableHead ++ shown.map Variables.row ↔
        ∀ b ∈ shown, '\n' ∉ (take Variables.infoLimit b.representation).toList) := by
  have hshows := Variables.shows_sorted hnodup
  refine ⟨Variables.sorted bindings, Variables.table bindings, hshows, ?_, ?_,
    Variables.splitOn_table bindings, ?_⟩
  · intro cell d hd hwho
    rw [execute_of_showBindings hd (Magic.lookup_builtins_of_who hwho) hbindings, Variables.names_eq]
  · intro cell d hd hwhos
    exact execute_of_showBindings hd (Magic.lookup_builtins_of_whos hwhos) hbindings
  · rw [Variables.splitOn_table, List.append_right_inj, flatMap_splitOn_eq_iff,
      List.forall_mem_map]
    refine forall₂_congr fun b hb => not_congr ?_
    obtain ⟨hname, htype⟩ := hlines b (List.mem_filter.mp (hshows.perm.mem_iff.mp hb)).1
    exact Variables.lineFeed_mem_row_iff hname htype

/-- A kernel whose namespace has the given bindings. -/
def naming (bindings : List Binding) : Platform Nat where
  evaluator := { Evaluator.bare with bindings := pure (.ok bindings) }
  host := Host.bare

/-- A value whose line feed is just behind what is shown of it, and a name that is hidden. -/
theorem views_agree_on_cut_value :
    let bindings : List Binding := [⟨"x", "int", "10", false, false, none, none⟩,
      ⟨"_x", "int", "9\n", false, false, none, none⟩,
      ⟨"X", "str", "0123456789 0123456789 01234567\n", false, false, none, none⟩]
    let p := naming bindings
    ∃ shown content, Variables.Shows bindings shown ∧
      (execute p (Magic.builtins p) "%whos" bare).1 = some (.text content) ∧
      splitOn '\n' content = Variables.tableHead ++ shown.map Variables.row := by
  intro bindings p
  obtain ⟨shown, content, hshows, -, hwhos, -, hrows⟩ :=
    views_agree (p := naming bindings) (k := bare) rfl (by decide) (by decide)
  have hall : ∀ b ∈ bindings.filter (Variables.isUserName ·.name),
      '\n' ∉ (take Variables.infoLimit b.representation).toList := by decide
  refine ⟨shown, content, hshows, ?_, hrows.mpr fun b hb => hall b (hshows.perm.mem_iff.mp hb)⟩
  exact hwhos "%whos" ⟨.line, "whos", "", ""⟩ (by decide +kernel) (by decide +kernel)

/-- One name, and two lines for it. -/
theorem whos_of_value_with_line_feed :
    let bindings : List Binding := [⟨"x", "T", "a\nb", false, false, none, none⟩]
    let p := naming bindings
    (execute p (Magic.builtins p) "%who" bare).1 = some (.text "x") ∧
      ∃ content, (execute p (Magic.builtins p) "%whos" bare).1 = some (.text content) ∧
        splitOn '\n' content = Variables.tableHead ++ ["x          T          a", "b"] := by
  intro bindings p
  have hsorted : Variables.sorted bindings = bindings := List.mergeSort_of_pairwise (by decide)
  have hwho : Directive.ofCell? (trim "%who") = some ⟨.line, "who", "", ""⟩ := by decide +kernel
  have hwhos : Directive.ofCell? (trim "%whos") = some ⟨.line, "whos", "", ""⟩ := by decide +kernel
  refine ⟨?_, Variables.table bindings, ?_, ?_⟩
  · rw [execute_of_showBindings hwho (Magic.lookup_builtins_of_who (by decide +kernel)) rfl,
      Variables.names_eq, hsorted]
    rfl
  · exact execute_of_showBindings hwhos (Magic.lookup_builtins_of_whos (by decide +kernel)) rfl
  · rw [Variables.splitOn_table, hsorted]
    decide

end Kernel

end NotebookKernel
