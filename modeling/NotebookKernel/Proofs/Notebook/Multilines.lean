import NotebookKernel.Proofs.Text.Pieces

/-!
# Texts as lists of lines

Every text comes back from the lines that it is split into. A list of lines comes back from its text
exactly when it is well formed: each line has its line feed at its end and nowhere else, which only the
last one may lack, and no line is empty (`Multiline.ofText_toText_iff_wellFormed`). A list whose lines
lack their line feeds is joined by line feeds, and so is well formed the second time.
-/

namespace NotebookKernel

namespace Text.Chars

theorem ne_nil_of_mem_splitInclusive {cs piece : List Char} (h : piece ∈ splitInclusive cs) :
    piece ≠ [] := by
  induction cs generalizing piece with
  | nil => simp [splitInclusive] at h
  | cons c rest ih =>
    unfold splitInclusive at h
    split at h
    · rcases List.mem_cons.mp h with rfl | h
      · exact List.cons_ne_nil _ _
      · exact ih h
    split at h
    · rw [List.mem_singleton.mp h]
      exact List.cons_ne_nil _ _
    next first pieces hpieces =>
      rw [hpieces] at ih
      rcases List.mem_cons.mp h with rfl | h
      · exact List.cons_ne_nil _ _
      · exact ih (List.mem_cons_of_mem _ h)

theorem notMem_dropLast_of_mem_splitInclusive {cs piece : List Char} (h : piece ∈ splitInclusive cs) :
    '\n' ∉ piece.dropLast := by
  obtain ⟨line, hline, rfl | rfl⟩ := exists_line_of_mem_splitInclusive h
  · exact fun hmem => hline (List.dropLast_subset _ hmem)
  · rwa [List.dropLast_concat]

/-- A line feed that is nowhere but at the end of a text cuts off nothing. -/
theorem splitInclusive_of_notMem_dropLast {line : List Char} (hne : line ≠ [])
    (hinner : '\n' ∉ line.dropLast) : splitInclusive line = [line] := by
  obtain ⟨before, last, rfl⟩ := (List.eq_nil_or_concat' line).resolve_left hne
  rw [List.dropLast_concat] at hinner
  by_cases hlast : last = '\n'
  · rw [hlast, splitInclusive_append hinner]
    rfl
  · exact splitInclusive_of_notMem (by simp [hinner, Ne.symm hlast]) hne

/-- Lines that are put one after another come apart again. -/
theorem splitInclusive_flatten {pieces : List (List Char)} (hne : ∀ piece ∈ pieces, piece ≠ [])
    (hends : ∀ piece ∈ pieces.dropLast, ∃ line, piece = line ++ ['\n'])
    (hinner : ∀ piece ∈ pieces, '\n' ∉ piece.dropLast) : splitInclusive pieces.flatten = pieces := by
  induction pieces with
  | nil => rfl
  | cons first pieces ih =>
    rw [List.forall_mem_cons] at hne hinner
    cases pieces with
    | nil => simpa using splitInclusive_of_notMem_dropLast hne.1 hinner.1
    | cons second pieces =>
      rw [List.dropLast_cons_cons, List.forall_mem_cons] at hends
      obtain ⟨⟨line, rfl⟩, hends⟩ := hends
      have hline : '\n' ∉ line := by simpa using hinner.1
      rw [List.flatten_cons, List.append_assoc, List.singleton_append, splitInclusive_append hline,
        ih hne.2 hends hinner.2]

end Text.Chars

namespace Multiline

open Text

/-- A list of lines as a text is split into: no line is empty, each but perhaps the last one ends in a
line feed, and there is no other line feed in a line. -/
structure WellFormed (parts : List String) : Prop where
  ne_empty : ∀ line ∈ parts, line ≠ ""
  terminated : ∀ line ∈ parts.dropLast, ∃ before, line = before ++ "\n"
  notMem_dropLast : ∀ line ∈ parts, '\n' ∉ line.toList.dropLast

theorem wellFormed_splitInclusive (text : String) : WellFormed (splitInclusive text) where
  ne_empty line hline := by
    obtain ⟨piece, hpiece, rfl⟩ := List.mem_map.mp hline
    simpa using Chars.ne_nil_of_mem_splitInclusive hpiece
  terminated line hline := by
    rw [splitInclusive, ← List.map_dropLast] at hline
    obtain ⟨piece, hpiece, rfl⟩ := List.mem_map.mp hline
    obtain ⟨before, rfl⟩ := Chars.endsInLineFeed_of_mem_dropLast hpiece
    exact ⟨String.ofList before, by simp⟩
  notMem_dropLast line hline := by
    obtain ⟨piece, hpiece, rfl⟩ := List.mem_map.mp hline
    simpa using Chars.notMem_dropLast_of_mem_splitInclusive hpiece

namespace WellFormed

variable {parts : List String}

theorem toText_eq (h : WellFormed parts) : (lines parts).toText = concat parts := by
  refine if_pos (List.all_eq_true.mpr fun line hline => ?_)
  obtain ⟨before, rfl⟩ := h.terminated line hline
  simp [endsWith]

theorem splitInclusive_concat (h : WellFormed parts) : splitInclusive (concat parts) = parts := by
  have hpieces : Chars.splitInclusive (parts.map String.toList).flatten = parts.map String.toList := by
    refine Chars.splitInclusive_flatten ?_ ?_ ?_
    · rw [List.forall_mem_map]
      exact fun line hline => by simpa using h.ne_empty line hline
    · rw [← List.map_dropLast, List.forall_mem_map]
      intro line hline
      obtain ⟨before, rfl⟩ := h.terminated line hline
      exact ⟨before.toList, by simp⟩
    · rw [List.forall_mem_map]
      exact h.notMem_dropLast
  rw [splitInclusive, toList_concat, hpieces, List.map_map]
  exact (List.map_congr_left fun _ _ => String.ofList_toList).trans (List.map_id _)

end WellFormed

/-- Splitting and joining undo each other: always on texts, and on lists of lines exactly where these
are well formed. -/
theorem ofText_toText_iff_wellFormed :
    (∀ text, (ofText text).toText = text) ∧
      ∀ parts, ofText (lines parts).toText = lines parts ↔ WellFormed parts := by
  refine ⟨toText_ofText, fun parts => ⟨fun heq => ?_, fun h => ?_⟩⟩
  · rw [ofText, lines.injEq] at heq
    exact heq ▸ wellFormed_splitInclusive _
  · rw [h.toText_eq, ofText, h.splitInclusive_concat]

example : ofText (lines ["x = 1", "", "x"]).toText = lines ["x = 1\n", "\n", "x"] := by decide

end Multiline

end NotebookKernel
