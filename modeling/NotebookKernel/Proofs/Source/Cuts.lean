import NotebookKernel.Proofs.Source.Directives
import NotebookKernel.Proofs.Text.Pieces
import NotebookKernel.Source.Shape

/-!
# Where a cell is cut

`Source.Cut` says when the lines of a cell can be cut around the one of which the value may be shown. A
candidate is such a cut (`Source.candidate?_eq_some_iff`), and the texts that are run for it have the
significant lines of the cell, each of them once (`Source.Cut.significantLines_texts`).
-/

namespace NotebookKernel.Source

open Text

theorem isBlankText_iff_trim (s : String) : isBlankText s = true ↔ Chars.trim s.toList = [] := by
  rw [isBlankText, List.all_eq_true, Chars.trim, Chars.trimEnd, List.reverse_eq_nil_iff,
    List.dropWhile_eq_nil_iff, Chars.trimStart]
  constructor
  · intro h c hc
    exact h c ((List.dropWhile_sublist _).mem (List.mem_reverse.mp hc))
  · intro h c hc
    by_contra hblank
    -- A character that is not blank would be left by the trimming at the start.
    rw [← List.takeWhile_append_dropWhile (p := isBlank) (l := s.toList)] at hc
    rcases List.mem_append.mp hc with hc | hc
    · exact hblank (List.mem_takeWhile_imp hc)
    · exact hblank (h c (List.mem_reverse.mpr hc))

/-- Nothing in the line is run: it is blank or a comment. -/
def IsIdle (line : String) : Prop :=
  isBlankText line = true ∨ startsWith "#" (trim line) = true

instance : DecidablePred IsIdle := fun _ => inferInstanceAs (Decidable (_ ∨ _))

theorem isSignificant_eq_false_iff (line : String) : isSignificant line = false ↔ IsIdle line := by
  unfold isSignificant IsIdle
  rw [isBlankText_iff_trim]
  cases h : Chars.trim line.toList with
  | nil => exact iff_of_true rfl (.inl rfl)
  | cons c rest =>
    have hhash : startsWith "#" (trim line) = ('#' == c) := by
      rw [startsWith, trim, String.toList_ofList, h]
      simp [List.isPrefixOf]
    rw [hhash]
    by_cases hc : c = '#'
    · subst hc
      exact iff_of_true rfl (.inr rfl)
    · refine iff_of_false (by simpa using hc) ?_
      rintro (hnil | hsame)
      · cases hnil
      · exact hc (beq_iff_eq.mp hsame).symm

/-- The lines of a cell, cut around the one of which the value may be shown. -/
structure Cut (code : String) (above : List String) (line : String) (below : List String) : Prop where
  lines_eq : lines code = above ++ line :: below
  not_idle : ¬IsIdle line
  idle_below : ∀ l ∈ below, IsIdle l
  not_indented : line.toList.head?.any isBlank = false
  /-- The line above does not hand its statement on. -/
  not_continued : above.getLast?.any continues = false
  not_statement : looksLikeStatement line = false

/-- What is run before the line at a cut: the lines above it, unless all of them are blank. -/
def setupOf (above : List String) : Option String :=
  if above.all isBlankText then none else some (join "\n" above)

theorem dropWhile_reverse_eq_cons_iff {α : Type} {p : α → Bool} {xs ys : List α} {y : α} :
    xs.reverse.dropWhile p = y :: ys ↔
      ∃ zs, xs = ys.reverse ++ y :: zs ∧ p y = false ∧ ∀ z ∈ zs, p z = true := by
  constructor
  · intro h
    have hall := List.takeWhile_append_dropWhile (p := p) (l := xs.reverse)
    rw [h] at hall
    refine ⟨(xs.reverse.takeWhile p).reverse, ?_, ?_, fun z hz => ?_⟩
    · have hxs := congrArg List.reverse hall
      simpa using hxs.symm
    · have hhead := List.head_dropWhile_not p (l := xs.reverse) (by rw [h]; simp)
      simpa [h] using hhead
    · exact List.mem_takeWhile_imp (List.mem_reverse.mp hz)
  · rintro ⟨zs, rfl, hy, hzs⟩
    rw [List.reverse_append, List.reverse_cons, List.append_assoc, List.singleton_append,
      List.reverse_reverse, List.dropWhile_append_of_pos fun z hz => hzs z (List.mem_reverse.mp hz),
      List.dropWhile_cons_of_neg (by simp [hy])]

theorem candidate?_eq_some_iff {code : String} {c : Candidate} :
    candidate? code = some c ↔
      ∃ line below, Cut code c.before line below ∧ c.final = trim line := by
  unfold candidate?
  constructor
  · intro h
    split at h
    · cases h
    next line above hlast =>
      obtain ⟨below, hlines, hline, hbelow⟩ := dropWhile_reverse_eq_cons_iff.mp hlast
      split at h
      · cases h
      next hfree =>
        cases h
        simp only [Bool.or_eq_true, not_or, Bool.not_eq_true] at hfree
        obtain ⟨⟨hindented, hcontinued⟩, hstatement⟩ := hfree
        refine ⟨line, below, ⟨hlines, ?_, fun l hl => ?_, hindented, ?_, hstatement⟩, rfl⟩
        · rw [← isSignificant_eq_false_iff]
          simpa using hline
        · rw [← isSignificant_eq_false_iff]
          simpa using hbelow l hl
        · rwa [List.getLast?_reverse]
  · rintro ⟨line, below, hcut, hfinal⟩
    have hline : isSignificant line = true := by
      rw [← Bool.not_eq_false, isSignificant_eq_false_iff]
      exact hcut.not_idle
    have hlast : (lines code).reverse.dropWhile (!isSignificant ·) = line :: c.before.reverse :=
      dropWhile_reverse_eq_cons_iff.mpr ⟨below, by rw [List.reverse_reverse, hcut.lines_eq],
        by simp [hline], fun l hl => by
          simp [(isSignificant_eq_false_iff l).mpr (hcut.idle_below l hl)]⟩
    have hcontinued : c.before.reverse.head?.any continues = false := by
      rw [List.head?_reverse]
      exact hcut.not_continued
    rw [hlast]
    simp only [hcut.not_indented, hcontinued, hcut.not_statement, Bool.or_self,
      Bool.false_eq_true, if_false, List.reverse_reverse, ← hfinal]

theorem exists_cut_or_forall_not (code : String) :
    (∃ above line below, Cut code above line below) ∨
      ∀ above line below, ¬Cut code above line below := by
  by_cases h : ∃ above line below, Cut code above line below
  · exact .inl h
  · exact .inr fun above line below hcut => h ⟨above, line, below, hcut⟩

theorem isBlankText_join (ls : List String) : isBlankText (join "\n" ls) = ls.all isBlankText := by
  have happend (s t : String) : isBlankText (s ++ t) = (isBlankText s && isBlankText t) := by
    simp [isBlankText]
  induction ls with
  | nil => rfl
  | cons s ls ih =>
    cases ls with
    | nil => simp [join]
    | cons t ls =>
      have hjoin : join "\n" (s :: t :: ls) = s ++ "\n" ++ join "\n" (t :: ls) := rfl
      have hfeed : isBlankText "\n" = true := by decide
      rw [hjoin, happend, happend, ih, hfeed, Bool.and_true, List.all_cons (a := s)]

/-! ## What is run at a cut -/

/-- The lines in which something is run, without the blanks at their ends. -/
def significantLines (lines : List String) : List String := (lines.filter isSignificant).map trimEnd

/-- The texts that are run for a cell, in this order. -/
def Shape.texts (code : String) : Shape → List String
  | .statements => [code]
  | .expression setup final => setup.toList ++ [final]

theorem significantLines_append (ls ls' : List String) :
    significantLines (ls ++ ls') = significantLines ls ++ significantLines ls' := by
  rw [significantLines, List.filter_append, List.map_append]
  rfl

theorem significantLines_of_idle {ls : List String} (h : ∀ l ∈ ls, IsIdle l) :
    significantLines ls = [] := by
  have hnone : ls.filter isSignificant = [] :=
    List.filter_eq_nil_iff.mpr fun l hl => by
      simp [(isSignificant_eq_false_iff l).mpr (h l hl)]
  rw [significantLines, hnone, List.map_nil]

/-- Blanks at the end of a line make no difference. -/
theorem significantLines_cons_congr {l l' : String}
    (h : Chars.trimEnd l.toList = Chars.trimEnd l'.toList) (ls : List String) :
    significantLines (l :: ls) = significantLines (l' :: ls) := by
  have hsignificant : isSignificant l = isSignificant l' := by
    unfold isSignificant
    rw [← Chars.trim_trimEnd, h, Chars.trim_trimEnd]
  have htrim : trimEnd l = trimEnd l' := congrArg String.ofList h
  simp only [significantLines, List.filter_cons, hsignificant]
  split <;> simp [htrim]

/-- Lines that are put together have the same significant lines, though the blanks at their ends may
be others. -/
theorem significantLines_lines_join {ls : List String} (h : ∀ l ∈ ls, '\n' ∉ l.toList) :
    significantLines (lines (join "\n" ls)) = significantLines ls := by
  induction ls with
  | nil => rfl
  | cons s ls ih =>
    obtain ⟨hs, hrest⟩ := List.forall_mem_cons.mp h
    cases ls with
    | nil =>
      by_cases hempty : s = ""
      · rw [hempty]
        decide
      · have hlines : lines s = [s] := by
          rw [lines, Chars.lines_of_notMem hs (by simpa using hempty), List.map_singleton,
            String.ofList_toList]
        rw [join, hlines]
    | cons t ls =>
      have hjoin : (join "\n" (s :: t :: ls)).toList
          = s.toList ++ '\n' :: (join "\n" (t :: ls)).toList := by
        simp [join]
      have hlines : lines (join "\n" (s :: t :: ls))
          = String.ofList (Chars.dropLineEnd (s.toList ++ ['\n'])) :: lines (join "\n" (t :: ls)) := by
        rw [lines, hjoin, Chars.lines_append hs, List.map_cons, ← lines]
      have htrim : Chars.trimEnd (String.ofList (Chars.dropLineEnd (s.toList ++ ['\n']))).toList
          = Chars.trimEnd s.toList := by
        rw [String.toList_ofList, Chars.trimEnd_dropLineEnd,
          Chars.trimEnd_append_blanks Chars.isBlank_lineFeed]
      rw [hlines, significantLines_cons_congr htrim, ← List.singleton_append,
        significantLines_append, ih hrest, ← significantLines_append, List.singleton_append]

namespace Cut

variable {code line : String} {above below : List String}

theorem notMem_of_mem (h : Cut code above line below) {l : String}
    (hl : l ∈ above ++ line :: below) : '\n' ∉ l.toList := by
  rw [← h.lines_eq] at hl
  obtain ⟨cs, hcs, rfl⟩ := List.mem_map.mp hl
  rw [String.toList_ofList]
  exact Chars.notMem_of_mem_lines hcs

/-- A line that is not indented loses only the blanks at its end. -/
theorem trim_eq (h : Cut code above line below) :
    Chars.trim line.toList = Chars.trimEnd line.toList := by
  have hindented := h.not_indented
  cases hline : line.toList with
  | nil => rfl
  | cons c rest =>
    rw [hline] at hindented
    rw [Chars.trim, Chars.trimStart_cons (by simpa using hindented)]

/-- The line by itself is one significant line. -/
theorem significantLines_lines_trim (h : Cut code above line below) :
    significantLines (lines (trim line)) = significantLines [line] := by
  have htrim : (trim line).toList = Chars.trimEnd line.toList := by
    rw [trim, String.toList_ofList, h.trim_eq]
  have hline : '\n' ∉ (trim line).toList := by
    rw [htrim]
    exact fun hmem => h.notMem_of_mem (by simp) (Chars.mem_of_mem_trimEnd hmem)
  have hne : (trim line).toList ≠ [] := fun hnil =>
    h.not_idle (.inl ((isBlankText_iff_trim line).mpr (by rwa [trim, String.toList_ofList] at hnil)))
  rw [lines, Chars.lines_of_notMem hline hne, List.map_singleton, String.ofList_toList]
  refine significantLines_cons_congr ?_ []
  rw [htrim, ← h.trim_eq, Chars.trimEnd_trim, h.trim_eq]

/-- The texts that are run have the significant lines of the cell, in order and each of them once. -/
theorem significantLines_texts (h : Cut code above line below) :
    ((Shape.expression (setupOf above) (trim line)).texts code).flatMap
      (fun text => significantLines (lines text)) = significantLines (lines code) := by
  have habove : (setupOf above).toList.flatMap (fun text => significantLines (lines text))
      = significantLines above := by
    unfold setupOf
    split
    · next hblank =>
      rw [significantLines_of_idle fun l hl => .inl (List.all_eq_true.mp hblank l hl)]
      rfl
    · rw [Option.toList_some, List.flatMap_singleton]
      exact significantLines_lines_join fun l hl => h.notMem_of_mem (List.mem_append_left _ hl)
  have hline : significantLines (line :: below) = significantLines [line] := by
    rw [← List.singleton_append, significantLines_append, significantLines_of_idle h.idle_below,
      List.append_nil]
  rw [Shape.texts, List.flatMap_append, habove, List.flatMap_singleton,
    h.significantLines_lines_trim, h.lines_eq, significantLines_append, hline]

end Cut

/-! ## Classification -/

section

variable {m : Type → Type} [Monad m] {code : String}

/-- At a cut the probe decides. -/
theorem Cut.shape_eq {above below : List String} {line : String} (h : Cut code above line below)
    (probe : String → m Bool) :
    shape probe code = (do
      if ← probe (trim line) then pure (.expression (setupOf above) (trim line))
      else pure .statements) := by
  have hcandidate : candidate? code = some ⟨above, trim line⟩ :=
    candidate?_eq_some_iff.mpr ⟨line, below, h, rfl⟩
  simp only [shape, hcandidate, Candidate.shape, setupOf, isBlankText_join]

/-- Where there is no cut, the probe is not asked. -/
theorem shape_eq_statements (h : ∀ above line below, ¬Cut code above line below)
    (probe : String → m Bool) : shape probe code = pure .statements := by
  have hnone : candidate? code = none := by
    cases hcandidate : candidate? code with
    | none => rfl
    | some c =>
      obtain ⟨line, below, hcut, -⟩ := candidate?_eq_some_iff.mp hcandidate
      exact absurd hcut (h _ _ _)
  simp only [shape, hnone]

end

end NotebookKernel.Source
