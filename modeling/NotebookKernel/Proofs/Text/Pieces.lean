import Mathlib.Data.List.DropRight
import NotebookKernel.Notebook.Document

/-!
# Cutting a text and putting it together again

Splitting at a character and joining with it gives the text back, and so does splitting after the
line feeds and putting the lines one after another. A document therefore keeps every text that is
stored in it as a list of lines.

No line holds a line feed (`Text.Chars.notMem_of_mem_lines`), and what ends a line consists of blanks, so
a line is the same but for blanks at its end whether its end is kept or dropped
(`Text.Chars.trimEnd_dropLineEnd`).
-/

namespace NotebookKernel

namespace Text

namespace Chars

theorem splitOn_ne_nil (p : Char → Bool) (cs : List Char) : splitOn p cs ≠ [] := by
  cases cs with
  | nil => simp [splitOn]
  | cons c rest =>
    unfold splitOn
    split
    · simp
    · split <;> simp

theorem intercalate_splitOn (c : Char) (cs : List Char) :
    List.intercalate [c] (splitOn (· == c) cs) = cs := by
  induction cs with
  | nil => simp [splitOn, List.intercalate]
  | cons a rest ih =>
    obtain ⟨piece, pieces, hsplit⟩ := List.exists_cons_of_ne_nil (splitOn_ne_nil (· == c) rest)
    rw [hsplit] at ih
    by_cases h : a = c
    · subst h
      simp [splitOn, hsplit, List.intercalate_cons_cons, ih]
    · have hcut : splitOn (· == c) (a :: rest) = (a :: piece) :: pieces := by
        simp [splitOn, h, hsplit]
      rw [hcut]
      cases pieces with
      | nil => simpa using ih
      | cons next pieces => simpa [List.intercalate_cons_cons] using ih

/-- At a character where it is cut, the text may be cut into two first. -/
theorem splitOn_append_cons {p : Char → Bool} {c : Char} (hc : p c = true) (a b : List Char) :
    splitOn p (a ++ c :: b) = splitOn p a ++ splitOn p b := by
  induction a with
  | nil => simp [splitOn, hc]
  | cons x a ih =>
    rw [List.cons_append, splitOn, splitOn, ih]
    by_cases hx : p x = true
    · simp [hx]
    · obtain ⟨piece, pieces, hsplit⟩ := List.exists_cons_of_ne_nil (splitOn_ne_nil p a)
      simp [hx, hsplit]

theorem splitOn_of_forall {p : Char → Bool} {cs : List Char} (h : ∀ c ∈ cs, p c = false) :
    splitOn p cs = [cs] := by
  induction cs with
  | nil => rfl
  | cons c rest ih =>
    have hrest := ih fun x hx => h x (List.mem_cons_of_mem _ hx)
    simp [splitOn, hrest, h c List.mem_cons_self]

theorem notMem_of_mem_splitOn {c : Char} {cs piece : List Char} (h : piece ∈ splitOn (· == c) cs) :
    c ∉ piece := by
  induction cs generalizing piece with
  | nil =>
    rw [List.mem_singleton.mp h]
    exact List.not_mem_nil
  | cons a rest ih =>
    obtain ⟨first, pieces, hsplit⟩ := List.exists_cons_of_ne_nil (splitOn_ne_nil (· == c) rest)
    rw [hsplit] at ih
    obtain ⟨hfirst, hpieces⟩ := List.forall_mem_cons.mp fun _ => ih
    rw [splitOn, hsplit] at h
    split at h
    · rcases List.mem_cons.mp h with rfl | h
      · exact List.not_mem_nil
      · exact ih h
    · next hne =>
      rcases List.mem_cons.mp h with rfl | h
      · rw [List.mem_cons, not_or]
        exact ⟨fun heq => hne (beq_iff_eq.mpr heq.symm), hfirst⟩
      · exact hpieces _ h

theorem contains_singleton (c : Char) (cs : List Char) : contains [c] cs = true ↔ c ∈ cs := by
  induction cs with
  | nil => simp [contains]
  | cons x rest ih => simp [contains, ih, List.isPrefixOf]

theorem contains_iff {part cs : List Char} : contains part cs = true ↔ part <:+: cs := by
  induction cs with
  | nil => simp [contains]
  | cons c rest ih => simp [contains, ih, List.infix_cons_iff]

/-- Only the last piece may lack its line feed. -/
theorem endsInLineFeed_of_mem_dropLast {cs piece : List Char}
    (h : piece ∈ (splitInclusive cs).dropLast) : ∃ line, piece = line ++ ['\n'] := by
  induction cs generalizing piece with
  | nil => simp [splitInclusive] at h
  | cons c rest ih =>
    unfold splitInclusive at h
    split at h
    · cases hrest : splitInclusive rest with
      | nil => simp [hrest] at h
      | cons next pieces =>
        rw [hrest, List.dropLast_cons_cons] at h
        rcases List.mem_cons.mp h with rfl | h
        · exact ⟨[], rfl⟩
        · exact ih (hrest ▸ h)
    · cases hrest : splitInclusive rest with
      | nil => simp [hrest] at h
      | cons next pieces =>
        cases pieces with
        | nil => simp [hrest] at h
        | cons next' pieces =>
          rw [hrest] at h
          simp only [List.dropLast_cons_cons, List.mem_cons] at h
          rw [hrest] at ih
          rcases h with rfl | h
          · have hnext : next ∈ (next :: next' :: pieces).dropLast := by simp
            obtain ⟨line, hline⟩ := ih hnext
            exact ⟨c :: line, by simp [hline]⟩
          · exact ih (by simpa using Or.inr h)

/-! ## The run at the start -/

/-- The longest part at the start of a text of which all characters satisfy `p`, and what follows it. -/
structure LeadingRun (p : Char → Bool) (cs run rest : List Char) : Prop where
  eq_append : cs = run ++ rest
  holds : ∀ c ∈ run, p c = true
  stops : ∀ c ∈ rest.head?, p c = false

theorem LeadingRun.eq_split {p : Char → Bool} {cs run rest : List Char} (h : LeadingRun p cs run rest) :
    run = cs.takeWhile p ∧ rest = cs.dropWhile p := by
  obtain ⟨rfl, hholds, hstops⟩ := h
  rw [List.takeWhile_append_of_pos hholds, List.dropWhile_append_of_pos hholds]
  cases rest with
  | nil => simp
  | cons c rest => simp [hstops c rfl]

theorem leadingRun_split (p : Char → Bool) (cs : List Char) :
    LeadingRun p cs (cs.takeWhile p) (cs.dropWhile p) := by
  refine ⟨List.takeWhile_append_dropWhile.symm, fun c hc => List.mem_takeWhile_imp hc, ?_⟩
  intro c hc
  have hhead := List.head?_dropWhile_not p cs
  rw [Option.mem_def.mp hc] at hhead
  simpa using hhead

/-! ## Blanks at the end -/

theorem trimEnd_append_blanks {blanks : List Char} (h : ∀ c ∈ blanks, isBlank c = true)
    (cs : List Char) : trimEnd (cs ++ blanks) = trimEnd cs := by
  rw [trimEnd, List.reverse_append, List.dropWhile_append_of_pos fun c hc =>
    h c (List.mem_reverse.mp hc), ← trimEnd]

theorem trim_append_blanks {blanks : List Char} (h : ∀ c ∈ blanks, isBlank c = true)
    (cs : List Char) : trim (cs ++ blanks) = trim cs := by
  have hblanks : blanks.dropWhile isBlank = [] := List.dropWhile_eq_nil_iff.mpr h
  unfold trim trimStart
  rw [List.dropWhile_append]
  split
  · next hnil => rw [hblanks, List.isEmpty_iff.mp hnil]
  · exact trimEnd_append_blanks h _

/-- Where blanks at the end make no difference, those at the start make none either. -/
theorem trim_trimEnd (cs : List Char) : trim (trimEnd cs) = trim cs := by
  have hcs : trimEnd cs ++ cs.rtakeWhile isBlank = cs := List.rdropWhile_append_rtakeWhile
  have hblank : ∀ c ∈ cs.rtakeWhile isBlank, isBlank c = true := fun _ => List.mem_rtakeWhile_imp
  conv_rhs => rw [← hcs, trim_append_blanks hblank]

theorem mem_of_mem_trimEnd {cs : List Char} {c : Char} (h : c ∈ trimEnd cs) : c ∈ cs :=
  (List.rdropWhile_prefix isBlank cs).subset h

theorem isBlank_lineFeed : ∀ c ∈ ['\n'], isBlank c = true := by
  simp only [List.mem_singleton, forall_eq]
  decide

theorem isBlank_lineEnd : ∀ c ∈ ['\r', '\n'], isBlank c = true :=
  List.forall_mem_cons.mpr ⟨by decide, isBlank_lineFeed⟩

/-- The end of a line that is dropped consists of blanks. -/
theorem exists_append_dropLineEnd (line : List Char) :
    ∃ ending, dropLineEnd line ++ ending = line ∧ ∀ c ∈ ending, isBlank c = true := by
  unfold dropLineEnd
  split
  · next rest h =>
    exact ⟨['\r', '\n'], by simpa using (congrArg List.reverse h).symm, isBlank_lineEnd⟩
  · next rest _ h =>
    exact ⟨['\n'], by simpa using (congrArg List.reverse h).symm, isBlank_lineFeed⟩
  · exact ⟨[], List.append_nil _, by simp⟩

theorem trimEnd_dropLineEnd (line : List Char) : trimEnd (dropLineEnd line) = trimEnd line := by
  obtain ⟨ending, hline, hblank⟩ := exists_append_dropLineEnd line
  conv_rhs => rw [← hline, trimEnd_append_blanks hblank]

theorem dropLineEnd_of_notMem {line : List Char} (h : '\n' ∉ line) : dropLineEnd line = line := by
  unfold dropLineEnd
  split
  · next rest hrest => exact absurd (by simpa using congrArg ('\n' ∈ ·) hrest) h
  · next rest _ hrest => exact absurd (by simpa using congrArg ('\n' ∈ ·) hrest) h
  · rfl

/-! ## Lines one after another -/

theorem splitInclusive_append {line : List Char} (h : '\n' ∉ line) (rest : List Char) :
    splitInclusive (line ++ '\n' :: rest) = (line ++ ['\n']) :: splitInclusive rest := by
  induction line with
  | nil => simp [splitInclusive]
  | cons c line ih =>
    obtain ⟨hc, hline⟩ := not_or.mp (List.mem_cons.not.mp h)
    simp [splitInclusive, ih hline, Ne.symm hc]

theorem splitInclusive_of_notMem {line : List Char} (h : '\n' ∉ line) (hne : line ≠ []) :
    splitInclusive line = [line] := by
  induction line with
  | nil => exact absurd rfl hne
  | cons c line ih =>
    obtain ⟨hc, hline⟩ := not_or.mp (List.mem_cons.not.mp h)
    cases line with
    | nil => simp [splitInclusive, Ne.symm hc]
    | cons d line => rw [splitInclusive, if_neg (Ne.symm hc), ih hline (List.cons_ne_nil _ _)]

theorem lines_append {line : List Char} (h : '\n' ∉ line) (rest : List Char) :
    lines (line ++ '\n' :: rest) = dropLineEnd (line ++ ['\n']) :: lines rest := by
  rw [lines, splitInclusive_append h, List.map_cons, ← lines]

theorem lines_of_notMem {line : List Char} (h : '\n' ∉ line) (hne : line ≠ []) :
    lines line = [line] := by
  rw [lines, splitInclusive_of_notMem h hne, List.map_singleton, dropLineEnd_of_notMem h]

/-- A line feed is dropped with the carriage return before it, if there is one. -/
theorem dropLineEnd_concat (line : List Char) :
    dropLineEnd (line ++ ['\n']) = line ∨ dropLineEnd (line ++ ['\n']) ++ ['\r'] = line := by
  have hreverse : (line ++ ['\n']).reverse = '\n' :: line.reverse := by simp
  unfold dropLineEnd
  rw [hreverse]
  split
  · next rest h =>
    refine .inr ?_
    simpa using (congrArg List.reverse (List.cons.inj h).2).symm
  · next rest _ h =>
    refine .inl ?_
    simpa using (congrArg List.reverse (List.cons.inj h).2).symm
  · next h => exact absurd rfl (h line.reverse)

theorem exists_line_of_mem_splitInclusive {cs piece : List Char} (h : piece ∈ splitInclusive cs) :
    ∃ line, '\n' ∉ line ∧ (piece = line ∨ piece = line ++ ['\n']) := by
  induction cs generalizing piece with
  | nil => simp [splitInclusive] at h
  | cons c rest ih =>
    unfold splitInclusive at h
    split at h
    · rcases List.mem_cons.mp h with rfl | h
      · exact ⟨[], by simp, .inr rfl⟩
      · exact ih h
    next hc =>
      have hextended {line : List Char} (hline : '\n' ∉ line) : '\n' ∉ c :: line :=
        List.not_mem_cons_of_ne_of_not_mem (Ne.symm hc) hline
      split at h
      · rw [List.mem_singleton.mp h]
        exact ⟨[c], hextended (by simp), .inl rfl⟩
      next first pieces hpieces =>
        rw [hpieces] at ih
        rcases List.mem_cons.mp h with rfl | h
        · obtain ⟨line, hline, rfl | rfl⟩ := ih List.mem_cons_self
          · exact ⟨c :: first, hextended hline, .inl rfl⟩
          · exact ⟨c :: line, hextended hline, .inr rfl⟩
        · exact ih (List.mem_cons_of_mem _ h)

/-- No line holds a line feed. -/
theorem notMem_of_mem_lines {cs line : List Char} (h : line ∈ lines cs) : '\n' ∉ line := by
  obtain ⟨piece, hpiece, rfl⟩ := List.mem_map.mp h
  obtain ⟨line, hline, rfl | rfl⟩ := exists_line_of_mem_splitInclusive hpiece
  · rwa [dropLineEnd_of_notMem hline]
  · rcases dropLineEnd_concat line with hdrop | hdrop
    · rwa [hdrop]
    · exact fun hmem => hline (hdrop ▸ List.mem_append_left _ hmem)

end Chars

theorem toList_join (separator : String) (parts : List String) :
    (join separator parts).toList
      = List.intercalate separator.toList (parts.map String.toList) := by
  induction parts with
  | nil => simp [join, List.intercalate]
  | cons s rest ih =>
    cases rest with
    | nil => simp [join, List.intercalate]
    | cons t rest =>
      have hjoin : join separator (s :: t :: rest) = s ++ separator ++ join separator (t :: rest) :=
        rfl
      rw [hjoin, String.toList_append, String.toList_append, ih]
      simp only [List.map_cons, List.intercalate_cons_cons, List.append_assoc]

theorem join_cons_of_ne_nil (separator s : String) {rest : List String} (h : rest ≠ []) :
    join separator (s :: rest) = s ++ separator ++ join separator rest := by
  obtain ⟨t, rest, rfl⟩ := List.exists_cons_of_ne_nil h
  rfl

theorem prefix_join (separator s : String) (rest : List String) :
    s.toList <+: (join separator (s :: rest)).toList := by
  cases rest with
  | nil => exact List.prefix_rfl
  | cons t rest =>
    rw [join_cons_of_ne_nil separator s (List.cons_ne_nil t rest), String.append_assoc, String.toList_append]
    exact List.prefix_append _ _

theorem join_cons_inj {separator s : String} {parts parts' : List String}
    (hlength : parts.length = parts'.length)
    (h : join separator (s :: parts) = join separator (s :: parts')) :
    join separator parts = join separator parts' := by
  rcases parts with _ | ⟨t, parts⟩ <;> rcases parts' with _ | ⟨t', parts'⟩
  · rfl
  · simp at hlength
  · simp at hlength
  · rw [join_cons_of_ne_nil _ _ (List.cons_ne_nil _ _), join_cons_of_ne_nil _ _ (List.cons_ne_nil _ _)] at h
    exact String.append_right_inj _ |>.mp h

theorem toList_concat (parts : List String) :
    (concat parts).toList = (parts.map String.toList).flatten := by
  induction parts with
  | nil => rfl
  | cons s rest ih =>
    have hcons : concat (s :: rest) = s ++ concat rest := rfl
    rw [hcons, String.toList_append, ih]
    rfl

/-- Joining undoes splitting. -/
theorem join_splitOn (c : Char) (s : String) : join (String.ofList [c]) (splitOn c s) = s := by
  apply String.toList_injective
  rw [toList_join, splitOn, List.map_map]
  have hid : String.toList ∘ String.ofList = id := by funext cs; simp
  rw [hid, List.map_id, String.toList_ofList, Chars.intercalate_splitOn]

/-- Splitting a text that was joined splits its parts. -/
theorem splitOn_join (c : Char) {parts : List String} (hne : parts ≠ []) :
    splitOn c (join (String.ofList [c]) parts) = parts.flatMap (splitOn c) := by
  induction parts with
  | nil => exact absurd rfl hne
  | cons s rest ih =>
    by_cases hrest : rest = []
    · simp [hrest, join]
    · rw [List.flatMap_cons, ← ih hrest, join_cons_of_ne_nil _ _ hrest]
      simp only [splitOn, String.toList_append, String.toList_ofList, List.append_assoc,
        List.singleton_append]
      rw [Chars.splitOn_append_cons (p := (· == c)) (beq_self_eq_true c), List.map_append]

theorem splitOn_of_notMem {c : Char} {s : String} (h : c ∉ s.toList) : splitOn c s = [s] := by
  have hkept : ∀ a ∈ s.toList, (a == c) = false := by
    intro a ha
    rw [beq_eq_false_iff_ne]
    rintro rfl
    exact h ha
  rw [splitOn, Chars.splitOn_of_forall hkept, List.map_singleton, String.ofList_toList]

/-- The parts come back one by one if none of them has the separator in it, and only then. -/
theorem flatMap_splitOn_eq_iff {c : Char} {parts : List String} :
    parts.flatMap (splitOn c) = parts ↔ ∀ s ∈ parts, c ∉ s.toList := by
  constructor
  · intro h s hs
    rw [← h] at hs
    obtain ⟨part, -, hs⟩ := List.mem_flatMap.mp hs
    obtain ⟨piece, hpiece, rfl⟩ := List.mem_map.mp hs
    rw [String.toList_ofList]
    exact Chars.notMem_of_mem_splitOn hpiece
  · intro h
    rw [List.flatMap_congr fun s hs => splitOn_of_notMem (h s hs), List.flatMap_singleton']

theorem concat_splitInclusive (s : String) : concat (splitInclusive s) = s := by
  apply String.toList_injective
  rw [toList_concat, splitInclusive, List.map_map]
  have hid : String.toList ∘ String.ofList = id := by funext cs; simp
  rw [hid, List.map_id, Chars.flatten_splitInclusive]

end Text

namespace Multiline

/-- A text comes back from its lines. -/
theorem toText_ofText (text : String) : (ofText text).toText = text := by
  have hends : (Text.splitInclusive text).dropLast.all (Text.endsWith "\n") = true := by
    rw [Text.splitInclusive, ← List.map_dropLast, List.all_map, List.all_eq_true]
    intro piece hpiece
    obtain ⟨line, rfl⟩ := Text.Chars.endsInLineFeed_of_mem_dropLast hpiece
    simp [Text.endsWith]
  simp only [ofText, toText, hends, if_true]
  exact Text.concat_splitInclusive text

end Multiline

end NotebookKernel
