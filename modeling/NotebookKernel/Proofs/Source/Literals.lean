import NotebookKernel.Act
import NotebookKernel.Proofs.Source.Cuts

/-!
# Cuts and string literals

`Source.Place` is where a reader of the source stands: in the code, in a comment or in a string literal,
which ends with its line unless three quotes began it. A line that may be shown never begins in a literal
of the first kind, since the line above it would have to end in a backslash. It may begin in one of the
second kind: `Source.cut_outside_short_literals` and the cell after it.
-/

namespace NotebookKernel.Source

open Text

inductive Quote where
  | single
  | double
  deriving DecidableEq, Repr

namespace Quote

def char : Quote → Char
  | single => '\''
  | double => '"'

def ofChar? (c : Char) : Option Quote :=
  if c = '\'' then some single else if c = '"' then some double else none

theorem ofChar?_eq_some_iff {c : Char} {q : Quote} : ofChar? c = some q ↔ c = q.char := by
  unfold ofChar?
  split
  · next h => cases q <;> simp [h, char]
  · next hsingle =>
    split
    · next h => cases q <;> simp [h, char]
    · next hdouble => cases q <;> simp [char, hsingle, hdouble]

end Quote

/-- Where a reader of the source stands. -/
inductive Place where
  | code
  | comment
  /-- Behind the first quote of a literal. -/
  | opened (quote : Quote)
  /-- Behind two quotes, an empty literal unless a third one follows. -/
  | openedTwice (quote : Quote)
  /-- In a literal that ends with its line. -/
  | short (quote : Quote)
  /-- Behind a backslash in such a literal. -/
  | shortEscape (quote : Quote)
  /-- Behind a backslash and a carriage return, to which a line feed would belong. -/
  | shortReturn (quote : Quote)
  /-- In a literal that three quotes began, and behind so many of those that would end it. -/
  | long (quote : Quote) (closing : Nat)
  | longEscape (quote : Quote)
  deriving DecidableEq, Repr

namespace Place

/-- Reads a character outside of all literals and comments. -/
def inCode (c : Char) : Place :=
  if c = '#' then .comment
  else match Quote.ofChar? c with
    | some q => .opened q
    | none => .code

/-- Reads a character in a literal that ends with its line. -/
def inShort (q : Quote) (c : Char) : Place :=
  if c = '\\' then .shortEscape q
  else if c = q.char || c = '\n' || c = '\r' then .code
  else .short q

/-- Reads a character. -/
def step : Place → Char → Place
  | .code, c => inCode c
  | .comment, c => if c = '\n' || c = '\r' then .code else .comment
  | .opened q, c => if c = q.char then .openedTwice q else inShort q c
  | .openedTwice q, c => if c = q.char then .long q 0 else inCode c
  | .short q, c => inShort q c
  | .shortEscape q, c => if c = '\r' then .shortReturn q else .short q
  | .shortReturn q, c => if c = '\n' then .short q else inShort q c
  | .long q closing, c =>
    if c = '\\' then .longEscape q
    else if c = q.char then if closing = 2 then .code else .long q (closing + 1)
    else .long q 0
  | .longEscape q, _ => .long q 0

/-- Where a reader stands that has read a text from its start. -/
def after (cs : List Char) : Place := cs.foldl step .code

theorem after_concat (cs : List Char) (c : Char) : after (cs ++ [c]) = (after cs).step c := by
  rw [after, List.foldl_append]
  rfl

/-! ## What was read on the way -/

/-- What a reader has read who stands there: the last characters, and somewhere in the text the three
quotes that began a literal. -/
def Seen (cs : List Char) : Place → Prop
  | .opened q => [q.char] <:+ cs
  | .openedTwice q => [q.char, q.char] <:+ cs
  | .shortEscape _ => ['\\'] <:+ cs
  | .shortReturn _ => ['\\', '\r'] <:+ cs
  | .long q _ => [q.char, q.char, q.char] <:+: cs
  | .longEscape q => [q.char, q.char, q.char] <:+: cs
  | _ => True

theorem seen_inCode (cs : List Char) (c : Char) : (inCode c).Seen (cs ++ [c]) := by
  unfold inCode
  split
  · trivial
  · split
    · next q hq =>
      obtain rfl := Quote.ofChar?_eq_some_iff.mp hq
      exact List.suffix_append _ _
    · trivial

theorem seen_inShort (q : Quote) (cs : List Char) (c : Char) : (inShort q c).Seen (cs ++ [c]) := by
  unfold inShort
  split
  · next hc =>
    rw [hc]
    exact List.suffix_append _ _
  · split <;> trivial

theorem Seen.step {place : Place} {cs : List Char} (h : place.Seen cs) (c : Char) :
    (place.step c).Seen (cs ++ [c]) := by
  have hlonger {l : List Char} (hl : l <:+: cs) : l <:+: cs ++ [c] :=
    hl.trans (List.prefix_append _ _).isInfix
  cases place with
  | code => exact seen_inCode cs c
  | comment =>
    rw [Place.step]
    split <;> trivial
  | opened q =>
    rw [Place.step]
    split
    · next hc =>
      subst hc
      exact List.suffix_append_self_iff.mpr h
    · exact seen_inShort q cs c
  | openedTwice q =>
    rw [Place.step]
    split
    · next hc =>
      subst hc
      exact (List.suffix_append_self_iff.mpr h).isInfix
    · exact seen_inCode cs c
  | short q => exact seen_inShort q cs c
  | shortEscape q =>
    rw [Place.step]
    split
    · next hc =>
      rw [hc]
      exact List.suffix_append_self_iff.mpr h
    · trivial
  | shortReturn q =>
    rw [Place.step]
    split
    · trivial
    · exact seen_inShort q cs c
  | long q closing =>
    rw [Place.step]
    split
    · exact hlonger h
    · split
      · split
        · trivial
        · exact hlonger h
      · exact hlonger h
  | longEscape q => exact hlonger h

theorem seen_after (cs : List Char) : (after cs).Seen cs := by
  induction cs using List.reverseRecOn with
  | nil => trivial
  | append_singleton cs c ih =>
    rw [after_concat]
    exact ih.step c

/-! ## Literals that end with their line -/

/-- A literal that ends with its line goes on behind a line end, since a backslash stands before it. -/
def Pending : Place → Prop
  | .shortEscape _ => True
  | .shortReturn _ => True
  | _ => False

/-- At the start of a line a reader stands in the code or in a literal that three quotes began. -/
def AtLineStart (place : Place) : Prop := place = .code ∨ ∃ q, place = .long q 0

theorem atLineStart_step {place : Place} (h : ¬place.Pending) : (place.step '\n').AtLineStart := by
  have hq (q : Quote) : '\n' ≠ q.char := by cases q <;> decide
  cases place with
  | code => exact .inl rfl
  | comment => exact .inl rfl
  | opened q => exact .inl (by simp [step, inShort, hq])
  | openedTwice q => exact .inl (by rw [step, if_neg (hq q)]; rfl)
  | short q => exact .inl (by simp [step, inShort])
  | shortEscape => exact absurd trivial h
  | shortReturn => exact absurd trivial h
  | long q => exact .inr ⟨q, by simp [step, hq]⟩
  | longEscape q => exact .inr ⟨q, rfl⟩

theorem exists_suffix_of_pending {cs : List Char} (h : (after cs).Pending) :
    ∃ blanks, (∀ c ∈ blanks, c = '\r') ∧ '\\' :: blanks <:+ cs := by
  have hseen := seen_after cs
  cases hplace : after cs with
  | shortEscape q =>
    rw [hplace] at hseen
    exact ⟨[], by simp, hseen⟩
  | shortReturn q =>
    rw [hplace] at hseen
    exact ⟨['\r'], by simp, hseen⟩
  | _ =>
    rw [hplace] at h
    exact h.elim

end Place

/-! ## The start of the final line -/

/-- The first so many lines of a cell, with their ends. -/
def textAbove (code : String) (count : Nat) : List Char :=
  ((Chars.splitInclusive code.toList).take count).flatten

theorem suffix_of_lineFeed_notMem {cs line ending : List Char} (h : '\n' ∉ ending)
    (hsuffix : ending <:+ cs ++ '\n' :: line) : ending <:+ line := by
  rcases List.suffix_or_suffix_of_suffix hsuffix (List.suffix_append cs ('\n' :: line)) with hin | hout
  · rcases List.suffix_cons_iff.mp hin with rfl | hin
    · exact absurd List.mem_cons_self h
    · exact hin
  · exact absurd (hout.subset List.mem_cons_self) h

/-- A piece that ends in a backslash and blanks before its line feed hands its statement on. -/
theorem continues_of_suffix {core blanks : List Char} (hblanks : ∀ c ∈ blanks, isBlank c = true)
    (h : '\\' :: blanks <:+ core) :
    continues (String.ofList (Chars.dropLineEnd (core ++ ['\n']))) = true := by
  obtain ⟨before, rfl⟩ := h
  have hend : Chars.trimEnd (before ++ '\\' :: blanks) = before ++ ['\\'] := by
    rw [List.append_cons, Chars.trimEnd_append_blanks hblanks]
    exact Chars.trimEnd_append (by simp) (by decide) before
  rw [continues, String.toList_ofList, Chars.trimEnd_dropLineEnd,
    Chars.trimEnd_append_blanks Chars.isBlank_lineFeed, hend, List.getLast?_concat]
  rfl

/-- The text above a line is cut into pieces that end in a line feed. -/
theorem Cut.exists_pieces {code line : String} {above below : List String}
    (h : Cut code above line below) :
    ∃ pieces : List (List Char), textAbove code above.length = pieces.flatten ∧
      above = pieces.map (fun piece => String.ofList (Chars.dropLineEnd piece)) ∧
      ∀ piece ∈ pieces, ∃ core, piece = core ++ ['\n'] := by
  have hlines : (Chars.splitInclusive code.toList).map
      (fun piece => String.ofList (Chars.dropLineEnd piece)) = above ++ line :: below := by
    rw [← h.lines_eq, lines, Chars.lines, List.map_map]
    rfl
  obtain ⟨pieces, rest, hpieces, habove, hrest⟩ := List.map_eq_append_iff.mp hlines
  obtain ⟨piece, rest, rfl, -, -⟩ := List.map_eq_cons_iff.mp hrest
  refine ⟨pieces, ?_, habove.symm, fun first hfirst => ?_⟩
  · rw [textAbove, hpieces, ← habove, List.length_map, List.take_left']
    rfl
  · have hmem : first ∈ (Chars.splitInclusive code.toList).dropLast := by
      rw [hpieces, List.dropLast_append_cons]
      exact List.mem_append_left _ hfirst
    exact Chars.endsInLineFeed_of_mem_dropLast hmem

/-- The line at a cut does not begin in a literal that ends with its line. -/
theorem Cut.atLineStart {code line : String} {above below : List String}
    (h : Cut code above line below) :
    (Place.after (textAbove code above.length)).AtLineStart := by
  obtain ⟨pieces, htext, habove, hends⟩ := h.exists_pieces
  have hcontinued := h.not_continued
  rw [htext]
  cases pieces using List.reverseRecOn with
  | nil => exact .inl rfl
  | append_singleton pieces piece =>
    obtain ⟨core, rfl⟩ := hends piece (by simp)
    rw [List.flatten_concat, ← List.append_assoc, Place.after_concat]
    refine Place.atLineStart_step fun hpending => ?_
    obtain ⟨blanks, hblanks, hsuffix⟩ := Place.exists_suffix_of_pending hpending
    -- The backslash stands in the last of the pieces, since the one before ends in a line feed.
    have hcore : '\\' :: blanks <:+ core := by
      cases pieces using List.reverseRecOn with
      | nil => exact hsuffix
      | append_singleton pieces piece =>
        obtain ⟨core', rfl⟩ := hends piece (by simp)
        rw [List.flatten_concat, ← List.append_assoc, ← List.append_cons] at hsuffix
        refine suffix_of_lineFeed_notMem ?_ hsuffix
        simp only [List.mem_cons, not_or]
        exact ⟨by decide, fun hmem => absurd (hblanks _ hmem) (by decide)⟩
    have hhandsOn := continues_of_suffix (fun c hc => by rw [hblanks c hc]; decide) hcore
    rw [habove, List.map_append, List.map_singleton, List.getLast?_concat, Option.any_some,
      hhandsOn] at hcontinued
    cases hcontinued

/-- A cell is split only at a cut. -/
theorem exists_cut_of_shape {σ : Type} {probe : String → Act σ Bool} {code final : String}
    {setup : Option String} {s : σ} (h : (shape probe code s).1 = some (.expression setup final)) :
    ∃ above line below, Cut code above line below ∧ setup = setupOf above ∧ final = trim line := by
  rcases exists_cut_or_forall_not code with ⟨above, line, below, hcut⟩ | hnone
  · rw [hcut.shape_eq] at h
    rcases hprobe : probe (trim line) s with ⟨_ | accepted, t⟩
    · rw [Act.bind_run_of_none hprobe] at h
      cases h
    · rw [Act.bind_run_of_some hprobe] at h
      cases accepted with
      | false => cases h
      | true =>
        cases h
        exact ⟨above, line, below, hcut, rfl, rfl⟩
  · rw [shape_eq_statements hnone] at h
    cases h

/-- Whatever the probe answers, the line of which the value is shown does not begin in a literal that
ends with its line, nor in a comment. It begins in the code, unless three quotes above it began a literal
that is open there. -/
theorem cut_outside_short_literals {σ : Type} (probe : String → Act σ Bool) (code : String) (s : σ)
    (setup : Option String) (final : String)
    (h : (shape probe code s).1 = some (.expression setup final)) :
    ∃ above line below, Cut code above line below ∧ setup = setupOf above ∧ final = trim line ∧
      let before := textAbove code above.length
      (Place.after before = .code ∨
        ∃ q, Place.after before = .long q 0 ∧ [q.char, q.char, q.char] <:+: before) := by
  obtain ⟨above, line, below, hcut, hsetup, hfinal⟩ := exists_cut_of_shape h
  refine ⟨above, line, below, hcut, hsetup, hfinal, ?_⟩
  refine hcut.atLineStart.imp_right fun ⟨q, hlong⟩ => ⟨q, hlong, ?_⟩
  have hseen := Place.seen_after (textAbove code above.length)
  rwa [hlong] at hseen

theorem cut_outside_short_literals_of_hash :
    (shape (fun _ => (pure true : Act Unit Bool)) "x = '# \\''\nx" ()).1
        = some (.expression (some "x = '# \\''") "x") ∧
      ∃ above line below, Cut "x = '# \\''\nx" above line below ∧
        some "x = '# \\''" = setupOf above ∧ "x" = trim line ∧
        let before := textAbove "x = '# \\''\nx" above.length
        (Place.after before = .code ∨
          ∃ q, Place.after before = .long q 0 ∧ [q.char, q.char, q.char] <:+: before) :=
  have hshape : (shape (fun _ => (pure true : Act Unit Bool)) "x = '# \\''\nx" ()).1
      = some (.expression (some "x = '# \\''") "x") := by
    decide +kernel
  ⟨hshape, cut_outside_short_literals _ _ _ _ _ hshape⟩

/-- An assignment of a literal of which the last line looks like a comment. -/
def hashedLiteral : String := "x = \"\"\"\nfoo\n# \"\"\""

/-- The assignment is one statement, with its literal closed at the end, and is cut in the middle of the
literal. -/
theorem cut_inside_long_literal :
    Cut hashedLiteral ["x = \"\"\""] "foo" ["# \"\"\""] ∧
      (shape (fun _ => (pure true : Act Unit Bool)) hashedLiteral ()).1
        = some (.expression (some "x = \"\"\"") "foo") ∧
      Place.after (textAbove hashedLiteral 1) = .long .double 0 ∧
      Place.after hashedLiteral.toList = .code := by
  refine ⟨⟨?_, ?_, ?_, ?_, ?_, ?_⟩, ?_, ?_, ?_⟩ <;> decide +kernel

end NotebookKernel.Source
