import Mathlib.Data.List.DropRight
import NotebookKernel.Proofs.Text.Pieces
import NotebookKernel.Source.Directive

/-!
# Directives in front of a text

A line in front of a trimmed text is a directive of which the text is the body, character for character:
`Source.Directive.ofCell?_append`. A text that starts with an exclamation mark is no directive.

`Source.Directive.Spells` is the grammar of a line with a directive, and `Source.Directive.ofCell?_grammar`
says that a directive is read off exactly such lines and loses nothing of the text.
-/

namespace NotebookKernel

namespace Text

/-- No character of a name is blank. -/
theorem isBlank_of_isWordChar {c : Char} (h : isWordChar c = true) : isBlank c = false := by
  have hall : ∀ n ∈ [0x20, 0x09, 0x0A, 0x0B, 0x0C, 0x0D, 0x85, 0xA0, 0x1680, 0x2000, 0x2001, 0x2002,
      0x2003, 0x2004, 0x2005, 0x2006, 0x2007, 0x2008, 0x2009, 0x200A, 0x2028, 0x2029, 0x202F, 0x205F,
      0x3000], isWordChar (Char.ofNat n) = false := by decide +kernel
  by_contra hblank
  have hword := hall c.toNat (by
    simp only [isBlank, Bool.not_eq_false, Bool.or_eq_true, Bool.and_eq_true, beq_iff_eq,
      decide_eq_true_eq] at hblank
    simp only [List.mem_cons, List.not_mem_nil, or_false]
    omega)
  rw [Char.ofNat_toNat, h] at hword
  cases hword

namespace Chars

theorem trimStart_cons {c : Char} (hc : isBlank c = false) (cs : List Char) :
    trimStart (c :: cs) = c :: cs :=
  List.dropWhile_cons_of_neg (by simp [hc])

theorem trimEnd_eq (cs : List Char) : trimEnd cs = cs.rdropWhile isBlank := rfl

theorem trimEnd_trim (cs : List Char) : trimEnd (trim cs) = trim cs :=
  List.rdropWhile_idempotent isBlank (trimStart cs)

/-- What stands before a text without blanks at its end keeps all of its own. -/
theorem trimEnd_append {cs : List Char} (hcs : cs ≠ []) (htrimmed : trimEnd cs = cs)
    (before : List Char) : trimEnd (before ++ cs) = before ++ cs := by
  rw [trimEnd_eq, List.rdropWhile_eq_self_iff] at htrimmed ⊢
  intro hne
  rw [List.getLast_append_of_ne_nil hne hcs]
  exact htrimmed hcs

/-- Where a text has no blanks at its end, only what follows it is trimmed. -/
theorem trimEnd_append_of_trimEnd_eq {cs : List Char} (htrimmed : trimEnd cs = cs)
    (more : List Char) : trimEnd (cs ++ more) = cs ++ trimEnd more := by
  have hreverse : cs.reverse.dropWhile isBlank = cs.reverse := by
    rw [← List.reverse_reverse (cs.reverse.dropWhile isBlank), ← trimEnd, htrimmed]
  unfold trimEnd
  rw [List.reverse_append, List.dropWhile_append]
  split
  · next hnil => rw [hreverse, List.isEmpty_iff.mp hnil]; simp
  · simp

/-- A character that is not blank stays at the start. -/
theorem trim_cons {c : Char} (hc : isBlank c = false) (cs : List Char) :
    trim (c :: cs) = c :: trimEnd cs := by
  rw [trim, trimStart_cons hc]
  have hc' : trimEnd [c] = [c] := by simp [trimEnd, hc]
  exact trimEnd_append_of_trimEnd_eq hc' cs

/-- Of a text that starts with blanks the blanks are trimmed first. -/
theorem trim_cons_of_isBlank {c : Char} (hc : isBlank c = true) (cs : List Char) :
    trim (c :: cs) = trim cs := by
  rw [trim, trimStart, List.dropWhile_cons_of_pos hc, ← trimStart, ← trim]

theorem trimEnd_eq_self {cs : List Char} (h : ∀ c ∈ cs, isBlank c = false) : trimEnd cs = cs := by
  rw [trimEnd_eq, List.rdropWhile_eq_self_iff]
  intro hne
  simpa using h _ (List.getLast_mem hne)

/-- What holds no blank and stands first stays as it is. -/
theorem trim_append_of_forall {cs : List Char} (hne : cs ≠ []) (h : ∀ c ∈ cs, isBlank c = false)
    (more : List Char) : trim (cs ++ more) = cs ++ trimEnd more := by
  obtain ⟨c, cs, rfl⟩ := List.exists_cons_of_ne_nil hne
  obtain ⟨hc, hcs⟩ := List.forall_mem_cons.mp h
  rw [List.cons_append, trim_cons hc, trimEnd_append_of_trimEnd_eq (trimEnd_eq_self hcs),
    List.cons_append]

theorem splitOnce?_append {c : Char} {head : List Char} (hc : c ∉ head) (body : List Char) :
    splitOnce? c (head ++ c :: body) = some (head, body) := by
  have hhead : ∀ d ∈ head, (d != c) = true :=
    fun d hd => bne_iff_ne.mpr (ne_of_mem_of_not_mem hd hc)
  simp [splitOnce?, List.dropWhile_append_of_pos hhead, List.takeWhile_append_of_pos hhead]

theorem splitOnce?_of_notMem {c : Char} {head : List Char} (hc : c ∉ head) :
    splitOnce? c head = none := by
  have hhead : ∀ d ∈ head, (d != c) = true :=
    fun d hd => bne_iff_ne.mpr (ne_of_mem_of_not_mem hd hc)
  rw [splitOnce?, List.dropWhile_eq_nil_iff.mpr hhead]

/-- The cut is at the first place where the character stands. -/
theorem splitOnce?_eq_some_iff {c : Char} {cs head body : List Char} :
    splitOnce? c cs = some (head, body) ↔ cs = head ++ c :: body ∧ c ∉ head := by
  constructor
  · intro h
    obtain ⟨happend, hholds, hstops⟩ := leadingRun_split (· != c) cs
    simp only [splitOnce?] at h
    split at h
    · cases h
    · next d rest hdrop =>
      cases h
      rw [hdrop] at happend hstops
      have hd : d = c := by simpa using hstops d rfl
      exact ⟨hd ▸ happend, fun hmem => by simpa using hholds c hmem⟩
  · rintro ⟨rfl, hc⟩
    exact splitOnce?_append hc body

/-- The part before a cut starts as the whole text does. -/
theorem splitOnce?_cons_fst {c d : Char} (hd : d ≠ c) {cs : List Char}
    {parts : List Char × List Char} (h : splitOnce? c (d :: cs) = some parts) :
    ∃ first, parts.1 = d :: first := by
  simp only [splitOnce?] at h
  split at h
  · cases h
  · cases h
    have hkept : (d != c) = true := bne_iff_ne.mpr hd
    exact ⟨_, List.takeWhile_cons_of_pos (p := (· != c)) hkept⟩

end Chars

/-- A text without blanks at its ends stays so behind what starts with no blank. -/
theorem trim_append {head body : String} {c : Char} (hhead : head.toList.head? = some c)
    (hc : isBlank c = false) (hne : body ≠ "") (htrimmed : trim body = body) :
    trim (head ++ body) = head ++ body := by
  obtain ⟨rest, hrest⟩ := List.head?_eq_some_iff.mp hhead
  have hchars : Chars.trim body.toList = body.toList := by
    rw [← String.toList_ofList (l := Chars.trim body.toList)]
    exact congrArg String.toList htrimmed
  have hend : Chars.trimEnd body.toList = body.toList := by
    rw [← hchars, Chars.trimEnd_trim]
  have hbody : body.toList ≠ [] := by simpa using hne
  rw [trim, String.toList_append, hrest, List.cons_append, Chars.trim_cons hc,
    Chars.trimEnd_append hbody hend, ← List.cons_append, ← hrest, ← String.toList_append,
    String.ofList_toList]

end Text

namespace Source.Directive

open Text

/-- A directive on a line of its own has the text below it for its body. -/
theorem ofCell?_append {head : String} (hline : '\n' ∉ head.toList) (body : String) :
    ofCell? (head ++ "\n" ++ body) = (ofCell? head).map fun d => { d with body } := by
  have hsplit : splitOnce? '\n' (head ++ "\n" ++ body) = some (head, body) := by
    simp [splitOnce?, Chars.splitOnce?_append hline]
  have hwhole : splitOnce? '\n' head = none := by
    simp [splitOnce?, Chars.splitOnce?_of_notMem hline]
  simp only [ofCell?, hsplit, hwhole, Option.getD_some, Option.getD_none]
  cases scope? (Chars.trim head.toList) with
  | none => rfl
  | some marked =>
    dsimp only
    split <;> rfl

/-- A text that starts with an exclamation mark is no directive. -/
theorem ofCell?_of_stripStart? {code command : String} (h : stripStart? "!" code = some command) :
    ofCell? code = none := by
  obtain ⟨rest, hrest⟩ : ∃ rest, code.toList = '!' :: rest := by
    simp only [stripStart?, Option.map_eq_some_iff, Chars.stripStart?_eq_some_iff] at h
    obtain ⟨rest, hrest, -⟩ := h
    exact ⟨rest, hrest⟩
  have hfirst : ∃ line, ((splitOnce? '\n' code).getD (code, "")).1.toList = '!' :: line := by
    cases hsplit : Chars.splitOnce? '\n' ('!' :: rest) with
    | none => exact ⟨rest, by simp [splitOnce?, hrest, hsplit]⟩
    | some parts =>
      obtain ⟨line, hline⟩ := Chars.splitOnce?_cons_fst (by decide) hsplit
      exact ⟨line, by simp [splitOnce?, hrest, hsplit, hline]⟩
  obtain ⟨line, hline⟩ := hfirst
  have hmarker : scope? (Chars.trim ('!' :: line)) = none := by
    rw [Chars.trim_cons (by decide)]
    rfl
  simp only [ofCell?, hline, hmarker]

/-- A directive is not empty, and is no command for the shell. -/
theorem of_ofCell?_eq_some {code : String} {d : Directive} (h : ofCell? code = some d) :
    code.isEmpty = false ∧ stripStart? "!" code = none := by
  constructor
  · by_contra hempty
    have hblank : code = "" := by simpa using hempty
    rw [hblank] at h
    cases h
  · by_contra hsome
    obtain ⟨command, hcommand⟩ := Option.ne_none_iff_exists'.mp hsome
    rw [ofCell?_of_stripStart? hcommand] at h
    cases h

/-! ## The grammar of a line with a directive -/

/-- The first line of a text without its line feed, and all that follows it. -/
structure FirstLine (code line body : String) : Prop where
  notMem : '\n' ∉ line.toList
  code_eq : code = line ++ "\n" ++ body ∨ code = line ∧ body = ""

/-- The line has a marker with a character of a name behind it. -/
def Announces (line : List Char) (scope : Scope) : Prop :=
  (∃ c rest, line = scope.marker.toList ++ c :: rest ∧ isWordChar c = true) ∧
    (scope = .line → ¬['%', '%'] <+: line)

/-- The line is a marker, the longest name behind it and a tail. -/
structure Spells (line : List Char) (scope : Scope) (name tail : List Char) : Prop where
  line_eq : line = scope.marker.toList ++ (name ++ tail)
  ne_nil : name ≠ []
  isWord : ∀ c ∈ name, isWordChar c = true
  stops : ∀ c ∈ tail.head?, isWordChar c = false
  marked : scope = .line → ¬['%', '%'] <+: line

theorem exists_firstLine (code : String) : ∃ line body, FirstLine code line body := by
  obtain ⟨line, rest, hrun⟩ : ∃ line rest, Chars.LeadingRun (· != '\n') code.toList line rest :=
    ⟨_, _, Chars.leadingRun_split _ _⟩
  have hline : '\n' ∉ (String.ofList line).toList := by
    rw [String.toList_ofList]
    exact fun hmem => absurd (hrun.holds _ hmem) (by decide)
  cases rest with
  | nil =>
    refine ⟨String.ofList line, "", hline, .inr ⟨?_, rfl⟩⟩
    rw [← String.ofList_toList (s := code), hrun.eq_append, List.append_nil]
  | cons c rest =>
    obtain rfl : c = '\n' := by simpa using hrun.stops c rfl
    refine ⟨String.ofList line, String.ofList rest, hline, .inl ?_⟩
    rw [← String.ofList_toList (s := code), hrun.eq_append]
    apply String.toList_injective
    simp

theorem exists_spells_iff {line : List Char} {scope : Scope} :
    (∃ name tail, Spells line scope name tail) ↔ Announces line scope := by
  constructor
  · rintro ⟨name, tail, hline, hne, hword, -, hmarked⟩
    obtain ⟨c, name, rfl⟩ := List.exists_cons_of_ne_nil hne
    exact ⟨⟨c, name ++ tail, hline, hword c List.mem_cons_self⟩, hmarked⟩
  · rintro ⟨⟨c, rest, hline, hc⟩, hmarked⟩
    obtain ⟨hrest, hword, hstops⟩ := Chars.leadingRun_split isWordChar (c :: rest)
    refine ⟨_, _, ?_, ?_, hword, hstops, hmarked⟩
    · rw [← hrest, hline]
    · simp [List.takeWhile_cons_of_pos hc]

theorem scope?_eq_some_iff {cs rest : List Char} {scope : Scope} :
    scope? cs = some (scope, rest) ↔
      cs = scope.marker.toList ++ rest ∧ (scope = .line → ¬['%', '%'] <+: cs) := by
  have hline : Scope.line.marker.toList = ['%'] := rfl
  have hcell : Scope.cell.marker.toList = ['%', '%'] := rfl
  unfold scope?
  split
  · next more => cases scope <;> simp [hline, hcell, eq_comm]
  · next more hdouble =>
    have hsingle : ¬['%', '%'] <+: '%' :: more := fun ⟨tail, htail⟩ => hdouble tail (List.cons.inj htail.symm).2
    cases scope with
    | line => simp [hline, hsingle, eq_comm]
    | cell =>
      simp only [Option.some.injEq, Prod.mk.injEq, reduceCtorEq, false_and, false_iff, not_and]
      rintro htwo
      exact absurd ⟨rest, htwo.symm⟩ hsingle
  · next hdouble hsingle =>
    cases scope with
    | line => simpa [hline] using fun h => absurd h (hsingle rest)
    | cell => simpa [hcell] using hdouble rest

/-- The directive of a cell is read off its first line, and the rest is its body. -/
theorem ofCell?_of_firstLine {code line body : String} (h : FirstLine code line body) :
    ofCell? code = (scope? (Chars.trim line.toList)).bind fun marked =>
      if marked.2.takeWhile isWordChar = [] then none
      else some {
        scope := marked.1
        name := lowercase (String.ofList (marked.2.takeWhile isWordChar))
        args := trim (String.ofList (marked.2.dropWhile isWordChar))
        body } := by
  have hsplit : (splitOnce? '\n' code).getD (code, "") = (line, body) := by
    rcases h.code_eq with rfl | ⟨rfl, rfl⟩
    · simp [splitOnce?, Chars.splitOnce?_append h.notMem]
    · simp [splitOnce?, Chars.splitOnce?_of_notMem h.notMem]
  simp only [ofCell?, hsplit, List.isEmpty_iff]
  cases scope? (Chars.trim line.toList) <;> rfl

theorem ofCell?_eq_some_iff {code line body : String} (h : FirstLine code line body) (d : Directive) :
    ofCell? code = some d ↔ ∃ name tail, Spells (Chars.trim line.toList) d.scope name tail ∧
      d.name = lowercase (String.ofList name) ∧ d.args = trim (String.ofList tail) ∧ d.body = body := by
  rw [ofCell?_of_firstLine h, Option.bind_eq_some_iff]
  constructor
  · rintro ⟨⟨scope, rest⟩, hscope, hd⟩
    obtain ⟨hline, hmarked⟩ := scope?_eq_some_iff.mp hscope
    obtain ⟨hrest, hword, hstops⟩ := Chars.leadingRun_split isWordChar rest
    split at hd
    · cases hd
    · next hne =>
      cases hd
      exact ⟨_, _, ⟨by rw [← hrest, hline], hne, hword, hstops, hmarked⟩, rfl, rfl, rfl⟩
  · rintro ⟨name, tail, ⟨hline, hne, hword, hstops, hmarked⟩, hname, hargs, hbody⟩
    obtain ⟨htaken, hdropped⟩ := Chars.LeadingRun.eq_split ⟨rfl, hword, hstops⟩
    refine ⟨(d.scope, name ++ tail), scope?_eq_some_iff.mpr ⟨hline, hmarked⟩, ?_⟩
    rw [← htaken, ← hdropped, if_neg hne, ← hname, ← hargs, ← hbody]

/-! ## Directives as they are written -/

theorem isBlank_of_mem_marker (scope : Scope) : ∀ c ∈ scope.marker.toList, isBlank c = false := by
  have hpercent : isBlank '%' = false := by decide
  cases scope <;> simp [Scope.marker, hpercent]

theorem lineFeed_notMem_marker (scope : Scope) : '\n' ∉ scope.marker.toList := by
  cases scope <;> decide

theorem not_percents_prefix {c : Char} (hc : isWordChar c = true) (rest : List Char) :
    ¬['%', '%'] <+: Scope.line.marker.toList ++ c :: rest := by
  rintro ⟨tail, htail⟩
  obtain rfl : '%' = c := (List.cons.inj (List.cons.inj htail).2).1
  exact absurd hc (by decide)

/-- A marker, a name in lower case, a space, trimmed arguments and a line feed are read as they stand. -/
theorem ofCell?_written {scope : Scope} {name args : String} (hne : name ≠ "")
    (hword : ∀ c ∈ name.toList, isWordChar c = true) (hlower : lowercase name = name)
    (hline : '\n' ∉ args.toList) (htrimmed : trim args = args) (body : String) :
    ofCell? (scope.marker ++ name ++ " " ++ args ++ "\n" ++ body) = some ⟨scope, name, args, body⟩ := by
  have hfirst : FirstLine (scope.marker ++ name ++ " " ++ args ++ "\n" ++ body)
      (scope.marker ++ name ++ " " ++ args) body := by
    refine ⟨?_, .inl rfl⟩
    simp only [String.toList_append, List.mem_append, not_or]
    exact ⟨⟨⟨lineFeed_notMem_marker scope, fun h => absurd (hword _ h) (by decide)⟩, by decide⟩, hline⟩
  have hmarked : scope.marker.toList ++ name.toList ≠ [] := by
    simp [hne]
  have hkept : Chars.trim (scope.marker ++ name ++ " " ++ args).toList
      = scope.marker.toList ++ (name.toList ++ Chars.trimEnd (' ' :: args.toList)) := by
    have hchars : (scope.marker ++ name ++ " " ++ args).toList
        = (scope.marker.toList ++ name.toList) ++ ' ' :: args.toList := by simp
    rw [hchars, Chars.trim_append_of_forall hmarked, List.append_assoc]
    exact List.forall_mem_append.mpr
      ⟨isBlank_of_mem_marker scope, fun c hc => isBlank_of_isWordChar (hword c hc)⟩
  refine (ofCell?_eq_some_iff hfirst _).mpr
    ⟨name.toList, Chars.trimEnd (' ' :: args.toList), ⟨hkept, by simpa using hne, hword, ?_, ?_⟩,
      by rw [String.ofList_toList, hlower], ?_, rfl⟩
  · -- The tail starts with the space, or it is empty.
    intro c hc
    obtain ⟨kept, htail⟩ := List.head?_eq_some_iff.mp (Option.mem_def.mp hc)
    obtain ⟨dropped, happend⟩ := List.rdropWhile_prefix isBlank (' ' :: args.toList)
    rw [← Chars.trimEnd_eq, htail] at happend
    obtain rfl : c = ' ' := (List.cons.inj happend).1
    decide
  · rintro rfl
    obtain ⟨c, rest, hname⟩ := List.exists_cons_of_ne_nil (l := name.toList) (by simpa using hne)
    rw [hkept, hname]
    exact not_percents_prefix (hword c (by simp [hname])) _
  · rw [trim, String.toList_ofList, Chars.trim_trimEnd, Chars.trim_cons_of_isBlank (by decide),
      ← trim, htrimmed]

/-- Every text has a first line and a body, and it has a directive exactly if the first line, trimmed,
announces one: then the line is the marker, the longest name and a tail, of which the directive has the
name in lower case and the tail trimmed, with the body as it stands. A directive that is written in this
way, with a name in lower case and trimmed arguments, is read as it was written. -/
theorem ofCell?_grammar :
    (∀ code, ∃ line body, FirstLine code line body ∧
      (ofCell? code ≠ none ↔ ∃ scope, Announces (Chars.trim line.toList) scope) ∧
      ∀ d, ofCell? code = some d ↔ ∃ name tail, Spells (Chars.trim line.toList) d.scope name tail ∧
        d.name = lowercase (String.ofList name) ∧ d.args = trim (String.ofList tail) ∧
        d.body = body) ∧
    ∀ (scope : Scope) (name args body : String), name ≠ "" →
      (∀ c ∈ name.toList, isWordChar c = true) → lowercase name = name → '\n' ∉ args.toList →
      trim args = args →
      ofCell? (scope.marker ++ name ++ " " ++ args ++ "\n" ++ body) = some ⟨scope, name, args, body⟩ := by
  refine ⟨fun code => ?_, fun scope name args body hne hword hlower hline htrimmed =>
    ofCell?_written hne hword hlower hline htrimmed body⟩
  obtain ⟨line, body, hfirst⟩ := exists_firstLine code
  refine ⟨line, body, hfirst, ?_, ofCell?_eq_some_iff hfirst⟩
  constructor
  · intro hsome
    obtain ⟨d, hd⟩ := Option.ne_none_iff_exists'.mp hsome
    obtain ⟨name, tail, hspells, -⟩ := (ofCell?_eq_some_iff hfirst d).mp hd
    exact ⟨d.scope, exists_spells_iff.mp ⟨name, tail, hspells⟩⟩
  · rintro ⟨scope, hannounces⟩
    obtain ⟨name, tail, hspells⟩ := exists_spells_iff.mpr hannounces
    have hd := (ofCell?_eq_some_iff hfirst
      ⟨scope, lowercase (String.ofList name), trim (String.ofList tail), body⟩).mpr
        ⟨name, tail, hspells, rfl, rfl, rfl⟩
    rw [hd]
    exact Option.some_ne_none _

/-- A name with an accent, arguments with blanks in them and a body that looks like a directive. -/
theorem ofCell?_grammar_of_accent :
    ofCell? "%%été x = 'a  b'\r!\n%pwd\n" = some ⟨.cell, "été", "x = 'a  b'\r!", "%pwd\n"⟩ :=
  ofCell?_grammar.2 .cell "été" "x = 'a  b'\r!" "%pwd\n" (by decide)
    (List.all_eq_true.mp (by decide +kernel)) (by decide +kernel) (by decide) (by decide +kernel)

end Source.Directive

end NotebookKernel
