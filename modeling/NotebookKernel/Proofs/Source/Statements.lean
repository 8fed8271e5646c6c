import NotebookKernel.Proofs.Text.Pieces
import NotebookKernel.Source.Shape

/-!
# Lines that look like a statement

`Source.Spot` is where a reader of one line stands who takes one character after the other: in the code,
in a literal or in a comment. The scan for an assignment goes through a line in jumps, over what a
backslash hides and over the second half of a comparison; it finds the equals signs in the code that stand
alone and behind no operator character (`Source.hasBareAssignment_iff`), which are the ones that are part
of no operator (`Source.EqualsSign.isIsolated_iff`). `Source.looksLikeStatement_iff` is the rule for lines.
-/

namespace NotebookKernel.Source

open Text

/-- Where a reader of a line stands. -/
inductive Spot where
  | code
  | literal (quote : Char)
  /-- Behind a backslash in a literal. -/
  | escape (quote : Char)
  | comment
  deriving DecidableEq, Repr

namespace Spot

/-- Reads a character. -/
def step : Spot → Char → Spot
  | .code, c => if c = '\'' || c = '"' then .literal c else if c = '#' then .comment else .code
  | .literal q, c => if c = '\\' then .escape q else if c = q then .code else .literal q
  | .escape q, _ => .literal q
  | .comment, _ => .comment

/-- Where a reader stands who has read so much of a line. -/
def after (cs : List Char) : Spot := cs.foldl step .code

/-- Where the scan stands between two of its jumps. -/
def within : Option Char → Spot
  | none => .code
  | some q => .literal q

/-- A comment goes on to the end of the line. -/
theorem foldl_step_comment (cs : List Char) : cs.foldl step .comment = .comment := by
  induction cs with
  | nil => rfl
  | cons c cs ih => exact ih

end Spot

/-- From this spot, behind the character `before`, a reader meets an equals sign in the code that stands
alone and behind no operator character. -/
def Meets (spot : Spot) (before : Option Char) (cs : List Char) : Prop :=
  ∃ ahead behind, cs = ahead ++ '=' :: behind ∧ ahead.foldl Spot.step spot = .code ∧
    behind.head? ≠ some '=' ∧ (ahead.getLast?.or before).any operatorLeads.contains = false

theorem not_meets_nil (spot : Spot) (before : Option Char) : ¬Meets spot before [] := by
  rintro ⟨ahead, behind, hline, -⟩
  simp at hline

theorem getLast?_cons_or (c : Char) (ahead : List Char) (before : Option Char) :
    (c :: ahead).getLast?.or before = ahead.getLast?.or (some c) := by
  cases h : ahead.getLast? <;> simp [List.getLast?_cons, h]

/-- The reader meets it at once or after the first character. -/
theorem meets_cons_iff {spot : Spot} {before : Option Char} {c : Char} {cs : List Char} :
    Meets spot before (c :: cs) ↔
      (c = '=' ∧ spot = .code ∧ cs.head? ≠ some '=' ∧ before.any operatorLeads.contains = false) ∨
        Meets (spot.step c) (some c) cs := by
  constructor
  · rintro ⟨ahead, behind, hline, hcode, halone, hlead⟩
    cases ahead with
    | nil =>
      obtain ⟨rfl, rfl⟩ := List.cons.inj hline
      exact .inl ⟨rfl, hcode, halone, hlead⟩
    | cons d ahead =>
      obtain ⟨rfl, rfl⟩ := List.cons.inj hline
      rw [getLast?_cons_or] at hlead
      exact .inr ⟨ahead, behind, rfl, hcode, halone, hlead⟩
  · rintro (⟨rfl, rfl, halone, hlead⟩ | ⟨ahead, behind, rfl, hcode, halone, hlead⟩)
    · exact ⟨[], cs, rfl, rfl, halone, hlead⟩
    · rw [← getLast?_cons_or c ahead before] at hlead
      exact ⟨c :: ahead, behind, rfl, hcode, halone, hlead⟩

/-- A character that is no equals sign in the code is passed over. -/
theorem meets_cons_of_pass {spot : Spot} {before : Option Char} {c : Char} {cs : List Char}
    (h : c = '=' → spot ≠ .code) :
    Meets spot before (c :: cs) ↔ Meets (spot.step c) (some c) cs := by
  rw [meets_cons_iff, or_iff_right]
  rintro ⟨hc, hspot, -⟩
  exact h hc hspot

theorem not_meets_comment (before : Option Char) (cs : List Char) : ¬Meets .comment before cs := by
  rintro ⟨ahead, behind, -, hcode, -⟩
  rw [Spot.foldl_step_comment] at hcode
  cases hcode

/-- The scan answers as a reader does who takes one character after the other. -/
theorem assigns_iff (quote before : Option Char) (cs : List Char) :
    assigns quote before cs = true ↔ Meets (.within quote) before cs := by
  fun_induction assigns quote before cs with
  | case1 quote before => simp [not_meets_nil]
  | case2 quote before c => cases quote <;> simp [meets_cons_iff, not_meets_nil, Spot.within]
  | case3 before d rest q ih =>
    -- What the backslash hides is read with it.
    rw [ih, Spot.within, meets_cons_of_pass (by simp), meets_cons_of_pass (by simp [Spot.step])]
    rfl
  | case4 before c d rest q hc ih =>
    have hread : (Spot.literal q).step c = .within (if c = q then none else some q) := by
      rw [Spot.step, if_neg hc]
      split <;> rfl
    rw [ih, ← hread]
    exact (meets_cons_of_pass (by simp)).symm
  | case5 before c d rest hquote ih =>
    have hsign : c ≠ '=' := by
      rintro rfl
      simp at hquote
    rw [ih, Spot.within, Spot.within, meets_cons_of_pass fun h => absurd h hsign, Spot.step,
      if_pos hquote]
  | case6 before d rest =>
    rw [Spot.within, meets_cons_of_pass (by simp)]
    simp [Spot.step, not_meets_comment]
  | case7 before rest _ _ ih =>
    -- Of two equals signs the first does not stand alone, and the second stands behind an operator
    -- character.
    rw [ih, Spot.within, meets_cons_iff, meets_cons_iff]
    simp [Spot.step, operatorLeads]
  | case8 before d rest hd _ _ ih =>
    rw [Bool.or_eq_true, ih, Spot.within, meets_cons_iff (c := '=')]
    simp [Spot.step, hd]
  | case9 before c d rest hquote hnumber hsign ih =>
    rw [ih, Spot.within, meets_cons_of_pass fun h => absurd h hsign, Spot.step, if_neg hquote,
      if_neg hnumber]

/-! ## Equals signs and operators -/

/-- An equals sign of a line that stands in the code. -/
structure EqualsSign (line : List Char) where
  before : List Char
  behind : List Char
  line_eq : line = before ++ '=' :: behind
  in_code : Spot.after before = .code

/-- The comparisons, the augmented assignments and the assignment within an expression. -/
def equalsOperators : List String := [
  "==", "!=", "<=", ">=", "+=", "-=", "*=", "/=", "//=", "%=", "@=", "&=", "|=", "^=", ">>=", "<<=",
  "**=", ":="]

namespace EqualsSign

variable {line : List Char}

/-- The sign is a run of its own, and no operator character stands before it. -/
structure IsIsolated (s : EqualsSign line) : Prop where
  alone_before : s.before.getLast? ≠ some '='
  alone_behind : s.behind.head? ≠ some '='
  no_lead : ∀ c ∈ s.before.getLast?, c ∉ operatorLeads

/-- The sign belongs to an occurrence of the operator. -/
def IsPartOf (s : EqualsSign line) (operator : String) : Prop :=
  ∃ left right, operator.toList = left ++ '=' :: right ∧ left <:+ s.before ∧ right <+: s.behind

/-- Wherever an operator has its equals sign, there is another one behind it or an operator character
before it. -/
theorem lead_or_alone_of_mem {operator : String} (h : operator ∈ equalsOperators)
    {left right : List Char} (heq : operator.toList = left ++ '=' :: right) :
    (∃ c ∈ left.getLast?, c ∈ operatorLeads) ∨ right.head? = some '=' := by
  have hall : ∀ op ∈ equalsOperators, ∀ i < op.toList.length, op.toList[i]? = some '=' →
      (op.toList.take i).getLast?.any operatorLeads.contains = true ∨
        (op.toList.drop (i + 1)).head? = some '=' := by
    decide +kernel
  have hplace := hall operator h left.length (by simp [heq]) (by simp [heq])
  simpa [heq, Option.any_eq_true] using hplace

/-- An isolated sign is one that is part of no operator. -/
theorem isIsolated_iff (s : EqualsSign line) :
    s.IsIsolated ↔ ∀ operator ∈ equalsOperators, ¬s.IsPartOf operator := by
  constructor
  · rintro h operator hmem ⟨left, right, heq, ⟨earlier, hleft⟩, later, hright⟩
    rcases lead_or_alone_of_mem hmem heq with ⟨c, hc, hlead⟩ | halone
    · refine h.no_lead c ?_ hlead
      rw [← hleft]
      exact List.mem_getLast?_append_of_mem_getLast? hc
    · refine h.alone_behind ?_
      rw [← hright]
      simp [List.head?_append, halone]
  · intro h
    have hlead : ∀ c ∈ s.before.getLast?, c ∉ operatorLeads := by
      intro c hc hmem
      have hall : operatorLeads.all (fun c => equalsOperators.contains (String.ofList [c, '='])) = true := by
        decide +kernel
      have hoperator : String.ofList [c, '='] ∈ equalsOperators := by
        simpa using List.all_eq_true.mp hall c hmem
      obtain ⟨earlier, hearlier⟩ := List.getLast?_eq_some_iff.mp hc
      exact h _ hoperator ⟨[c], [], by simp, ⟨earlier, hearlier.symm⟩, List.nil_prefix⟩
    refine ⟨fun hequals => hlead '=' hequals (by decide), fun hequals => ?_, hlead⟩
    obtain ⟨later, hlater⟩ := List.head?_eq_some_iff.mp hequals
    exact h "==" (by decide) ⟨[], ['='], rfl, List.nil_suffix, later, hlater.symm⟩

end EqualsSign

theorem any_operatorLeads_eq_false_iff (before : Option Char) :
    before.any operatorLeads.contains = false ↔ ∀ c ∈ before, c ∉ operatorLeads := by
  cases before <;> simp

/-- The scan finds the isolated equals signs. -/
theorem hasBareAssignment_iff (line : List Char) :
    hasBareAssignment line = true ↔ ∃ s : EqualsSign line, s.IsIsolated := by
  rw [hasBareAssignment, assigns_iff]
  constructor
  · rintro ⟨ahead, behind, hline, hcode, halone, hlead⟩
    rw [Option.or_none, any_operatorLeads_eq_false_iff] at hlead
    exact ⟨⟨ahead, behind, hline, hcode⟩, fun h => hlead _ h (by decide), halone, hlead⟩
  · rintro ⟨⟨before, behind, hline, hcode⟩, -, halone, hlead⟩
    refine ⟨before, behind, hline, hcode, halone, ?_⟩
    rwa [Option.or_none, any_operatorLeads_eq_false_iff]

/-! ## The rule for lines -/

/-- The line begins with a statement keyword, or with a `print` before a parenthesis, a blank or nothing. -/
def BeginsStatement (line : List Char) : Prop :=
  ∃ word rest, Chars.LeadingRun isWordChar line word rest ∧
    (String.ofList word ∈ statementKeywords ∨
      String.ofList word = "print" ∧ ∀ c ∈ rest.head?, c = '(' ∨ isBlank c = true)

theorem startsWithKeyword_iff (line : List Char) :
    startsWithKeyword line = true ↔ BeginsStatement line := by
  have hkeyword : startsWithKeyword line = true ↔
      String.ofList (line.takeWhile isWordChar) ∈ statementKeywords ∨
        String.ofList (line.takeWhile isWordChar) = "print" ∧
          ∀ c ∈ (line.dropWhile isWordChar).head?, c = '(' ∨ isBlank c = true := by
    unfold startsWithKeyword
    cases line.dropWhile isWordChar <;> simp
  rw [hkeyword]
  constructor
  · exact fun h => ⟨_, _, Chars.leadingRun_split _ _, h⟩
  · rintro ⟨word, rest, hrun, h⟩
    obtain ⟨rfl, rfl⟩ := hrun.eq_split
    exact h

/-- A line looks like a statement exactly if, without the blanks around it, an equals sign stands in its
code that is isolated, which means that it is part of no operator, or its first word is a keyword, or
`print` as a statement, or a colon ends it. -/
theorem looksLikeStatement_iff (line : String) :
    let cs := Chars.trim line.toList
    (looksLikeStatement line = true ↔
      (∃ s : EqualsSign cs, s.IsIsolated) ∨ BeginsStatement cs ∨ cs.getLast? = some ':') ∧
    ∀ s : EqualsSign cs, s.IsIsolated ↔ ∀ operator ∈ equalsOperators, ¬s.IsPartOf operator := by
  intro cs
  refine ⟨?_, EqualsSign.isIsolated_iff⟩
  rw [← hasBareAssignment_iff, ← startsWithKeyword_iff]
  simp only [looksLikeStatement, Bool.or_eq_true, beq_iff_eq, or_assoc, cs]

end NotebookKernel.Source
