import Mathlib
import NotebookKernel.Text.Character

/-!
# Lower case twice

The capitals are the characters that a row of `Text.capitals` covers. Lower-casing leaves a text without
capitals as it is, and leaves no capital in any text, since no row leads to a character that a row covers:
`Text.lowercase_lowercase`.
-/

namespace NotebookKernel.Text

/-- All rows of capitals: the ASCII letters, the capital I with a dot above, and those of the table. -/
def capitals : List CaseRow :=
  ⟨0x41, 0x5A, 1, 32⟩ :: ⟨0x130, 0x130, 1, -199⟩ :: lowercaseRows

/-- Whether the code point is one of a capital. -/
def isCapital (n : Nat) : Bool := capitals.any (·.covers n)

theorem isCapital_of_covers {row : CaseRow} (hrow : row ∈ capitals) {n : Nat}
    (hn : row.covers n = true) : isCapital n = true :=
  List.any_eq_true.mpr ⟨row, hrow, hn⟩

/-! ## No row leads to a capital -/

/-- Where a row leads to, and what another one covers, have nothing in common: they lie apart, or the small
letters of the first stand between the capitals of the second. -/
def CaseRow.clearOf (row other : CaseRow) : Bool :=
  Nat.blt (row.last + row.offset).toNat other.first || Nat.blt other.last (row.first + row.offset).toNat
    || ((row.stride == 2 || row.first == row.last) && other.stride == 2
      && (row.first + row.offset - other.first) % 2 != 0)

theorem CaseRow.covers_eq_false_of_clearOf {row other : CaseRow} (h : row.clearOf other = true) {n m : Nat}
    (hn : row.covers n = true) (hm : (m : Int) = n + row.offset) : other.covers m = false := by
  by_contra hcovers
  rw [Bool.not_eq_false] at hcovers
  simp only [clearOf, covers, Bool.or_eq_true, Bool.and_eq_true, Nat.blt_eq, decide_eq_true_eq, beq_iff_eq,
    bne_iff_ne] at h hn hcovers
  obtain ⟨⟨hfirst, hlast⟩, hstep⟩ := hn
  obtain ⟨⟨hfirst', hlast'⟩, hstep'⟩ := hcovers
  rcases h with (h | h) | ⟨⟨hstride | hsingle, hstride'⟩, hparity⟩
  · omega
  · omega
  · rw [hstride] at hstep
    rw [hstride'] at hstep'
    omega
  · rw [hstride'] at hstep'
    omega

theorem clearOf_capitals : ∀ row ∈ capitals, ∀ other ∈ capitals, row.clearOf other = true := by
  have hall : (capitals.all fun row => capitals.all row.clearOf) = true := by decide +kernel
  intro row hrow
  exact List.all_eq_true.mp (List.all_eq_true.mp hall row hrow)

/-- What a row makes of a capital is none. -/
theorem isCapital_ofNat_of_covers {row : CaseRow} (hrow : row ∈ capitals) {n : Nat}
    (hn : row.covers n = true) : isCapital (Char.ofNat (n + row.offset).toNat).toNat = false := by
  have hzero : isCapital 0 = false := by decide +kernel
  rw [Char.toNat_ofNat]
  split
  · by_cases hpositive : (0 : Int) ≤ n + row.offset
    · rw [isCapital, List.any_eq_false]
      intro other hother
      have hclear := CaseRow.covers_eq_false_of_clearOf (clearOf_capitals row hrow other hother) hn
        (Int.toNat_of_nonneg hpositive)
      simp [hclear]
    · rw [Int.toNat_of_nonpos (by omega), hzero]
  · exact hzero

/-! ## Single characters -/

theorem le_first_of_mem_lowercaseRows : ∀ row ∈ lowercaseRows, 128 ≤ row.first := by decide +kernel

/-- A character below the table is a capital if it is one of ASCII. -/
theorem isCapital_of_lt {n : Nat} (hn : n < 128) : isCapital n = true ↔ 0x41 ≤ n ∧ n ≤ 0x5A := by
  constructor
  · intro h
    obtain ⟨row, hrow, hcovers⟩ := List.any_eq_true.mp h
    simp only [CaseRow.covers, Bool.and_eq_true, decide_eq_true_eq] at hcovers
    obtain ⟨⟨hfirst, hlast⟩, -⟩ := hcovers
    simp only [capitals, List.mem_cons] at hrow
    rcases hrow with rfl | rfl | hrow
    · exact ⟨hfirst, hlast⟩
    · exact absurd (Nat.lt_of_le_of_lt hfirst hn) (by decide)
    · have hbeyond := le_first_of_mem_lowercaseRows row hrow
      omega
  · rintro ⟨hfirst, hlast⟩
    refine isCapital_of_covers List.mem_cons_self ?_
    simp [CaseRow.covers, hfirst, hlast, Nat.mod_one]

/-- Beyond ASCII, a character is a capital if it is the dotted one or the table has a row for it. -/
theorem isCapital_of_le {n : Nat} (hn : 128 ≤ n) :
    isCapital n = true ↔ n = 0x130 ∨ ∃ row ∈ lowercaseRows, row.covers n = true := by
  have hascii : CaseRow.covers ⟨0x41, 0x5A, 1, 32⟩ n = false := by
    simp only [CaseRow.covers, Bool.and_eq_false_iff, decide_eq_false_iff_not]
    omega
  have hdotted : CaseRow.covers ⟨0x130, 0x130, 1, -199⟩ n = true ↔ n = 0x130 := by
    simp only [CaseRow.covers, Bool.and_eq_true, decide_eq_true_eq, beq_iff_eq]
    omega
  rw [isCapital, capitals, List.any_cons, List.any_cons, hascii, Bool.false_or, Bool.or_eq_true, hdotted,
    List.any_eq_true]

theorem isUpper_iff {c : Char} : c.isUpper = true ↔ 0x41 ≤ c.toNat ∧ c.toNat ≤ 0x5A :=
  decide_eq_true_iff

theorem lowercaseChar_of_not_isCapital {c : Char} (h : isCapital c.toNat = false) :
    lowercaseChar c = [c] := by
  unfold lowercaseChar
  split
  · next hascii =>
    have hnot : ¬c.isUpper = true := by
      rw [isUpper_iff, ← isCapital_of_lt hascii, h]
      exact Bool.false_ne_true
    rw [Char.toLower_eq_of_not_isUpper hnot]
  · next hbeyond =>
    rw [← Bool.not_eq_true, isCapital_of_le (Nat.le_of_not_lt hbeyond), not_or] at h
    have hnone : lowercaseRows.find? (·.covers c.toNat) = none :=
      List.find?_eq_none.mpr fun row hrow hcovers => h.2 ⟨row, hrow, hcovers⟩
    rw [if_neg h.1, hnone]

/-- Lower-casing a character gives no capital. -/
theorem isCapital_of_mem_lowercaseChar {c d : Char} (h : d ∈ lowercaseChar c) :
    isCapital d.toNat = false := by
  cases hcapital : isCapital c.toNat with
  | false =>
    rw [lowercaseChar_of_not_isCapital hcapital, List.mem_singleton] at h
    rw [h, hcapital]
  | true =>
    unfold lowercaseChar at h
    split at h
    · next hascii =>
      have hletter := (isCapital_of_lt hascii).mp hcapital
      have hcovers : CaseRow.covers ⟨0x41, 0x5A, 1, 32⟩ c.toNat = true := by
        simp [CaseRow.covers, hletter, Nat.mod_one]
      rw [List.mem_singleton.mp h, Char.toLower_eq_of_isUpper (isUpper_iff.mpr hletter)]
      exact isCapital_ofNat_of_covers List.mem_cons_self hcovers
    next hbeyond =>
    split at h
    · simp only [List.mem_cons, List.not_mem_nil, or_false] at h
      rcases h with rfl | rfl <;> decide +kernel
    next hdotted =>
    obtain ⟨row, hrow, hcovers⟩ :=
      ((isCapital_of_le (Nat.le_of_not_lt hbeyond)).mp hcapital).resolve_left hdotted
    cases hfound : lowercaseRows.find? (·.covers c.toNat) with
    | none => exact absurd hcovers (List.find?_eq_none.mp hfound row hrow)
    | some row =>
      have hmem : row ∈ capitals :=
        List.mem_cons_of_mem _ (List.mem_cons_of_mem _ (List.mem_of_find?_eq_some hfound))
      rw [hfound] at h
      rw [List.mem_singleton.mp h]
      exact isCapital_ofNat_of_covers hmem (by simpa using List.find?_some hfound)

/-! ## Texts -/

theorem toNat_ne_sigma {c : Char} (h : isCapital c.toNat = false) : c.toNat ≠ 0x3A3 := by
  intro hsigma
  rw [hsigma] at h
  exact absurd h (by decide +kernel)

/-- A text without capitals is in lower case. -/
theorem lowercaseFrom_of_forall {before cs : List Char} (h : ∀ c ∈ cs, isCapital c.toNat = false) :
    lowercaseFrom before cs = cs := by
  induction cs generalizing before with
  | nil => rfl
  | cons c rest ih =>
    obtain ⟨hc, hrest⟩ := List.forall_mem_cons.mp h
    rw [lowercaseFrom, if_neg (toNat_ne_sigma hc), lowercaseChar_of_not_isCapital hc, ih hrest]
    rfl

/-- A text in lower case has no capitals. The two forms of sigma are none. -/
theorem isCapital_of_mem_lowercaseFrom {before cs : List Char} {c : Char}
    (h : c ∈ lowercaseFrom before cs) : isCapital c.toNat = false := by
  induction cs generalizing before with
  | nil => cases h
  | cons d rest ih =>
    rw [lowercaseFrom, List.mem_append] at h
    rcases h with h | h
    · split at h
      · split at h <;> rw [List.mem_singleton.mp h] <;> decide +kernel
      · exact isCapital_of_mem_lowercaseChar h
    · exact ih h

/-- Lower-casing once is enough. -/
theorem lowercase_lowercase (s : String) : lowercase (lowercase s) = lowercase s := by
  rw [lowercase, lowercase, String.toList_ofList,
    lowercaseFrom_of_forall fun _ hc => isCapital_of_mem_lowercaseFrom hc]

/-! ## Lengths -/

/-- How many characters a character has in lower case, wherever it stands. -/
def lowercaseLength (c : Char) : Nat :=
  if c.toNat = 0x3A3 then 1 else (lowercaseChar c).length

theorem lowercaseLength_pos (c : Char) : 0 < lowercaseLength c := by
  unfold lowercaseLength lowercaseChar
  repeat' split
  all_goals simp

theorem length_lowercaseFrom_cons (before : List Char) (c : Char) (rest : List Char) :
    (lowercaseFrom before (c :: rest)).length
      = lowercaseLength c + (lowercaseFrom (c :: before) rest).length := by
  rw [lowercaseFrom, List.length_append, lowercaseLength]
  congr 1
  repeat' split
  all_goals rfl

theorem length_lowercaseFrom (before before' cs : List Char) :
    (lowercaseFrom before cs).length = (lowercaseFrom before' cs).length := by
  induction cs generalizing before before' with
  | nil => rfl
  | cons c rest ih => rw [length_lowercaseFrom_cons, length_lowercaseFrom_cons, ih]

theorem length_lowercaseFrom_append (before cs ds : List Char) :
    (lowercaseFrom before (cs ++ ds)).length
      = (lowercaseFrom before cs).length + (lowercaseFrom [] ds).length := by
  induction cs generalizing before with
  | nil =>
    rw [List.nil_append, length_lowercaseFrom before []]
    exact (Nat.zero_add _).symm
  | cons c rest ih =>
    rw [List.cons_append, length_lowercaseFrom_cons, length_lowercaseFrom_cons, ih, Nat.add_assoc]

/-- Of two spellings of a name, none goes on where the other ends. -/
theorem eq_of_isPrefix_of_lowercase_eq {a b : String} (h : lowercase a = lowercase b)
    (hstart : a.toList <+: b.toList) : a = b := by
  obtain ⟨rest, hb⟩ := hstart
  have hlength := congrArg (fun s : String => s.toList.length) h
  simp only [lowercase, String.toList_ofList, ← hb, length_lowercaseFrom_append] at hlength
  cases rest with
  | nil => exact String.toList_injective (by rw [← hb, List.append_nil])
  | cons c rest =>
    have hpos := lowercaseLength_pos c
    rw [length_lowercaseFrom_cons] at hlength
    omega

/-- Two sigmas at the ends of words, and a letter whose lower-case form takes two characters. -/
example : lowercase "ΟΔΟΣ Σ İ" = "οδος σ i̇" := by decide +kernel

end NotebookKernel.Text
