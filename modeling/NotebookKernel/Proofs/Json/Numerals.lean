import NotebookKernel.Json.Writer
import NotebookKernel.Json.Numeral

/-!
# Integers are read back

A number is legible when reading its text stops at its end and gives the number again, whatever follows
that is no part of a numeral. Integers of 64 bits are.
-/

namespace NotebookKernel.Json

/-- What follows a numeral does not go on with it. -/
def Stops (rest : List Char) : Prop :=
  ∀ c ∈ rest.head?, c.isDigit = false ∧ c ≠ '.' ∧ c ≠ 'e' ∧ c ≠ 'E'

/-- The text of the number is read up to its end, as the number itself. -/
def Number.Legible (n : Number) : Prop :=
  ∀ rest, Stops rest → ∃ numeral, numeral? (n.chars ++ rest) = some (numeral, rest) ∧
    numeral.value? = some n

/-- A number that is an integer of 64 bits, with a sign or without one. -/
def Number.Integral : Number → Prop
  | .int n => -(Nat.pow 2 63 : Int) ≤ n ∧ n < (Nat.pow 2 64 : Int)
  | .float _ => False

theorem stops_nil : Stops [] := by
  rintro c ⟨⟩

theorem stops_cons {c : Char} {rest : List Char}
    (h : c.isDigit = false ∧ c ≠ '.' ∧ c ≠ 'e' ∧ c ≠ 'E') : Stops (c :: rest) := by
  rintro _ ⟨⟩
  exact h

/-- Digits in front of anything else are the longest run of digits. -/
theorem digits?_append {ds rest : List Char} (hds : ∀ d ∈ ds, d.isDigit = true) (hne : ds ≠ [])
    (hrest : ∀ c ∈ rest.head?, c.isDigit = false) : digits? (ds ++ rest) = some (ds, rest) := by
  have htake : (ds ++ rest).takeWhile Char.isDigit = ds := by
    rw [List.takeWhile_append_of_pos hds]
    cases rest with
    | nil => simp
    | cons c rest => simp [hrest c rfl]
  have hdrop : (ds ++ rest).dropWhile Char.isDigit = rest := by
    rw [List.dropWhile_append_of_pos hds]
    cases rest with
    | nil => rfl
    | cons c rest => simp [hrest c rfl]
  rw [digits?, htake, hdrop]
  cases ds with
  | nil => exact absurd rfl hne
  | cons d ds => rfl

theorem ofDigitChars_mono {ds : List Char} {m n : Nat} (h : m ≤ n) :
    m ≤ Nat.ofDigitChars 10 ds n := by
  rw [Nat.ofDigitChars_eq_ofDigitChars_zero]
  have := Nat.le_mul_of_pos_left n (Nat.pow_pos (n := ds.length) (show 0 < 10 by decide))
  omega

/-- Where the whole number has room, all digits are taken. -/
theorem absorbDigits_of_le {ds : List Char} {significand : Nat}
    (h : Nat.ofDigitChars 10 ds significand ≤ maxSignificand) :
    absorbDigits significand ds = (Nat.ofDigitChars 10 ds significand, []) := by
  induction ds generalizing significand with
  | nil => rfl
  | cons d ds ih =>
    rw [Nat.ofDigitChars_cons] at h ⊢
    have hroom : 10 * significand + (d.toNat - 48) ≤ maxSignificand :=
      Nat.le_trans (ofDigitChars_mono (Nat.le_refl _)) h
    rw [absorbDigits, if_pos hroom]
    exact ih h

/-- Only zero is written with a zero in front. -/
theorem eq_zero_of_head?_toDigits {n : Nat} (h : (Nat.toDigits 10 n).head? = some '0') : n = 0 := by
  induction n using Nat.strongRecOn with
  | ind n ih =>
    rw [Nat.toDigits_eq_if (by decide)] at h
    split at h
    · next hlt =>
      have hdigit : ∀ n < 10, [Nat.digitChar n].head? = some '0' → n = 0 := by decide
      exact hdigit n hlt h
    · next hge =>
      have hhead : (Nat.toDigits 10 (n / 10)).head? = some '0' := by
        cases hds : Nat.toDigits 10 (n / 10) with
        | nil => exact absurd hds Nat.toDigits_ne_nil
        | cons d ds => simpa [hds] using h
      have := ih (n / 10) (by omega) hhead
      omega

theorem isDigit_toDigits {n : Nat} : ∀ d ∈ Nat.toDigits 10 n, d.isDigit = true :=
  fun _ => Nat.isDigit_of_mem_toDigits (by decide) (by decide)

theorem not_leadingZero (n : Nat) :
    ((Nat.toDigits 10 n).head? == some '0' && (Nat.toDigits 10 n).length != 1) = false := by
  cases hhead : (Nat.toDigits 10 n).head? == some '0' with
  | false => rfl
  | true =>
    rw [eq_zero_of_head?_toDigits (beq_iff_eq.mp hhead)]
    decide

/-- Digits are not taken for a sign. -/
theorem toDigits_append_ne_minus (n : Nat) (rest : List Char) :
    ∀ after, Nat.toDigits 10 n ++ rest ≠ '-' :: after := by
  intro after h
  cases hds : Nat.toDigits 10 n with
  | nil => exact absurd hds Nat.toDigits_ne_nil
  | cons d ds =>
    have hd : d.isDigit = true := isDigit_toDigits d (by rw [hds]; exact List.mem_cons_self)
    rw [hds] at h
    cases h
    exact absurd hd (by decide)

/-- The sign in front of a numeral. -/
def signChars (negative : Bool) : List Char := if negative then ['-'] else []

/-- The places of a numeral behind their point, if there are any. -/
def placesChars (places : Option (List Char)) : List Char := places.elim [] ('.' :: ·)

/-- A numeral without an exponent is read up to its end. -/
theorem numeral?_chars (places : Option (List Char))
    (hplaces : ∀ ds ∈ places, ds ≠ [] ∧ ∀ d ∈ ds, d.isDigit = true) (negative : Bool) (n : Nat)
    {rest : List Char} (hrest : Stops rest) :
    numeral? (signChars negative ++ (Nat.toDigits 10 n ++ (placesChars places ++ rest))) =
      some (⟨negative, Nat.toDigits 10 n, places, none⟩, rest) := by
  have hend : ∀ c ∈ (placesChars places ++ rest).head?, c.isDigit = false := by
    cases places with
    | none => exact fun c hc => (hrest c hc).1
    | some ds =>
      rintro _ ⟨⟩
      decide
  have hwhole := digits?_append (isDigit_toDigits (n := n)) Nat.toDigits_ne_nil hend
  have hhead := toDigits_append_ne_minus n (placesChars places ++ rest)
  have hsign : signChars negative ++ (Nat.toDigits 10 n ++ (placesChars places ++ rest)) =
      if negative then '-' :: (Nat.toDigits 10 n ++ (placesChars places ++ rest))
      else Nat.toDigits 10 n ++ (placesChars places ++ rest) := by
    cases negative <;> rfl
  have hstop : ∀ c after, rest = c :: after → c ≠ '.' ∧ c ≠ 'e' ∧ c ≠ 'E' := by
    rintro c after rfl
    exact (hrest c rfl).2
  rw [hsign]
  unfold numeral?
  cases negative <;>
    simp only [Bool.false_eq_true, if_false, if_true, hwhole, not_leadingZero, Option.bind_eq_bind,
      Option.bind_some, Option.pure_def]
  all_goals
    cases places with
    | none =>
      cases rest with
      | nil => rfl
      | cons c rest =>
        obtain ⟨hpoint, he, hE⟩ := hstop c rest rfl
        simp [placesChars, hpoint, he, hE]
    | some ds =>
      obtain ⟨hne, hds⟩ := hplaces ds rfl
      have hplace := digits?_append hds hne fun c hc => (hrest c hc).1
      cases rest with
      | nil =>
        rw [List.append_nil] at hplace
        simp [placesChars, hplace]
      | cons c rest =>
        obtain ⟨-, he, hE⟩ := hstop c rest rfl
        simp [placesChars, hplace, he, hE]

theorem absorbDigits_toDigits {n : Nat} (h : n ≤ maxSignificand) :
    absorbDigits 0 (Nat.toDigits 10 n) = (n, []) := by
  have hle : Nat.ofDigitChars 10 (Nat.toDigits 10 n) 0 ≤ maxSignificand := by
    rwa [Nat.ofDigitChars_ten_toDigits]
  rw [absorbDigits_of_le hle, Nat.ofDigitChars_ten_toDigits]

theorem value?_toDigits {n : Nat} (h : n ≤ maxSignificand) :
    (⟨false, Nat.toDigits 10 n, none, none⟩ : Numeral).value? = some (.int n) := by
  simp [Numeral.value?, absorbDigits_toDigits h]

theorem value?_minus_toDigits {n : Nat} (hpos : n ≠ 0) (h : n ≤ Nat.pow 2 63) :
    (⟨true, Nat.toDigits 10 n, none, none⟩ : Numeral).value? = some (.int (-n)) := by
  have hroom : n ≤ maxSignificand := Nat.le_trans h (by decide)
  have hsmall : ¬Nat.pow 2 63 < n := Nat.not_lt.mpr h
  simp only [Numeral.value?, absorbDigits_toDigits hroom]
  simp [hpos, hsmall]

/-- Integers of 64 bits are legible. -/
theorem Number.Integral.legible {n : Number} (h : n.Integral) : n.Legible := by
  intro rest hrest
  cases n with
  | float x => exact h.elim
  | int n =>
    obtain ⟨hlow, hhigh⟩ := h
    rw [Nat.pow_eq] at hlow hhigh
    simp only [Number.chars, intChars]
    split
    · next hneg =>
      refine ⟨_, numeral?_chars none (by simp) true _ hrest, ?_⟩
      rw [value?_minus_toDigits (by omega) (show n.natAbs ≤ 2 ^ 63 by omega)]
      have hn : -(n.natAbs : Int) = n := by omega
      rw [hn]
    · next hpos =>
      refine ⟨_, numeral?_chars none (by simp) false _ hrest, ?_⟩
      rw [value?_toDigits (show n.natAbs ≤ 2 ^ 64 - 1 by omega)]
      have hn : (n.natAbs : Int) = n := by omega
      rw [hn]

theorem head_of_numeral? {cs : List Char} {result : Numeral × List Char}
    (h : numeral? cs = some result) :
    ∃ c rest, cs = c :: rest ∧ (c = '-' ∨ c.isDigit = true) := by
  cases cs with
  | nil => simp [numeral?, digits?] at h
  | cons c rest =>
    refine ⟨c, rest, rfl, ?_⟩
    by_cases hminus : c = '-'
    · exact .inl hminus
    · right
      cases hdigit : c.isDigit with
      | true => rfl
      | false =>
        have hnone : digits? (c :: rest) = none := by simp [digits?, hdigit]
        simp [numeral?, hminus, hnone] at h

end NotebookKernel.Json
