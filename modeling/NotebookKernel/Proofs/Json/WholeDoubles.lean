import NotebookKernel.Proofs.Json.Numerals
import NotebookKernel.Proofs.Number.Shortest

/-!
# Whole doubles are read back

A whole number below 2 ^ 49 is written with one place. What is read are its digits and the zero as one
significand, which is divided by ten again; below 2 ^ 53 neither of the two steps rounds.
-/

namespace NotebookKernel.Json

/-- The double is a whole number, not negative and below 2 ^ 49. Zero may have a sign. -/
def IsWhole (x : Float) : Prop :=
  (∃ n < 2 ^ 49, x = (UInt64.ofNat n).toFloat) ∨ x = -0.0

/-- The digits of a whole number with the place zero denote it. -/
theorem value?_toDigits_place {n : Nat} (hlt : n < 2 ^ 49) (negative : Bool) :
    (⟨negative, Nat.toDigits 10 n, some ['0'], none⟩ : Numeral).value? =
      some (.float (if negative then -(UInt64.ofNat n).toFloat else (UInt64.ofNat n).toFloat)) := by
  have hmax : maxSignificand = 2 ^ 64 - 1 := rfl
  have hplace : absorbDigits n ['0'] = (10 * n, []) := by
    have hroom : 10 * n + ('0'.toNat - 48) ≤ maxSignificand := by
      change 10 * n + 0 ≤ maxSignificand
      omega
    rw [absorbDigits, if_pos hroom]
    rfl
  have hscaled : scaled? (10 * n) (-1) = some (UInt64.ofNat n).toFloat := by
    rw [← Doubles.toFloat_div_ten (n := n) (by omega)]
    rfl
  simp only [Numeral.value?, absorbDigits_toDigits (show n ≤ maxSignificand by omega), hplace,
    Option.isNone_some, Bool.false_and, Bool.false_eq_true, if_false, Option.getD_some]
  change (scaled? (10 * n) (-1)).map _ = _
  rw [hscaled, Option.map_some]

theorem chars_toFloat {n : Nat} (hlt : n < 2 ^ 49) :
    (Number.float (UInt64.ofNat n).toFloat).chars =
      signChars false ++ (Nat.toDigits 10 n ++ placesChars (some ['0'])) :=
  renderShortest_toFloat (by omega) (by decide) (by decide)

theorem chars_negZero :
    (Number.float (-0.0)).chars = signChars true ++ (Nat.toDigits 10 0 ++ placesChars (some ['0'])) := by
  decide

/-- Whole doubles are legible. -/
theorem IsWhole.legible {x : Float} (h : IsWhole x) : (Number.float x).Legible := by
  intro rest hrest
  have hplaces : ∀ ds ∈ some ['0'], ds ≠ [] ∧ ∀ d ∈ ds, d.isDigit = true := by
    rintro ds ⟨⟩
    exact ⟨List.cons_ne_nil _ _, List.forall_mem_singleton.mpr rfl⟩
  rcases h with ⟨n, hlt, rfl⟩ | rfl
  · rw [chars_toFloat hlt, List.append_assoc, List.append_assoc]
    exact ⟨_, numeral?_chars _ hplaces false n hrest, value?_toDigits_place hlt false⟩
  · have hzero : (-(UInt64.ofNat 0).toFloat : Float) = -0.0 := by decide
    have hvalue := value?_toDigits_place (show 0 < 2 ^ 49 by decide) true
    rw [if_pos rfl, hzero] at hvalue
    rw [chars_negZero, List.append_assoc, List.append_assoc]
    exact ⟨_, numeral?_chars _ hplaces true 0 hrest, hvalue⟩

/-- An integer of 64 bits or a whole double. The numeral `-0` is read as the double zero with a sign. -/
def Number.Whole : Number → Prop
  | .int n => (Number.int n).Integral
  | .float x => IsWhole x

theorem Number.Whole.legible {n : Number} (h : n.Whole) : n.Legible := by
  cases n with
  | int n => exact Number.Integral.legible h
  | float x => exact IsWhole.legible h

end NotebookKernel.Json
