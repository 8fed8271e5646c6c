import NotebookKernel.Number.Shortest
import NotebookKernel.Proofs.Number.Doubles

/-!
# The shortest text of a whole number

Of the decimals without places only the number itself lies near enough to a natural number below 2 ^ 53,
and they are tried before those with places. So the shortest text of the number is all its digits, with
the one place that every double has.
-/

namespace NotebookKernel

namespace Decimal

/-- The number that a decimal without places is. -/
def whole (c : Decimal) : Nat := c.digits * 10 ^ c.exponent.toNat

theorem length_mono {a b : Nat} (h : a ≤ b) : length a ≤ length b :=
  (Nat.length_toDigits_le_iff (by decide) Nat.length_toDigits_pos).mpr
    (Nat.lt_of_le_of_lt h ((Nat.length_toDigits_le_iff (by decide) Nat.length_toDigits_pos).mp
      (Nat.le_refl _)))

theorem length_le_iff {n k : Nat} (hk : 0 < k) : length n ≤ k ↔ n < 10 ^ k :=
  Nat.length_toDigits_le_iff (by decide) hk

/-- Digits may be followed by zeros. -/
theorem toDigits_mul_pow {d : Nat} (hd : 0 < d) (k : Nat) :
    Nat.toDigits 10 (d * 10 ^ k) = Nat.toDigits 10 d ++ List.replicate k '0' := by
  induction k with
  | zero => simp
  | succ k ih =>
    have hstep : d * 10 ^ (k + 1) = 10 * (d * 10 ^ k) + 0 := by rw [Nat.pow_succ]; ac_rfl
    have hpos : 0 < d * 10 ^ k := Nat.mul_pos hd (Nat.pow_pos (by decide))
    rw [hstep, ← Nat.toDigits_append_toDigits (by decide) hpos (by decide), ih, List.append_assoc,
      List.replicate_succ']
    rfl

/-! ## The decimals near a whole number -/

section

variable {n d : Nat} {c : Decimal}

/-- The interval around `n * d / d` whose ends are at most two quarters of a unit away. -/
def nearby (n d : Nat) (narrow closed : Bool) : Interval :=
  { low := if narrow then 4 * (n * d) - 1 else 4 * (n * d) - 2
    high := 4 * (n * d) + 2
    denominator := 4 * d
    closed }

/-- Two whole numbers over one denominator are the same, or four quarters of a unit apart. -/
theorem eq_or_apart (n m : Nat) (hd : 0 < d) :
    m = n ∨ 4 * (m * d) + 4 ≤ 4 * (n * d) ∨ 4 * (n * d) + 4 ≤ 4 * (m * d) := by
  rcases Nat.lt_trichotomy m n with h | h | h
  · have := Nat.mul_le_mul_right d (Nat.succ_le_of_lt h)
    rw [Nat.succ_mul] at this
    omega
  · exact .inl h
  · have := Nat.mul_le_mul_right d (Nat.succ_le_of_lt h)
    rw [Nat.succ_mul] at this
    omega

/-- No whole number but the one in the middle is near. -/
theorem holds_nearby_iff (hn : 0 < n) (hd : 0 < d) (narrow closed : Bool) (hc : 0 ≤ c.exponent) :
    (nearby n d narrow closed).holds c = true ↔ c.whole = n := by
  have hscale : scale c.digits 1 c.exponent = (c.whole, 1) := by simp [scale, hc, whole]
  have hpos : 0 < n * d := Nat.mul_pos hn hd
  have hunit : c.whole * (4 * d) = 4 * (c.whole * d) := by ac_rfl
  have hsame : c.whole = n → 4 * (c.whole * d) = 4 * (n * d) := fun h => by rw [h]
  have hapart := eq_or_apart n c.whole hd
  simp only [Interval.holds, hscale, nearby, hunit, Nat.mul_one]
  cases closed <;> cases narrow <;>
    simp only [Bool.false_eq_true, if_false, if_true, Bool.and_eq_true, decide_eq_true_eq] <;> omega

theorem pointPosition_bounds (hn : 0 < n) (d : Nat) (hlt : n < 10 ^ 16) :
    1 ≤ pointPosition (n * d) d ∧ pointPosition (n * d) d ≤ 17 := by
  have hlow : length d ≤ length (n * d) := length_mono (Nat.le_mul_of_pos_left d hn)
  have hdigits : 0 < length d := Nat.length_toDigits_pos
  have hhigh : length (n * d) ≤ 16 + length d := by
    rw [length_le_iff (by omega), Nat.pow_add]
    exact Nat.mul_lt_mul'' hlt ((length_le_iff hdigits).mp (Nat.le_refl _))
  simp only [pointPosition]
  split
  · omega
  · next hbelow =>
    refine ⟨?_, by omega⟩
    rcases Nat.lt_or_eq_of_le hlow with h | h
    · omega
    · rw [h] at hbelow
      simp only [Int.sub_self, Int.neg_zero, scale] at hbelow
      exact absurd (by simpa using Nat.le_mul_of_pos_left d hn) hbelow

theorem exponent_of_mem_neighbours {a b : Nat} {x : Int} (h : c ∈ neighbours a b x) :
    c.exponent = x := by
  simp only [neighbours] at h
  split at h <;> simp only [List.mem_cons, List.not_mem_nil, or_false] at h <;>
    rcases h with rfl | rfl <;> rfl

theorem mem_neighbours_zero (n : Nat) (hd : 0 < d) : ⟨n, 0⟩ ∈ neighbours (n * d) d 0 := by
  simp [neighbours, scale, Nat.mul_div_cancel _ hd, hd]

/-- The decimals that are tried for a whole number, up to the number itself, have no places. -/
theorem exists_hits (hn : 0 < n) (hd : 0 < d) (hlt : n < 10 ^ 16) (narrow closed : Bool) :
    let grids := (List.range 17).map fun (count : Nat) => pointPosition (n * d) d - (count + 1)
    ∃ c rest, (grids.flatMap fun e => (neighbours (n * d) d e).filter
        (nearby n d narrow closed).holds) = c :: rest ∧ 0 ≤ c.exponent ∧ c.whole = n := by
  intro grids
  obtain ⟨hlow, hhigh⟩ := pointPosition_bounds hn d hlt
  obtain ⟨p, hp⟩ : ∃ p : Nat, pointPosition (n * d) d = p + 1 :=
    ⟨(pointPosition (n * d) d - 1).toNat, by omega⟩
  let first := (List.range (p + 1)).map fun (count : Nat) => ((p : Int) + 1) - (count + 1)
  have hfirst : grids.take (p + 1) = first := by
    simp only [grids, first, hp, ← List.map_take, List.take_range,
      Nat.min_eq_left (show p + 1 ≤ 17 by omega)]
  have hgrids : grids = first ++ grids.drop (p + 1) := by rw [← hfirst, List.take_append_drop]
  have hzero : (⟨n, 0⟩ : Decimal) ∈ first.flatMap fun e => (neighbours (n * d) d e).filter
      (nearby n d narrow closed).holds := by
    refine List.mem_flatMap.mpr ⟨0, List.mem_map.mpr ⟨p, by simp, by omega⟩, ?_⟩
    refine List.mem_filter.mpr ⟨mem_neighbours_zero n hd, ?_⟩
    exact (holds_nearby_iff hn hd narrow closed (Int.le_refl 0)).mpr (by simp [whole])
  rw [hgrids, List.flatMap_append]
  generalize hhits : (first.flatMap fun e => (neighbours (n * d) d e).filter
    (nearby n d narrow closed).holds) = hits at hzero ⊢
  cases hits with
  | nil => cases hzero
  | cons c rest =>
    have hmem : c ∈ first.flatMap fun e => (neighbours (n * d) d e).filter
        (nearby n d narrow closed).holds := by rw [hhits]; exact List.mem_cons_self
    obtain ⟨e, he, hc⟩ := List.mem_flatMap.mp hmem
    obtain ⟨count, hcount, rfl⟩ := List.mem_map.mp he
    obtain ⟨hneighbour, hholds⟩ := List.mem_filter.mp hc
    have hexponent : 0 ≤ c.exponent := by
      rw [exponent_of_mem_neighbours hneighbour]
      have := List.mem_range.mp hcount
      omega
    exact ⟨c, rest ++ _, rfl, hexponent, (holds_nearby_iff hn hd narrow closed hexponent).mp hholds⟩

end

/-! ## The digits of a whole number -/

theorem whole_normalize (fuel : Nat) {c : Decimal} (hc : 0 ≤ c.exponent) :
    0 ≤ (normalize fuel c).exponent ∧ (normalize fuel c).whole = c.whole := by
  induction fuel generalizing c with
  | zero => exact ⟨hc, rfl⟩
  | succ fuel ih =>
    rw [normalize]
    split
    · next h =>
      obtain ⟨hnext, hwhole⟩ := ih (c := ⟨c.digits / 10, c.exponent + 1⟩) (by dsimp only; omega)
      refine ⟨hnext, hwhole.trans ?_⟩
      have hexponent : (c.exponent + 1).toNat = c.exponent.toNat + 1 := by omega
      have hdigits : c.digits = c.digits / 10 * 10 := by omega
      simp only [whole, hexponent, Nat.pow_succ']
      rw [← Nat.mul_assoc, ← hdigits]
    · exact ⟨hc, rfl⟩

theorem toDigits_whole {c : Decimal} (h : 0 < c.whole) :
    Nat.toDigits 10 c.whole =
      Nat.toDigits 10 c.digits ++ List.replicate c.exponent.toNat '0' :=
  toDigits_mul_pow (Nat.pos_of_mul_pos_right h) _

/-- A decimal without places is written positionally if it has few enough digits. -/
theorem render_whole {c : Decimal} {style : Notation} (hc : 0 ≤ c.exponent) (hpos : 0 < c.whole)
    (hlow : style.lowest ≤ 0) (hhigh : length c.whole ≤ style.highest) :
    (c.render style).toList = Nat.toDigits 10 c.whole ++ ['.', '0'] := by
  have hlength : (length c.whole : Int) = (Nat.toDigits 10 c.digits).length + c.exponent := by
    rw [length, toDigits_whole hpos, List.length_append, List.length_replicate]
    omega
  have hdigits : 0 < (Nat.toDigits 10 c.digits).length := Nat.length_toDigits_pos
  rw [render, if_pos (by omega), if_pos hc, toDigits_whole hpos]
  simp

end Decimal

/-- The interval of a double that is a natural number. -/
theorem Decimal.Interval.of_toFloat {n : Nat} (hn : 0 < n) (hlt : n < 2 ^ 53) :
    let x := Binary64.ofFloat (UInt64.ofNat n).toFloat
    x.fraction = (n * 2 ^ (52 - n.log2), 2 ^ (52 - n.log2)) ∧
      ∃ narrow closed, Interval.of x = nearby n (2 ^ (52 - n.log2)) narrow closed := by
  intro x
  have hlog := Doubles.log2_le hn hlt
  have hx : x = _ := Binary64.ofFloat_ofNat hn hlt
  have hfraction : x.fraction = (n * 2 ^ (52 - n.log2), 2 ^ (52 - n.log2)) := by
    simp only [hx, Binary64.fraction, Nat.pow_eq]
    split
    · next h =>
      have hshift : 52 - n.log2 = 0 := by omega
      have hexponent : ((n.log2 : Int) - 52).toNat = 0 := by omega
      simp [Doubles.mantissa, hshift, hexponent]
    · next h =>
      have hexponent : (-((n.log2 : Int) - 52)).toNat = 52 - n.log2 := by omega
      rw [hexponent, Doubles.mantissa]
  refine ⟨hfraction, x.narrowBelow, decide (x.mantissa % 2 = 0), ?_⟩
  have hunit : n * 2 ^ (52 - n.log2) / x.mantissa = 1 := by
    rw [hx]
    exact Nat.div_self (Doubles.mantissa_pos hn)
  simp only [Interval.of, hfraction, hunit, nearby, Nat.mul_one]

/-- A natural number below 2 ^ 53 is written with all its digits and one place. -/
theorem renderShortest_toFloat {n : Nat} (hlt : n < 2 ^ 53) {style : Decimal.Notation}
    (hlow : style.lowest ≤ 0) (hhigh : 16 ≤ style.highest) :
    (renderShortest style (UInt64.ofNat n).toFloat).toList = Nat.toDigits 10 n ++ ['.', '0'] := by
  rcases Nat.eq_zero_or_pos n with rfl | hn
  · have hzero : Binary64.ofFloat (UInt64.ofNat 0).toFloat = ⟨false, 0, -1074, false⟩ := by decide
    simp only [renderShortest, hzero, if_true, Bool.false_eq_true, if_false]
    rfl
  obtain ⟨hfraction, narrow, closed, hinterval⟩ := Decimal.Interval.of_toFloat hn hlt
  have hx := Binary64.ofFloat_ofNat hn hlt
  have hmantissa : (Binary64.ofFloat (UInt64.ofNat n).toFloat).mantissa ≠ 0 := by
    rw [hx]
    exact Nat.ne_of_gt (Doubles.mantissa_pos hn)
  have hnegative : (Binary64.ofFloat (UInt64.ofNat n).toFloat).negative = false := by rw [hx]
  obtain ⟨c, rest, hhits, hexponent, hwhole⟩ :=
    Decimal.exists_hits hn (Nat.two_pow_pos (52 - n.log2)) (by omega) narrow closed
  have hshortest : Decimal.shortest (Binary64.ofFloat (UInt64.ofNat n).toFloat) = c := by
    simp only [Decimal.shortest, hfraction, hinterval, hhits, List.headD_cons]
  obtain ⟨hexponent', hwhole'⟩ := Decimal.whole_normalize 400 hexponent
  rw [hwhole] at hwhole'
  have hlength : Decimal.length n ≤ 16 := (Decimal.length_le_iff (by decide)).mpr (by omega)
  simp only [renderShortest, hmantissa, if_false, hnegative, Bool.false_eq_true, hshortest]
  rw [Decimal.render_whole hexponent' (by omega) hlow (by rw [hwhole']; omega), hwhole']

end NotebookKernel
