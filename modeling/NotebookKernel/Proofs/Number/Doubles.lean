import Mathlib
import NotebookKernel.Number.Binary64

/-!
# Natural numbers as doubles

A natural number below 2 ^ 53 is a double without rounding: its mantissa is the number, shifted up to the
53 bits that a normal double has. So the bits of the double say which number it is
(`Binary64.ofFloat_ofNat`), and dividing by ten is exact on multiples of ten (`toFloat_div_ten`).
-/

namespace NotebookKernel

open Float.Model Float.Model.UnpackedFloat

namespace Doubles

/-- The mantissa of a natural number, of 53 bits. -/
def mantissa (n : Nat) : Nat := n * 2 ^ (52 - n.log2)

variable {n : Nat}

theorem log2_le (hn : 0 < n) (hlt : n < 2 ^ 53) : n.log2 ≤ 52 :=
  Nat.le_of_lt_succ ((Nat.log2_lt (Nat.ne_of_gt hn)).mpr hlt)

theorem mantissa_pos (hn : 0 < n) : 0 < mantissa n := Nat.mul_pos hn (Nat.two_pow_pos _)

theorem mantissa_bounds (hn : 0 < n) (hlt : n < 2 ^ 53) :
    2 ^ 52 ≤ mantissa n ∧ mantissa n < 2 ^ 53 := by
  have hlog := log2_le hn hlt
  have hlow : 2 ^ n.log2 * 2 ^ (52 - n.log2) ≤ mantissa n :=
    Nat.mul_le_mul_right _ (Nat.log2_self_le (Nat.ne_of_gt hn))
  have hhigh : mantissa n < 2 ^ (n.log2 + 1) * 2 ^ (52 - n.log2) :=
    Nat.mul_lt_mul_of_pos_right Nat.lt_log2_self (Nat.two_pow_pos _)
  rw [← Nat.pow_add] at hlow hhigh
  rw [show n.log2 + (52 - n.log2) = 52 by omega] at hlow
  rw [show n.log2 + 1 + (52 - n.log2) = 53 by omega] at hhigh
  exact ⟨hlow, hhigh⟩

theorem log2_mul_pow (hn : 0 < n) (k : Nat) : (n * 2 ^ k).log2 = n.log2 + k := by
  induction k with
  | zero => simp
  | succ k ih =>
    have hne : n * 2 ^ k ≠ 0 := Nat.ne_of_gt (Nat.mul_pos hn (Nat.two_pow_pos k))
    rw [Nat.pow_succ', Nat.mul_left_comm, Nat.log2_two_mul hne, ih, Nat.add_assoc]

theorem log2_of_bounds {m : Nat} (hlow : 2 ^ 52 ≤ m) (hhigh : m < 2 ^ 53) : m.log2 = 52 :=
  (Nat.log2_eq_iff (by omega)).mpr ⟨hlow, hhigh⟩

/-! ## Rounding -/

/-- Zeros that are shifted out leave no trace. -/
theorem shiftRight_exact (m k : Nat) :
    (⟨m * 2 ^ k, false, false⟩ : ExtendedMantissa) >>> k = ⟨m, false, false⟩ := by
  change Nat.repeat ExtendedMantissa.shiftRightOne k _ = _
  induction k generalizing m with
  | zero => simp [Nat.repeat]
  | succ k ih =>
    have hstep : m * 2 ^ (k + 1) = 2 * m * 2 ^ k := by rw [Nat.pow_succ]; ac_rfl
    rw [Nat.repeat, hstep, ih (2 * m)]
    simp [ExtendedMantissa.shiftRightOne]

theorem shiftToTargetExponent_exact {m : Nat} {e : Int} (k : Nat) (hlow : 2 ^ 52 ≤ m)
    (hhigh : m < 2 ^ 53) (he : -1074 ≤ e) :
    shiftToTargetExponent .binary64 (m * 2 ^ k) (e - k) .exact = (⟨m, false, false⟩, e) := by
  have htarget : Format.binary64.targetExponent (totalExponent (m * 2 ^ k) (e - k)) = e := by
    simp only [Format.targetExponent, totalExponent, Format.mantissaBits, Format.minExponent,
      log2_mul_pow (show 0 < m by omega), log2_of_bounds hlow hhigh]
    omega
  have hshift : (e - (e - k)).toNat = k := by omega
  simp only [shiftToTargetExponent, htarget, shiftToExponent, hshift,
    ExtendedMantissa.ofMantissaAndAccuracy, shiftRight_exact]
  rw [Int.sub_add_cancel]

/-- A number that fits the mantissa is not rounded. -/
theorem roundWithAccuracy_exact (s : Sign) {m : Nat} {e : Int} (k : Nat) (hlow : 2 ^ 52 ≤ m)
    (hhigh : m < 2 ^ 53) (he : -1074 ≤ e) :
    roundWithAccuracy .binary64 s (m * 2 ^ k) (e - k) .exact = .finite s m e (by omega) := by
  have hagain := shiftToTargetExponent_exact 0 hlow hhigh he
  have hpos : m ≠ 0 := by omega
  simp only [Nat.pow_zero, Nat.mul_one, Int.natCast_zero, Int.sub_zero] at hagain
  simp only [roundWithAccuracy, shiftToTargetExponent_exact k hlow hhigh he,
    ExtendedMantissa.roundedMantissa, ExtendedMantissa.accuracy, Accuracy.roundToNearestEven, hagain,
    hpos, dite_false]

/-! ## Bits -/

theorem toNat_one_append (v : BitVec 52) : (1#1 ++ v).toNat = 2 ^ 52 + v.toNat := by
  rw [BitVec.toNat_append, ← Nat.shiftLeft_add_eq_or_of_lt v.isLt]
  rfl

/-- A positive normal number is packed as its exponent and the bits of its mantissa behind the first. -/
theorem pack_normal {m : Nat} {e : Int} (hlow : 2 ^ 52 ≤ m) (hhigh : m < 2 ^ 53)
    (he : -1074 ≤ e) (he' : e ≤ 971) :
    UnpackedFloat.pack .binary64 (.finite .positive m e (by omega)) =
      packComponents .binary64 .positive (BitVec.ofNat 11 (e + 1075).toNat) (BitVec.ofNat 52 m) := by
  have hbiased : (e + Format.binary64.exponentBias + Format.binary64.mantissaBitsWithoutImplicit).toNat
      = (e + 1075).toNat := by
    change (e + (2 ^ (11 - 1) - 1 : Nat) + (52 : Nat)).toNat = (e + 1075).toNat
    omega
  have hfinite : ¬2 ^ Format.binary64.exponentBits ≤ (e + 1075).toNat + 1 := by
    change ¬2 ^ 11 ≤ (e + 1075).toNat + 1
    omega
  simp only [UnpackedFloat.pack, hbiased, if_neg hfinite, log2_of_bounds hlow hhigh]
  rfl

theorem unpack_packComponents {m : Nat} {e : Int} (hlow : 2 ^ 52 ≤ m) (hhigh : m < 2 ^ 53)
    (he : -1074 ≤ e) (he' : e ≤ 971) :
    UnpackedFloat.unpack .binary64
        (packComponents .binary64 .positive (BitVec.ofNat 11 (e + 1075).toNat) (BitVec.ofNat 52 m)) =
      .finite .positive m e (by omega) := by
  have hexponent : (BitVec.ofNat 11 (e + 1075).toNat).toNat = (e + 1075).toNat := by
    rw [BitVec.toNat_ofNat]
    exact Nat.mod_eq_of_lt (by omega)
  have hones : BitVec.ofNat 11 (e + 1075).toNat ≠ -1#11 := by
    intro h
    have htoNat : (e + 1075).toNat = (-1#11).toNat := hexponent.symm.trans (congrArg BitVec.toNat h)
    rw [show (-1#11).toNat = 2047 from rfl] at htoNat
    omega
  have hzero : BitVec.ofNat 11 (e + 1075).toNat ≠ 0#11 := by
    intro h
    have htoNat : (e + 1075).toNat = (0#11).toNat := hexponent.symm.trans (congrArg BitVec.toNat h)
    rw [show (0#11).toNat = 0 from rfl] at htoNat
    omega
  have hmantissa : (1#1 ++ BitVec.ofNat 52 m).toNat = m := by
    rw [toNat_one_append, BitVec.toNat_ofNat]
    omega
  have hbias : ((Format.binary64.exponentBias : Nat) : Int) = 1023 := rfl
  rw [UnpackedFloat.unpack]
  simp only [unpackMantissa_packComponents, unpackExponent_packComponents, unpackSign_packComponents,
    Sign.ofBitVec_toBitVec]
  rw [if_neg hones, if_neg hzero]
  simp only [hmantissa, hexponent, hbias, UnpackedFloat.finite.injEq, true_and]
  omega

/-! ## Natural numbers -/

/-- The double of a natural number, taken apart. -/
theorem ofUInt64_ofNat (hn : 0 < n) (hlt : n < 2 ^ 53) :
    UnpackedFloat.ofUInt64 .binary64 (UInt64.ofNat n) =
      .finite .positive (mantissa n) (n.log2 - 52) (mantissa_pos hn) := by
  have hlog := log2_le hn hlt
  have htoNat : (UInt64.ofNat n).toNat = n := UInt64.toNat_ofNat_of_lt' (by
    change n < 2 ^ 64
    omega)
  have htarget : Format.binary64.targetExponent (totalExponent n 0) = n.log2 - 52 := by
    simp only [Format.targetExponent, totalExponent, Format.mantissaBits, Format.minExponent]
    omega
  have hshift : (0 - ((n.log2 : Int) - 52)).toNat = 52 - n.log2 := by omega
  have hexponent : (0 : Int) - (52 - n.log2 : Nat) = n.log2 - 52 := by omega
  have hround := roundWithAccuracy_exact .positive 0 (mantissa_bounds hn hlt).1
    (mantissa_bounds hn hlt).2 (show (-1074 : Int) ≤ n.log2 - 52 by omega)
  simp only [Nat.pow_zero, Nat.mul_one, Int.natCast_zero, Int.sub_zero] at hround
  simp only [UnpackedFloat.ofUInt64, UnpackedFloat.ofNat, UnpackedFloat.ofInt,
    UnpackedFloat.normalize, htoNat, Int.compare_eq_gt.mpr (show (0 : Int) < n by omega),
    Int.toNat_natCast, UnpackedFloat.round, htarget, decreaseExponent, hshift, Nat.shiftLeft_eq,
    hexponent]
  exact hround

theorem unpack_toFloat (hn : 0 < n) (hlt : n < 2 ^ 53) :
    (UInt64.ofNat n).toFloat.toModel.unpack =
      .finite .positive (mantissa n) (n.log2 - 52) (mantissa_pos hn) := by
  have hlog := log2_le hn hlt
  obtain ⟨hlow, hhigh⟩ := mantissa_bounds hn hlt
  change UnpackedFloat.unpack .binary64
    (UnpackedFloat.pack .binary64 (UnpackedFloat.ofUInt64 .binary64 (UInt64.ofNat n))) = _
  rw [ofUInt64_ofNat hn hlt, pack_normal hlow hhigh (by omega) (by omega),
    unpack_packComponents hlow hhigh (by omega) (by omega)]

theorem toBits_toFloat (hn : 0 < n) (hlt : n < 2 ^ 53) :
    (UInt64.ofNat n).toFloat.toBits.toNat =
      (n.log2 + 1023) * 2 ^ 52 + (mantissa n - 2 ^ 52) := by
  have hlog := log2_le hn hlt
  obtain ⟨hlow, hhigh⟩ := mantissa_bounds hn hlt
  change (UnpackedFloat.pack .binary64
    (UnpackedFloat.ofUInt64 .binary64 (UInt64.ofNat n))).toNat = _
  rw [ofUInt64_ofNat hn hlt, pack_normal hlow hhigh (by omega) (by omega)]
  change (0#1 ++ BitVec.ofNat 11 ((n.log2 : Int) - 52 + 1075).toNat ++
    BitVec.ofNat 52 (mantissa n)).toNat = _
  rw [BitVec.toNat_append, ← Nat.shiftLeft_add_eq_or_of_lt (BitVec.isLt _), BitVec.toNat_append,
    ← Nat.shiftLeft_add_eq_or_of_lt (BitVec.isLt _), Nat.shiftLeft_eq, Nat.shiftLeft_eq]
  simp only [BitVec.toNat_ofNat]
  omega

/-! ## Division by ten -/

/-- A quotient of two mantissas that comes out even at 53 bits more is exact. -/
theorem divCore_exact {m d q : Nat} {e f : Int} (hm : m.log2 = 52) (hd : d.log2 = 52) (hpos : 0 < d)
    (hq : m * 2 ^ 53 = q * d) (he : -1021 ≤ e - f) :
    divCore .binary64 m e d f = (q, e - f - 53, .exact) := by
  have htarget : Format.binary64.targetExponent (totalExponent m e - totalExponent d f) =
      e - f - 53 := by
    simp only [Format.targetExponent, totalExponent, Format.mantissaBits, Format.minExponent, hm, hd]
    omega
  have hmin : min (e - f) (e - f - 53) = e - f - 53 := by omega
  have hshift : (e - f - (e - f - 53)).toNat = 53 := by omega
  simp only [divCore, htarget, hmin, hshift, Nat.shiftLeft_eq, hq, Nat.mul_div_cancel _ hpos,
    Nat.mul_mod_left, accuracyOfFraction, if_true]

theorem log2_ten_mul (hn : 0 < n) :
    (10 * n).log2 = n.log2 + 3 ∨ (10 * n).log2 = n.log2 + 4 := by
  have hlow := Nat.log2_self_le (Nat.ne_of_gt hn)
  have hhigh := @Nat.lt_log2_self n
  rw [Nat.pow_succ] at hhigh
  have hlower : n.log2 + 3 ≤ (10 * n).log2 :=
    (Nat.le_log2 (by omega)).mpr (by rw [Nat.pow_add]; omega)
  have hupper : (10 * n).log2 < n.log2 + 5 :=
    (Nat.log2_lt (by omega)).mpr (by rw [Nat.pow_add]; omega)
  omega

/-- With 53 bits more, the mantissa of ten divides that of ten times the number. -/
theorem mantissa_ten_mul (hlog : n.log2 ≤ 52) (hlog' : (10 * n).log2 ≤ 52) {k : Nat}
    (hk : (10 * n).log2 + k = n.log2 + 4) :
    mantissa (10 * n) * 2 ^ 53 = mantissa n * 2 ^ k * mantissa 10 := by
  have hlogTen : (10 : Nat).log2 = 3 := by decide
  have hpowers : 2 ^ (52 - (10 * n).log2) * 2 ^ 53 =
      2 ^ (52 - n.log2) * 2 ^ k * 2 ^ (52 - (10 : Nat).log2) := by
    rw [← Nat.pow_add, ← Nat.pow_add, ← Nat.pow_add]
    congr 1
    omega
  rw [mantissa, mantissa, mantissa, Nat.mul_assoc, hpowers]
  ac_rfl

/-- Dividing by ten what was multiplied by ten gives the number again. -/
theorem toFloat_div_ten (hlt : 10 * n < 2 ^ 53) :
    (UInt64.ofNat (10 * n)).toFloat / Float.ofScientific 1 false 1 = (UInt64.ofNat n).toFloat := by
  rcases Nat.eq_zero_or_pos n with rfl | hn
  · decide
  have hten : Float.ofScientific 1 false 1 = (UInt64.ofNat 10).toFloat := by decide
  have hlogTen : (10 : Nat).log2 = 3 := by decide
  obtain ⟨hlow, hhigh⟩ := mantissa_bounds hn (by omega)
  obtain ⟨hlow', hhigh'⟩ := mantissa_bounds (show 0 < 10 * n by omega) hlt
  have hlog := log2_le hn (by omega)
  have hlog' := log2_ten_mul hn
  -- The quotient has one zero more than the mantissa of the number, or none.
  obtain ⟨k, hk⟩ : ∃ k, (10 * n).log2 + k = n.log2 + 4 := ⟨n.log2 + 4 - (10 * n).log2, by omega⟩
  have hquotient := mantissa_ten_mul hlog (log2_le (by omega) hlt) hk
  have hexponent : ((10 * n).log2 : Int) - 52 - ((10 : Nat).log2 - 52) - 53 = n.log2 - 52 - k := by
    omega
  have hdivCore := divCore_exact (e := ((10 * n).log2 : Int) - 52) (f := ((10 : Nat).log2 : Int) - 52)
    (log2_of_bounds hlow' hhigh') (show (mantissa 10).log2 = 52 by decide) (mantissa_pos (by decide))
    hquotient (by omega)
  rw [hexponent] at hdivCore
  have hround := roundWithAccuracy_exact .positive k hlow hhigh
    (show (-1074 : Int) ≤ n.log2 - 52 by omega)
  rw [hten]
  change Float.ofModel (Float.Model.pack (UnpackedFloat.div .binary64
    (UInt64.ofNat (10 * n)).toFloat.toModel.unpack (UInt64.ofNat 10).toFloat.toModel.unpack)) =
    Float.ofModel (Float.Model.pack (UnpackedFloat.ofUInt64 .binary64 (UInt64.ofNat n)))
  rw [unpack_toFloat (by omega) hlt, unpack_toFloat (by decide) (by decide),
    ofUInt64_ofNat hn (by omega)]
  simp only [UnpackedFloat.div, hdivCore]
  exact congrArg (fun u => Float.ofModel (Float.Model.pack u)) hround

end Doubles

namespace Binary64

/-- The double of a natural number, taken apart into its bits. -/
theorem ofFloat_ofNat {n : Nat} (hn : 0 < n) (hlt : n < 2 ^ 53) :
    ofFloat (UInt64.ofNat n).toFloat =
      { negative := false
        mantissa := Doubles.mantissa n
        exponent := n.log2 - 52
        narrowBelow := decide (Doubles.mantissa n = 2 ^ 52) } := by
  have hlog := Doubles.log2_le hn hlt
  obtain ⟨hlow, hhigh⟩ := Doubles.mantissa_bounds hn hlt
  have hfraction : ((n.log2 + 1023) * 2 ^ 52 + (Doubles.mantissa n - 2 ^ 52)) % Nat.pow 2 52 =
      Doubles.mantissa n - 2 ^ 52 := by
    rw [Nat.pow_eq]
    omega
  have hbiased : ((n.log2 + 1023) * 2 ^ 52 + (Doubles.mantissa n - 2 ^ 52)) / Nat.pow 2 52 %
      Nat.pow 2 11 = n.log2 + 1023 := by
    rw [Nat.pow_eq, Nat.pow_eq]
    omega
  have hpositive : ¬Nat.pow 2 63 ≤ (n.log2 + 1023) * 2 ^ 52 + (Doubles.mantissa n - 2 ^ 52) := by
    rw [Nat.pow_eq]
    omega
  have hnormal : n.log2 + 1023 ≠ 0 := by omega
  have hinner : 1 < n.log2 + 1023 := by omega
  have hwhole : Nat.pow 2 52 + (Doubles.mantissa n - 2 ^ 52) = Doubles.mantissa n := by
    rw [Nat.pow_eq]
    omega
  have hexponent : ((n.log2 + 1023 : Nat) : Int) - 1075 = n.log2 - 52 := by omega
  have hleast : (Doubles.mantissa n - 2 ^ 52 = 0) = (Doubles.mantissa n = 2 ^ 52) :=
    propext ⟨fun h => by omega, fun h => by omega⟩
  simp only [ofFloat, Doubles.toBits_toFloat hn hlt, hfraction, hbiased, hpositive, hnormal, hinner,
    hwhole, hexponent, hleast, if_false, decide_false, decide_true, Bool.and_true]

end Binary64

end NotebookKernel
