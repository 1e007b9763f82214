import Mathlib

/-!
# Truncation keeps limits

A progress is given as a number and kept as whole percent.  Truncation towards zero must not lead out
of the range that was checked before it, so a number of at most one hundred has to become an octet of
at most one hundred.

Comparison and truncation look at a number through its sign, mantissa and exponent.  Two positive
numbers are compared by their exponents first, which is sound because the mantissas of a format have a
fixed width: a number with a smaller exponent is less than every number whose mantissa uses the whole
width.

## Main results

* `toInt_le_of_le`: a number of at most `k` is truncated to at most `k`.
* `toUInt8_le_hundred`: whole percent.
-/

namespace VirtualPrinter.Number

open Float.Model (Format UnpackedFloat)
open Float.Model.UnpackedFloat (ExtendedMantissa)

/-! ### Shifting -/

/-- Shifting drops as many binary digits. -/
theorem mantissa_shiftRight (em : ExtendedMantissa) (k : Nat) :
    (em >>> k).mantissa = em.mantissa / 2 ^ k := by
  induction k generalizing em with
  | zero => simp [HShiftRight.hShiftRight, Nat.repeat]
  | succ k ih =>
    change (em >>> k).mantissa / 2 = _
    rw [ih, Nat.div_div_eq_div_mul, Nat.pow_succ]

/-- Where the exponent is not positive, truncation divides the mantissa. -/
theorem roundToInt_of_nonpos (s : UnpackedFloat.Sign) (m : Nat) {e : Int} (he : e ≤ 0) :
    UnpackedFloat.roundToInt s m e = s.apply ((m / 2 ^ (-e).toNat : Nat) : Int) := by
  have h : (e - 0).toNat = 0 := by omega
  simp only [UnpackedFloat.roundToInt, UnpackedFloat.decreaseExponent,
    UnpackedFloat.shiftToExponent, mantissa_shiftRight, h]
  simp [ExtendedMantissa.ofMantissaAndAccuracy]

/-! ### Mantissas and exponents -/

/-- The mantissa of a number in double precision has at most 53 binary digits. -/
theorem mantissa_lt_of_unpack {b : BitVec Format.binary64.numBits} {s : UnpackedFloat.Sign} {m : Nat}
    {e : Int} {h : 0 < m} (hu : UnpackedFloat.unpack Format.binary64 b = .finite s m e h) :
    m < 2 ^ 53 := by
  unfold UnpackedFloat.unpack at hu
  simp only at hu
  split at hu
  · split at hu <;> cases hu
  · split at hu
    · split at hu
      · cases hu
      · injection hu with _ hm _
        subst hm
        exact lt_of_lt_of_le (BitVec.isLt _) (by decide)
    · injection hu with _ hm _
      subst hm
      exact BitVec.isLt _

/-- The exponent of a number in double precision. -/
theorem exponent_le_of_unpack {b : BitVec Format.binary64.numBits} {s : UnpackedFloat.Sign} {m : Nat}
    {e : Int} {h : 0 < m} (hu : UnpackedFloat.unpack Format.binary64 b = .finite s m e h) :
    e ≤ 971 := by
  unfold UnpackedFloat.unpack at hu
  simp only at hu
  generalize UnpackedFloat.unpackExponent b = exponent at hu
  have hlt := exponent.isLt
  split at hu
  · split at hu <;> cases hu
  · next hones =>
    have hne : exponent.toNat ≠ 2047 := fun he => hones (BitVec.eq_of_toNat_eq he)
    have hbias : (Format.binary64.exponentBias : Int) = 1023 := rfl
    split at hu
    · next hzero =>
      split at hu
      · cases hu
      · injection hu with _ _ he
        rw [hbias, hzero] at he
        simp at he
        omega
    · injection hu with _ _ he
      rw [hbias] at he
      change exponent.toNat < 2048 at hlt
      omega

/-! ### Truncation -/

/-- A number of at most `k` is truncated to at most `k`, where the mantissa of `k` uses the whole
width. -/
theorem toInt_le_of_le {a : UnpackedFloat} {k j : Nat} {hk : 0 < k * 2 ^ j} {top : Int}
    (hwidth : 2 ^ 52 ≤ k * 2 ^ j)
    (hmantissa : ∀ s m e h, a = .finite s m e h → m < 2 ^ 53)
    (hle : a.le (.finite .positive (k * 2 ^ j) (-j) hk) = true) :
    a.toInt 0 top ≤ k := by
  cases a with
  | notANumber => simp [UnpackedFloat.toInt]
  | zero s => simp [UnpackedFloat.toInt]
  | infinity s =>
    cases s with
    | negative => simp [UnpackedFloat.toInt]
    | positive => cases hle
  | finite s m e h =>
    have hm := hmantissa s m e h rfl
    cases s with
    | negative =>
      -- a negative number is truncated to one that is not positive
      have hneg : UnpackedFloat.roundToInt .negative m e ≤ 0 := by
        simp [UnpackedFloat.roundToInt, UnpackedFloat.Sign.apply]
      exact le_trans hneg (Int.natCast_nonneg k)
    | positive =>
      have hcases : e < -j ∨ e = -j ∧ m ≤ k * 2 ^ j := by
        have hle : ((compare e (-j)).then (compare m (k * 2 ^ j))).isLE = true := hle
        rcases lt_trichotomy e (-j) with hlt | heq | hgt
        · exact Or.inl hlt
        · subst heq
          exact Or.inr ⟨rfl, by simpa [Ordering.then, Nat.isLE_compare] using hle⟩
        · rw [compare_gt_iff_gt.mpr hgt] at hle
          cases hle
      have hdiv : m / 2 ^ (-e).toNat ≤ k := by
        rcases hcases with hlt | ⟨rfl, hmk⟩
        · obtain ⟨d, hd⟩ : ∃ d : Nat, (-e).toNat = j + 1 + d :=
            ⟨(-e).toNat - (j + 1), by omega⟩
          rw [hd]
          apply Nat.div_le_of_le_mul
          calc m ≤ 2 ^ 53 := hm.le
            _ = 2 ^ 52 * 2 := by norm_num
            _ ≤ k * 2 ^ j * 2 := Nat.mul_le_mul_right 2 hwidth
            _ ≤ k * 2 ^ j * 2 * 2 ^ d := Nat.le_mul_of_pos_right _ (Nat.two_pow_pos d)
            _ = 2 ^ (j + 1 + d) * k := by ring
        · rw [neg_neg, Int.toNat_natCast]
          exact Nat.div_le_of_le_mul (by rwa [Nat.mul_comm])
      rw [UnpackedFloat.toInt, roundToInt_of_nonpos _ _ (by omega)]
      exact Int.ofNat_le.mpr hdiv

/-- One hundred, as a number in double precision. -/
theorem unpack_hundred :
    (100 : Float).toModel.unpack = .finite .positive (100 * 2 ^ 46) (-(46 : Nat)) (by decide) := rfl

/-- A number of at most one hundred is at most one hundred in whole percent. -/
theorem toUInt8_le_hundred {x : Float} (h : x ≤ 100) : x.toUInt8 ≤ 100 := by
  have hle : x.toModel.unpack.le (100 : Float).toModel.unpack = true :=
    of_decide_eq_true (p := x.toModel.unpack.le (100 : Float).toModel.unpack = true) h
  rw [unpack_hundred] at hle
  have hint : (x.toModel.unpack.toInt 0 (UInt8.size - 1)).toNat ≤ 100 := by
    have hint : x.toModel.unpack.toInt 0 (UInt8.size - 1) ≤ (100 : Nat) :=
      toInt_le_of_le (by decide) (fun _ _ _ _ => mantissa_lt_of_unpack) hle
    exact Int.toNat_le.mpr hint
  have hclamp : x.toUInt8 = UInt8.ofNatLT (x.toModel.unpack.toInt 0 (UInt8.size - 1)).toNat
      (lt_of_le_of_lt hint (by decide)) := dif_pos _
  rw [hclamp, UInt8.le_iff_toNat_le, UInt8.toNat_ofNatLT]
  exact hint

end VirtualPrinter.Number
