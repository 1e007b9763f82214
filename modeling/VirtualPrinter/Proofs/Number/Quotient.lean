import VirtualPrinter.Proofs.Number.Order
import VirtualPrinter.Proofs.Number.Sign
import VirtualPrinter.Proofs.Number.Whole

/-!
# Quotients that do not pass a float

A quotient of two floats is cut off behind the digits that there is room for, and rounded by what has
been cut off.  It does not pass a float that the exact quotient does not pass.

## Main results

* `le_of_value_le`, `value_le_of_le`: positive floats are compared by their values.
* `divCore_of_full`: the digits of a quotient.
* `div_le`: a quotient does not pass a float that the exact one does not pass.
* `hasSign_div`: the sign of a quotient.
-/

namespace VirtualPrinter.Number

open Float.Model (Format UnpackedFloat)
open Float.Model.UnpackedFloat (Accuracy Sign)

variable {x y z : Float} {s t : Sign} {m n r : Nat} {e f k : Int}

/-! ### Values -/

/-- Positive floats are compared by their exponents, and where these are the same by their
mantissas. -/
theorem le_iff_lex {hm : 0 < m} {hr : 0 < r} (hx : x.toModel.unpack = .finite .positive m e hm)
    (hz : z.toModel.unpack = .finite .positive r k hr) : x ≤ z ↔ e < k ∨ e = k ∧ m ≤ r := by
  rw [le_iff_unpacked, unpacked_le_iff, hx, hz]
  simp [rank?, Prod.Lex.le_iff]

theorem le_of_value_le {hm : 0 < m} {hr : 0 < r} (hx : x.toModel.unpack = .finite .positive m e hm)
    (hz : z.toModel.unpack = .finite .positive r k hr) (hlow : 2 ^ 52 ≤ m)
    (h : (m : ℚ) * 2 ^ e ≤ r * 2 ^ k) : x ≤ z := by
  rw [le_iff_lex hx hz]
  refine (exponent_le hlow (mantissa_lt_of_unpack hz) h).lt_or_eq.imp_right fun hek => ⟨hek, ?_⟩
  rw [hek, mul_le_mul_iff_left₀ (by positivity)] at h
  exact_mod_cast h

theorem value_le_of_le {hm : 0 < m} {hr : 0 < r} (hx : x.toModel.unpack = .finite .positive m e hm)
    (hz : z.toModel.unpack = .finite .positive r k hr) (hlow : 2 ^ 52 ≤ r) (h : x ≤ z) :
    (m : ℚ) * 2 ^ e ≤ r * 2 ^ k := by
  rcases (le_iff_lex hx hz).mp h with hek | ⟨rfl, hmr⟩
  · have hwide : (m : ℚ) ≤ 2 ^ 53 := by exact_mod_cast (mantissa_lt_of_unpack hx).le
    have hfull : (2 : ℚ) ^ 52 ≤ r := by exact_mod_cast hlow
    have hpow : (2 : ℚ) ^ (e + 1) ≤ 2 ^ k := zpow_le_zpow_right₀ one_le_two (by omega)
    calc (m : ℚ) * 2 ^ e ≤ 2 ^ 53 * 2 ^ e := by gcongr
      _ = 2 ^ 52 * 2 ^ (e + 1) := by
          rw [zpow_add_one₀ two_ne_zero]
          ring
      _ ≤ r * 2 ^ k := by gcongr
  · gcongr

/-! ### Quotients -/

/-- The digits of a quotient of full mantissas: one or two more than there is room for. -/
theorem divCore_of_full (hm : 2 ^ 52 ≤ m) (hm' : m < 2 ^ 53) (hn : 2 ^ 52 ≤ n) (hn' : n < 2 ^ 53)
    (he : -1021 ≤ e - f) : UnpackedFloat.divCore Format.binary64 m e n f =
      (m * 2 ^ 53 / n, e - f - 53, UnpackedFloat.accuracyOfFraction (m * 2 ^ 53 % n) n) := by
  have htarget : min (e - f) (Format.binary64.targetExponent
      (Float.Model.totalExponent m e - Float.Model.totalExponent n f)) = e - f - 53 := by
    simp only [Format.targetExponent, Float.Model.totalExponent, Format.mantissaBits,
      Format.minExponent, log2_eq hm hm', log2_eq hn hn']
    norm_num
    omega
  have hshift : (e - f - (e - f - 53)).toNat = 53 := by omega
  simp only [UnpackedFloat.divCore, htarget, hshift, Nat.shiftLeft_eq]

/-- What is cut off a quotient lies below the last digit that is kept. -/
theorem cut_le (hn : 0 < n) (h : (m : ℚ) * 2 ^ e ≤ r * 2 ^ k * (n * 2 ^ f)) :
    ((m * 2 ^ 53 / n : Nat) : ℚ) * 2 ^ (e - f - 53) ≤ r * 2 ^ k ∧
      (UnpackedFloat.accuracyOfFraction (m * 2 ^ 53 % n) n = .exact ∨
        ((m * 2 ^ 53 / n : Nat) : ℚ) * 2 ^ (e - f - 53) < r * 2 ^ k) := by
  have hdiv : ((m * 2 ^ 53 / n : Nat) : ℚ) * n + (m * 2 ^ 53 % n : Nat) = m * 2 ^ 53 := by
    exact_mod_cast Nat.div_add_mod' (m * 2 ^ 53) n
  have hden : (0 : ℚ) < n * 2 ^ f := by positivity
  have hvalue : ((m * 2 ^ 53 / n : Nat) : ℚ) * 2 ^ (e - f - 53) * (n * 2 ^ f) +
      (m * 2 ^ 53 % n : Nat) * 2 ^ (e - 53) = m * 2 ^ e := by
    have hpow : (2 : ℚ) ^ (e - f - 53) * 2 ^ f = 2 ^ (e - 53) := by
      rw [← zpow_add₀ two_ne_zero]
      congr 1
      ring
    have hpow' : (2 : ℚ) ^ 53 * 2 ^ (e - 53) = 2 ^ e := by
      rw [← zpow_natCast, ← zpow_add₀ two_ne_zero]
      congr 1
      push_cast
      ring
    calc _ = (((m * 2 ^ 53 / n : Nat) : ℚ) * n + (m * 2 ^ 53 % n : Nat)) * 2 ^ (e - 53) := by
          rw [← hpow]
          ring
      _ = m * 2 ^ e := by
          rw [hdiv, ← hpow']
          ring
  rw [← hvalue] at h
  refine ⟨?_, ?_⟩
  · have hrest : (0 : ℚ) ≤ (m * 2 ^ 53 % n : Nat) * 2 ^ (e - 53) := by positivity
    exact le_of_mul_le_mul_right ((le_add_of_nonneg_right hrest).trans h) hden
  · rcases Nat.eq_zero_or_pos (m * 2 ^ 53 % n) with hzero | hpos
    · exact .inl (if_pos hzero)
    · have hrest : (0 : ℚ) < (m * 2 ^ 53 % n : Nat) * 2 ^ (e - 53) := by positivity
      exact .inr (lt_of_mul_lt_mul_right ((lt_add_of_pos_right _ hrest).trans_le h) hden.le)

/-- **A quotient does not pass a float that the exact one does not pass.** -/
theorem div_le {hm : 0 < m} {hn : 0 < n} (hx : x.toModel.unpack = .finite .positive m e hm)
    (hy : y.toModel.unpack = .finite .positive n f hn) {hr : 0 < r}
    (hz : z.toModel.unpack = .finite .positive r k hr) (hmlow : 2 ^ 52 ≤ m) (hnlow : 2 ^ 52 ≤ n)
    (he : -1021 ≤ e - f) (h : (m : ℚ) * 2 ^ e ≤ r * 2 ^ k * (n * 2 ^ f)) : x / y ≤ z := by
  have hmhigh : m < 2 ^ 53 := mantissa_lt_of_unpack hx
  have hnhigh : n < 2 ^ 53 := mantissa_lt_of_unpack hy
  have hrhigh : r < 2 ^ 53 := mantissa_lt_of_unpack hz
  have hfull : 2 ^ 52 ≤ m * 2 ^ 53 / n := by
    rw [Nat.le_div_iff_mul_le hn]
    exact Nat.mul_le_mul hmlow hnhigh.le
  obtain ⟨hcut, haccuracy⟩ := cut_le hn h
  obtain ⟨m', e', hm', hround, hlow, hhigh, hmin, hle⟩ :=
    roundWithAccuracy_le (s := .positive) hfull (by omega) hrhigh hcut haccuracy
  have hmax : e' ≤ 971 :=
    (exponent_le hlow hrhigh hle).trans (exponent_le_of_unpack hz)
  have hdiv : (x / y).toModel.unpack =
      (Float.Model.pack (.div Format.binary64 x.toModel.unpack y.toModel.unpack)).unpack := rfl
  rw [hx, hy, UnpackedFloat.div, divCore_of_full hmlow hmhigh hnlow hnhigh he] at hdiv
  have hunpack : (x / y).toModel.unpack = .finite .positive m' e' hm' := by
    rw [hdiv]
    exact (congrArg (fun u => (Float.Model.pack u).unpack) hround).trans
      (unpack_pack_finite hlow hhigh (by omega) hmax)
  exact le_of_value_le hunpack hz hlow hle

/-- The sign of a quotient. -/
theorem hasSign_div {u v : UnpackedFloat} (hu : HasSign s u) (hv : HasSign t v) :
    HasSign (s / t) (UnpackedFloat.div Format.binary64 u v) := by
  cases u with
  | notANumber => cases v <;> trivial
  | infinity s' | zero s' | finite s' =>
    obtain rfl : s' = s := hu
    cases v with
    | notANumber => trivial
    | infinity t' | zero t' | finite t' =>
      obtain rfl : t' = t := hv
      first
        | rfl
        | trivial
        | exact hasSign_roundWithAccuracy _ _ _ _

end VirtualPrinter.Number
