import VirtualPrinter.Proofs.Decimal.Rereading

/-!
# The value of a float

A finite float stands for one fraction, and what the comparisons with zero tell of the float they tell
of the fraction.

## Main definitions

* `Number.value`: the fraction that a float stands for.

## Main results

* `value_pos_iff`, `value_nonneg_iff`, `value_eq_zero_iff`: comparisons with zero.
* `value_le_ofNat`: a float that does not pass a whole number has a value that does not.
-/

namespace VirtualPrinter.Number

open Float.Model (UnpackedFloat)
open Float.Model.UnpackedFloat (Sign)

/-- The fraction that a finite float stands for; infinities, and what is no number, stand for none and
are given zero. -/
def value (x : Float) : ℚ :=
  match x.toModel.unpack with
  | .finite s m e _ => s.apply m * 2 ^ e
  | _ => 0

variable {x : Float} {m : Nat} {e : Int} {hm : 0 < m} {s : Sign}

theorem value_of_zero (h : x.toModel.unpack = .zero s) : value x = 0 := by
  rw [value, h]

theorem value_of_positive (h : x.toModel.unpack = .finite .positive m e hm) : value x = m * 2 ^ e := by
  rw [value, h]
  rfl

theorem value_of_negative (h : x.toModel.unpack = .finite .negative m e hm) :
    value x = -(m * 2 ^ e) := by
  rw [value, h]
  simp [Sign.apply]

/-- A finite float is a zero, or has its sign before a magnitude. -/
theorem unpack_of_finite (hx : x.isFinite) :
    (∃ s, x.toModel.unpack = .zero s) ∨ ∃ s m e hm, x.toModel.unpack = .finite s m e hm := by
  have hx : x.toModel.unpack.isFinite = true := hx
  cases hu : x.toModel.unpack with
  | notANumber | infinity =>
    rw [hu] at hx
    cases hx
  | zero s => exact .inl ⟨s, rfl⟩
  | finite s m e hm => exact .inr ⟨s, m, e, hm, rfl⟩

/-- A finite float is compared with zero as its value is. -/
theorem zero_compare_unpack (hx : x.isFinite) :
    (UnpackedFloat.zero .positive).compare x.toModel.unpack = some (compare 0 (value x)) := by
  rcases unpack_of_finite hx with ⟨s, hu⟩ | ⟨s, m, e, hm, hu⟩
  · rw [value_of_zero hu, hu, compare_eq_iff_eq.mpr rfl]
    rfl
  · have hpos : (0 : ℚ) < m * 2 ^ e := by positivity
    cases s with
    | positive =>
      rw [value_of_positive hu, hu, compare_lt_iff_lt.mpr hpos]
      rfl
    | negative =>
      rw [value_of_negative hu, hu, compare_gt_iff_gt.mpr (neg_lt_zero.mpr hpos)]
      rfl

theorem value_pos_iff (hx : x.isFinite) : 0 < value x ↔ 0 < x := by
  rw [lt_iff_unpacked, unpack_zero, UnpackedFloat.lt, zero_compare_unpack hx]
  simp [compare_lt_iff_lt]

theorem value_nonneg_iff (hx : x.isFinite) : 0 ≤ value x ↔ 0 ≤ x := by
  rw [le_iff_unpacked, unpack_zero, UnpackedFloat.le, zero_compare_unpack hx]
  simp [Ordering.isLE_iff_ne_gt, compare_gt_iff_gt]

theorem value_eq_zero_iff (hx : x.isFinite) : value x = 0 ↔ x == 0 := by
  have hbeq : (x == 0) = (x.toModel.unpack.compare (.zero .positive) == some .eq) := rfl
  rw [hbeq]
  rcases unpack_of_finite hx with ⟨s, hu⟩ | ⟨s, m, e, hm, hu⟩
  · rw [value_of_zero hu, hu]
    exact iff_of_true rfl rfl
  · have hpos : (0 : ℚ) < m * 2 ^ e := by positivity
    cases s with
    | positive =>
      rw [value_of_positive hu, hu]
      exact iff_of_false hpos.ne' (by simp [UnpackedFloat.compare])
    | negative =>
      rw [value_of_negative hu, hu]
      exact iff_of_false (by linarith) (by simp [UnpackedFloat.compare])

/-- A float that does not pass a whole number has a value that does not. -/
theorem value_le_ofNat {M : Nat} (hM : 0 < M) (hsmall : M < 2 ^ 53) (hx : 0 ≤ x)
    (hle : x ≤ Float.ofNat M) : value x ≤ M := by
  rcases Decimal.unpack_of_nonneg (Decimal.isFinite_of_between hM hsmall hx hle) hx with
    ⟨s, hu⟩ | ⟨m, e, hm, hu⟩
  · rw [value_of_zero hu]
    exact Nat.cast_nonneg M
  · obtain ⟨hM', hz⟩ := unpack_ofNat hM hsmall
    rw [value_of_positive hu, ← Decimal.value_full hsmall]
    exact value_le_of_le hu hz (Decimal.full_width hM hsmall) hle

end VirtualPrinter.Number
