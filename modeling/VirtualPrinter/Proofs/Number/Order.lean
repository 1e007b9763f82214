import Mathlib

/-!
# Floats in order

Floats are compared by sign, exponent and mantissa, in this order of weight.  A float that is not a
number is comparable with nothing, not even with itself; among the others a comparison is one of
ranks, which are in a linear order.

## Main definitions

* `Number.rank?`: the rank of a float, unless it is not a number.

## Main results

* `unpacked_compare_eq`: floats are compared by their ranks.
* `float_le_trans`, `float_lt_of_le_of_lt`: what lies below a float lies below all that is above it.
-/

namespace VirtualPrinter.Number

open Float.Model (UnpackedFloat)

/-- The rank of a float that is a number: its place among infinities, signs and zero, and within a
sign the exponent and the mantissa, which count downwards where the sign is negative. -/
def rank? : UnpackedFloat → Option (Int ×ₗ Int ×ₗ Int)
  | .notANumber => none
  | .infinity .negative => some (toLex (-2, toLex (0, 0)))
  | .finite .negative m e _ => some (toLex (-1, toLex (-e, -m)))
  | .zero _ => some (toLex (0, toLex (0, 0)))
  | .finite .positive m e _ => some (toLex (1, toLex (e, m)))
  | .infinity .positive => some (toLex (2, toLex (0, 0)))

/-- Ranks are compared place by place. -/
theorem compare_rank (i j e f m n : Int) :
    compare (α := Int ×ₗ Int ×ₗ Int) (toLex (i, toLex (e, m))) (toLex (j, toLex (f, n))) =
      (compare i j).then ((compare e f).then (compare m n)) := by
  simp only [Prod.Lex.compare_def, compareLex, compareOn, ofLex_toLex]

theorem compare_natCast (m n : Nat) : compare (m : Int) n = compare m n := by
  rw [← cmp_eq_compare, ← cmp_eq_compare]
  exact Nat.strictMono_cast.cmp_map_eq m n

theorem compare_neg (a b : Int) : compare (-a) (-b) = compare b a := by
  have hanti : StrictAnti fun a : Int => -a := fun _ _ => Int.neg_lt_neg
  rw [← cmp_eq_compare, ← cmp_eq_compare]
  exact hanti.cmp_map_eq a b

/-- **Floats are compared by their ranks.** -/
theorem unpacked_compare_eq (a b : UnpackedFloat) :
    a.compare b = (rank? a).bind fun p => (rank? b).map (compare p) := by
  cases a with
  | notANumber => rfl
  | zero s =>
    cases b with
    | notANumber => rfl
    | zero t => cases s <;> cases t <;> rfl
    | infinity t | finite t n f hn => cases t <;> rfl
  | infinity s =>
    cases b with
    | notANumber | zero t => cases s <;> rfl
    | infinity t | finite t n f hn => cases s <;> cases t <;> rfl
  | finite s m e hm =>
    cases b with
    | notANumber | zero t => cases s <;> rfl
    | infinity t => cases s <;> cases t <;> rfl
    | finite t n f hn =>
      -- of one sign, exponents weigh more than mantissas; below zero both count downwards
      cases s with
      | positive =>
        cases t with
        | positive =>
          simp only [UnpackedFloat.compare, rank?, Option.bind_some, Option.map_some, compare_rank,
            compare_natCast]
          rfl
        | negative => rfl
      | negative =>
        cases t with
        | positive => rfl
        | negative =>
          simp only [UnpackedFloat.compare, rank?, Option.bind_some, Option.map_some, compare_rank,
            compare_neg, compare_natCast, Ordering.swap_then, Int.compare_swap, Nat.compare_swap]
          rfl

theorem unpacked_le_iff (a b : UnpackedFloat) :
    a.le b = true ↔ ∃ p q, rank? a = some p ∧ rank? b = some q ∧ p ≤ q := by
  rw [UnpackedFloat.le, unpacked_compare_eq]
  cases rank? a <;> cases rank? b <;> simp [← compare_le_iff_le, Ordering.isLE_iff_ne_gt]

theorem unpacked_lt_iff (a b : UnpackedFloat) :
    a.lt b = true ↔ ∃ p q, rank? a = some p ∧ rank? b = some q ∧ p < q := by
  rw [UnpackedFloat.lt, unpacked_compare_eq]
  cases rank? a <;> cases rank? b <;> simp [← compare_lt_iff_lt]

variable {x y z : Float}

theorem le_iff_unpacked : x ≤ y ↔ x.toModel.unpack.le y.toModel.unpack = true :=
  ⟨fun h => of_decide_eq_true (p := x.toModel.unpack.le y.toModel.unpack = true) h,
    fun h => decide_eq_true (p := x.toModel.unpack.le y.toModel.unpack = true) h⟩

theorem lt_iff_unpacked : x < y ↔ x.toModel.unpack.lt y.toModel.unpack = true :=
  ⟨fun h => of_decide_eq_true (p := x.toModel.unpack.lt y.toModel.unpack = true) h,
    fun h => decide_eq_true (p := x.toModel.unpack.lt y.toModel.unpack = true) h⟩

/-- What lies below a float lies below all that is above it. -/
theorem float_le_trans (hxy : x ≤ y) (hyz : y ≤ z) : x ≤ z := by
  rw [le_iff_unpacked, unpacked_le_iff] at hxy hyz ⊢
  obtain ⟨p, q, hp, hq, hpq⟩ := hxy
  obtain ⟨q', r, hq', hr, hqr⟩ := hyz
  obtain rfl : q = q' := Option.some.inj (hq.symm.trans hq')
  exact ⟨p, r, hp, hr, hpq.trans hqr⟩

theorem float_lt_of_le_of_lt (hxy : x ≤ y) (hyz : y < z) : x < z := by
  rw [le_iff_unpacked, unpacked_le_iff] at hxy
  rw [lt_iff_unpacked, unpacked_lt_iff] at hyz ⊢
  obtain ⟨p, q, hp, hq, hpq⟩ := hxy
  obtain ⟨q', r, hq', hr, hqr⟩ := hyz
  obtain rfl : q = q' := Option.some.inj (hq.symm.trans hq')
  exact ⟨p, r, hp, hr, hpq.trans_lt hqr⟩

end VirtualPrinter.Number
