import Mathlib
import VirtualPrinter.Decimal.Places

/-!
# The nearest whole number

A quotient is rounded to the whole number that is nearest to it, and half way between two of them to
the even one.  There is one such number only, so that all there is to say of a rounded quotient can be
read off the quotient itself.

## Main definitions

* `Decimal.Nearest`: a whole number is nearest to a value.

## Main results

* `Nearest.unique`: there is one nearest number.
* `roundDiv_nearest`, `inUnits_nearest`: what is rounded to the nearest number.
* `nearest_zero_iff`, `Nearest.le`: when it is zero, and what it does not pass.
-/

namespace VirtualPrinter.Decimal

/-- A whole number is nearest to a value; half way between two of them, it is the even one. -/
structure Nearest (n : Nat) (q : ℚ) : Prop where
  near : |q - n| ≤ 1 / 2
  even : |q - n| = 1 / 2 → Even n

variable {m n : Nat} {q : ℚ}

/-- Numbers that are nearest to one value are no more than one apart. -/
theorem Nearest.le_succ (hm : Nearest m q) (hn : Nearest n q) : m ≤ n + 1 := by
  have hlow := (abs_le.mp hm.near).1
  have hhigh := (abs_le.mp hn.near).2
  have hle : (m : ℚ) ≤ (n + 1 : Nat) := by
    push_cast
    linarith
  exact_mod_cast hle

/-- If they were one apart, the value would be half way between them, and both of them even. -/
theorem Nearest.ne_succ (hm : Nearest m q) (hn : Nearest n q) : m ≠ n + 1 := by
  rintro rfl
  have hlow := (abs_le.mp hm.near).1
  have hhigh := (abs_le.mp hn.near).2
  push_cast at hlow
  have hq : q - n = 1 / 2 := by linarith
  have heven : Even n := hn.even (by rw [hq, abs_of_pos one_half_pos])
  have heven' : Even (n + 1) := hm.even <| by
    have hq' : q - (n + 1 : Nat) = -(1 / 2) := by
      push_cast
      linarith
    rw [hq', abs_neg, abs_of_pos one_half_pos]
  exact Nat.not_even_iff_odd.mpr heven.add_one heven'

/-- **There is one nearest number.** -/
theorem Nearest.unique (hm : Nearest m q) (hn : Nearest n q) : m = n := by
  have := hm.le_succ hn
  have := hn.le_succ hm
  have := hm.ne_succ hn
  have := hn.ne_succ hm
  omega

/-- What rounds to nothing: half a unit at most. -/
theorem nearest_zero_iff : Nearest 0 q ↔ |q| ≤ 1 / 2 :=
  ⟨fun h => by simpa using h.near, fun h => ⟨by simpa using h, fun _ => Even.zero⟩⟩

/-- A whole number that a value does not pass is not passed by what is nearest to it, either. -/
theorem Nearest.le (h : Nearest n q) (hq : q ≤ m) : n ≤ m := by
  have hlow := (abs_le.mp h.near).1
  have hlt : (n : ℚ) < (m + 1 : Nat) := by
    push_cast
    linarith
  exact Nat.lt_succ_iff.mp (by exact_mod_cast hlt)

/-! ### Quotients -/

theorem Nearest.of_lt (h : |q - n| < 1 / 2) : Nearest n q := ⟨h.le, fun he => absurd he h.ne⟩

theorem Nearest.of_even (hn : Even n) (h : |q - n| = 1 / 2) : Nearest n q := ⟨h.le, fun _ => hn⟩

/-- **A rounded quotient is the whole number nearest to the exact one.** -/
theorem roundDiv_nearest (num : Nat) {den : Nat} (hden : 0 < den) :
    Nearest (roundDiv num den) (num / den) := by
  have hpos : (0 : ℚ) < den := by exact_mod_cast hden
  set q := num / den with hq
  set r := num % den with hr
  have hsplit : (num : ℚ) / den = q + r / den := by
    have hnum : (num : ℚ) = den * q + r := by exact_mod_cast (Nat.div_add_mod num den).symm
    rw [hnum, add_div, mul_div_cancel_left₀ _ hpos.ne']
  have hrest : (0 : ℚ) ≤ r / den := by positivity
  have hrest' : (r : ℚ) / den < 1 := by
    rw [div_lt_one hpos]
    exact_mod_cast Nat.mod_lt num hden
  simp only [roundDiv, ← hq, ← hr]
  rw [hsplit]
  -- the remainder is compared with half of the divisor
  split
  · next hc =>
    have hbelow : (r : ℚ) / den < 1 / 2 := by
      rw [div_lt_iff₀ hpos, one_div_mul_eq_div, lt_div_iff₀' two_pos]
      exact_mod_cast Nat.compare_eq_lt.mp hc
    exact .of_lt (abs_lt.mpr ⟨by linarith, by linarith⟩)
  · next hc =>
    have habove : 1 / 2 < (r : ℚ) / den := by
      rw [lt_div_iff₀ hpos, one_div_mul_eq_div, div_lt_iff₀' two_pos]
      exact_mod_cast Nat.compare_eq_gt.mp hc
    exact .of_lt (abs_lt.mpr ⟨by push_cast; linarith, by push_cast; linarith⟩)
  · next hc =>
    have hhalf : (r : ℚ) / den = 1 / 2 := by
      rw [div_eq_div_iff hpos.ne' two_ne_zero, mul_comm, one_mul]
      exact_mod_cast Nat.compare_eq_eq.mp hc
    rw [hhalf]
    split
    · next heven => exact .of_even (Nat.even_iff.mpr (eq_of_beq heven)) (by norm_num)
    · next hodd =>
      refine .of_even (Nat.even_iff.mpr ?_) (by push_cast; norm_num)
      simp only [beq_iff_eq] at hodd
      omega

/-- A power of two on either side of a fraction. -/
theorem scaled_fraction (m : Nat) (e : Int) (k : Nat) :
    ((m * 2 ^ e.toNat * k : Nat) : ℚ) / (2 ^ (-e).toNat : Nat) = m * 2 ^ e * k := by
  have hpow : (2 : ℚ) ^ e * 2 ^ (-e).toNat = 2 ^ e.toNat := by
    rw [← zpow_natCast, ← zpow_natCast, ← zpow_add₀ two_ne_zero]
    congr 1
    omega
  rw [div_eq_iff (by positivity)]
  push_cast
  rw [← hpow]
  ring

/-- A positive float is rounded to the nearest count of units. -/
theorem inUnits_nearest (m : Nat) (e : Int) (n : Nat) :
    Nearest (Binary.inUnits ⟨m, e⟩ n) (m * 2 ^ e * 10 ^ n) := by
  have h := roundDiv_nearest (m * 2 ^ e.toNat * 10 ^ n) (Nat.two_pow_pos (-e).toNat)
  rw [scaled_fraction] at h
  push_cast at h
  exact h

end VirtualPrinter.Decimal
