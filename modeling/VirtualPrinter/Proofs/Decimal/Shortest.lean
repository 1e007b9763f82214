import Mathlib
import VirtualPrinter.Decimal.Shortest

/-!
# The size of a shortest decimal

A shortest decimal lies in the interval of the reals that round to its number.  So it is positive, and
it does not pass the halfway point above the number, wherever the search for it has stopped.  Moving
trailing zeros of the digits into the exponent changes neither.

## Main definitions

* `Scientific.AtMost`: a decimal does not pass a whole number.
* `Binary.Below`: the halfway point above a number does not.

## Main results

* `shortest_pos`, `shortest_atMost`
* `stripZeros_pos`, `stripZeros_atMost`
-/

namespace VirtualPrinter.Decimal

/-- The decimal does not pass a whole number. -/
def Scientific.AtMost (d : Scientific) (limit : Nat) : Prop :=
  d.digits * 10 ^ d.exponent.toNat ≤ limit * 10 ^ (-d.exponent).toNat

/-- The halfway point above the number does not pass a whole number. -/
def Binary.Below (x : Binary) (limit : Nat) : Prop :=
  (4 * x.mantissa + 2) * 2 ^ (x.exponent - 2).toNat ≤ limit * 2 ^ (-(x.exponent - 2)).toNat

variable {x : Binary} {d : Scientific} {limit : Nat}

/-! ### The interval of a number -/

theorem compareScaled_ne_gt {a n : Nat} {i j : Int} (h : compareScaled a i n j ≠ .gt) :
    a * 10 ^ i.toNat * 2 ^ (-j).toNat ≤ n * 2 ^ j.toNat * 10 ^ (-i).toNat :=
  Nat.le_of_not_lt fun hlt => h (compare_gt_iff_gt.mpr hlt)

/-- What reads back does not pass the halfway point above. -/
theorem atMost_of_readsBack (h : x.readsBack d = true) (hx : x.Below limit) : d.AtMost limit := by
  have hhigh : compareScaled d.digits d.exponent (4 * x.mantissa + 2) (x.exponent - 2) ≠ .gt := by
    intro hgt
    simp [Binary.readsBack, hgt] at h
  refine Nat.le_of_mul_le_mul_right ?_ (Nat.two_pow_pos (-(x.exponent - 2)).toNat)
  calc d.digits * 10 ^ d.exponent.toNat * 2 ^ (-(x.exponent - 2)).toNat
    _ ≤ (4 * x.mantissa + 2) * 2 ^ (x.exponent - 2).toNat * 10 ^ (-d.exponent).toNat :=
        compareScaled_ne_gt hhigh
    _ ≤ limit * 2 ^ (-(x.exponent - 2)).toNat * 10 ^ (-d.exponent).toNat :=
        Nat.mul_le_mul_right _ hx
    _ = limit * 10 ^ (-d.exponent).toNat * 2 ^ (-(x.exponent - 2)).toNat := by ring

/-- The number itself lies below the halfway point. -/
theorem Binary.Below.self (h : x.Below limit) :
    x.mantissa * 2 ^ x.exponent.toNat ≤ limit * 2 ^ (-x.exponent).toNat := by
  obtain ⟨m, e⟩ := x
  unfold Binary.Below at h
  dsimp only at h ⊢
  rcases le_or_gt 2 e with he | he
  · obtain ⟨k, rfl⟩ : ∃ k : Nat, e = k + 2 := ⟨(e - 2).toNat, by omega⟩
    have h₁ : ((k : Int) + 2 - 2).toNat = k := by omega
    have h₂ : (-((k : Int) + 2 - 2)).toNat = 0 := by omega
    have h₃ : ((k : Int) + 2).toNat = k + 2 := by omega
    have h₄ : (-((k : Int) + 2)).toNat = 0 := by omega
    rw [h₁, h₂] at h
    rw [h₃, h₄]
    calc m * 2 ^ (k + 2) = 4 * m * 2 ^ k := by ring
      _ ≤ (4 * m + 2) * 2 ^ k := Nat.mul_le_mul_right _ (by omega)
      _ ≤ limit * 2 ^ 0 := h
  · obtain ⟨k, hk⟩ : ∃ k : Nat, (-(e - 2)).toNat = k := ⟨_, rfl⟩
    have h₁ : (e - 2).toNat = 0 := by omega
    rw [h₁, hk] at h
    rcases le_or_gt 0 e with he' | he'
    · -- one or two, as a factor
      obtain rfl | rfl : e = 0 ∨ e = 1 := by omega
      · obtain rfl : k = 2 := by omega
        simp at h ⊢
        omega
      · obtain rfl : k = 1 := by omega
        simp at h ⊢
        omega
    · obtain ⟨j, rfl⟩ : ∃ j, k = j + 2 := ⟨k - 2, by omega⟩
      have h₂ : e.toNat = 0 := by omega
      have h₃ : (-e).toNat = j := by omega
      have h₄ : limit * 2 ^ (j + 2) = 4 * (limit * 2 ^ j) := by ring
      rw [h₂, h₃]
      omega

theorem exact_atMost (h : x.Below limit) : x.exact.AtMost limit := by
  have hself := h.self
  unfold Scientific.AtMost Binary.exact
  dsimp only
  have h₁ : (min x.exponent 0).toNat = 0 := by omega
  have h₂ : (-min x.exponent 0).toNat = (-x.exponent).toNat := by omega
  rw [h₁, h₂]
  calc x.mantissa * 2 ^ x.exponent.toNat * 5 ^ (-x.exponent).toNat * 10 ^ 0
    _ ≤ limit * 2 ^ (-x.exponent).toNat * 5 ^ (-x.exponent).toNat * 10 ^ 0 :=
        Nat.mul_le_mul_right _ (Nat.mul_le_mul_right _ hself)
    _ = limit * (2 * 5) ^ (-x.exponent).toNat := by
        rw [mul_pow, pow_zero, mul_one, mul_assoc]

/-! ### The search -/

/-- A decimal that the search takes is positive and reads back. -/
theorem onGrid_eq_some {tie : Tie} {e : Int} (h : x.onGrid tie e = some d) :
    0 < d.digits ∧ x.readsBack d = true := by
  unfold Binary.onGrid at h
  dsimp only at h
  split at h
  · next hbelow habove =>
    rw [Bool.and_eq_true, bne_iff_ne] at hbelow
    have hpos : 0 < x.floorAt e := Nat.pos_of_ne_zero hbelow.2
    split at h <;> cases h
    · exact ⟨hpos, hbelow.1⟩
    · exact ⟨Nat.succ_pos _, habove⟩
    · exact ⟨Nat.succ_pos _, habove⟩
    · split
      · exact ⟨hpos, hbelow.1⟩
      · exact ⟨Nat.succ_pos _, habove⟩
  · next hbelow _ =>
    cases h
    rw [Bool.and_eq_true, bne_iff_ne] at hbelow
    exact ⟨Nat.pos_of_ne_zero hbelow.2, hbelow.1⟩
  · next habove =>
    cases h
    exact ⟨Nat.succ_pos _, habove⟩
  · cases h

/-- The search ends with a decimal that reads back, or with the number itself. -/
theorem shortest_cases (x : Binary) (tie : Tie) :
    (0 < (x.shortest tie).digits ∧ x.readsBack (x.shortest tie) = true) ∨
      x.shortest tie = x.exact := by
  unfold Binary.shortest
  dsimp only
  -- the grids get finer, and the first one with a decimal that reads back decides
  cases h : (List.range 17).findSome? fun (n : Nat) => x.onGrid tie (x.scale - (n : Int) - 1) with
  | none => exact .inr rfl
  | some d =>
    obtain ⟨n, -, hn⟩ := List.exists_of_findSome?_eq_some h
    exact .inl (onGrid_eq_some hn)

theorem shortest_pos (hx : 0 < x.mantissa) (tie : Tie) : 0 < (x.shortest tie).digits := by
  rcases shortest_cases x tie with h | h
  · exact h.1
  · rw [h]
    exact Nat.mul_pos (Nat.mul_pos hx (Nat.pow_pos (by decide))) (Nat.pow_pos (by decide))

/-- **A shortest decimal does not pass the halfway point above its number.** -/
theorem shortest_atMost (hx : x.Below limit) (tie : Tie) : (x.shortest tie).AtMost limit := by
  rcases shortest_cases x tie with h | h
  · exact atMost_of_readsBack h.2 hx
  · rw [h]
    exact exact_atMost hx

/-! ### Trailing zeros -/

theorem stripZeros_pos (tries : Nat) (h : 0 < d.digits) : 0 < (d.stripZeros tries).digits := by
  induction tries generalizing d with
  | zero => exact h
  | succ tries ih =>
    rw [Scientific.stripZeros]
    split
    · next hz =>
      simp only [Bool.and_eq_true, beq_iff_eq, bne_iff_ne] at hz
      exact ih (show 0 < d.digits / 10 by omega)
    · exact h

/-- Ten times fewer units of ten times the size. -/
theorem atMost_shift (hd : d.digits % 10 = 0) (h : d.AtMost limit) :
    Scientific.AtMost ⟨d.digits / 10, d.exponent + 1⟩ limit := by
  obtain ⟨digits, e⟩ := d
  unfold Scientific.AtMost at *
  dsimp only at *
  obtain ⟨q, rfl⟩ : ∃ q, digits = 10 * q := ⟨digits / 10, by omega⟩
  rw [Nat.mul_div_cancel_left q (by decide)]
  rcases le_or_gt 0 e with he | he
  · have h₁ : (e + 1).toNat = e.toNat + 1 := by omega
    have h₂ : (-(e + 1)).toNat = (-e).toNat := by omega
    rw [h₁, h₂]
    calc q * 10 ^ (e.toNat + 1) = 10 * q * 10 ^ e.toNat := by ring
      _ ≤ limit * 10 ^ (-e).toNat := h
  · have h₁ : e.toNat = 0 := by omega
    have h₂ : (e + 1).toNat = 0 := by omega
    have h₃ : (-e).toNat = (-(e + 1)).toNat + 1 := by omega
    rw [h₁, h₃, pow_succ] at h
    rw [h₂]
    have h₄ : limit * (10 ^ (-(e + 1)).toNat * 10) = 10 * (limit * 10 ^ (-(e + 1)).toNat) := by ring
    omega

theorem stripZeros_atMost (tries : Nat) (h : d.AtMost limit) : (d.stripZeros tries).AtMost limit := by
  induction tries generalizing d with
  | zero => exact h
  | succ tries ih =>
    rw [Scientific.stripZeros]
    split
    · next hz =>
      simp only [Bool.and_eq_true, beq_iff_eq] at hz
      exact ih (atMost_shift hz.1 h)
    · exact h

/-- The leading digit of a positive decimal that does not pass `10 ^ k` stands before position `k`. -/
theorem lead_lt {k : Nat} (hd : 0 < d.digits) (h : d.AtMost limit) (hl : limit < 10 ^ k) :
    d.exponent + (Nat.toDigits 10 d.digits).length - 1 < k := by
  obtain ⟨digits, e⟩ := d
  unfold Scientific.AtMost at h
  dsimp only at *
  obtain ⟨n, hn⟩ : ∃ n, (Nat.toDigits 10 digits).length = n + 1 :=
    Nat.exists_eq_succ_of_ne_zero Nat.length_toDigits_pos.ne'
  -- the first of the n + 1 digits is not zero
  have hlow : 10 ^ n ≤ digits := by
    rcases Nat.eq_zero_or_pos n with rfl | hpos
    · rw [pow_zero]
      exact hd
    · refine Nat.le_of_not_lt fun hlt => ?_
      have := (Nat.length_toDigits_le_iff (by decide) hpos).mpr hlt
      omega
  have hpow : 10 ^ (n + e.toNat) < 10 ^ (k + (-e).toNat) := by
    calc 10 ^ (n + e.toNat) = 10 ^ n * 10 ^ e.toNat := pow_add _ _ _
      _ ≤ digits * 10 ^ e.toNat := Nat.mul_le_mul_right _ hlow
      _ ≤ limit * 10 ^ (-e).toNat := h
      _ < 10 ^ k * 10 ^ (-e).toNat := Nat.mul_lt_mul_of_pos_right hl (Nat.pow_pos (by decide))
      _ = 10 ^ (k + (-e).toNat) := (pow_add _ _ _).symm
  have hexp := (Nat.pow_lt_pow_iff_right (by decide)).mp hpow
  omega

end VirtualPrinter.Decimal
