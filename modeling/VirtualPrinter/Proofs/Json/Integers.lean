import VirtualPrinter.Proofs.Json.Floats
import VirtualPrinter.Proofs.Number.Whole
import VirtualPrinter.Proofs.Outcome

/-!
# Integers of any size

An integer as written has no point and no exponent.  If it does not fit sixty-four bits it is read as a
float nevertheless: the digits that fit are counted, and the count is moved by the number of those that
are left.  The float is as large as the integer, nearly, and an integer with hundreds of digits has none.

## Main results

* `ofInt_value_of_collect`: the value of an integer, by the digits that are counted and those left.
* `exists_ofInt_value`: an integer is read unless it is too large for a float.
* `real_of_not_inRange`: an integer that does not fit is read as a large float.
-/

namespace VirtualPrinter.Json

open Decimal (digitsOf signed)
open VirtualPrinter.Number (AtLeast upperLimit)

/-! ### Counting -/

/-- A count that takes no further digit is large. -/
theorem collect_stops {n : Nat} {ds : List Char} (h : ∀ c ∈ ds, c.isDigit)
    (hleft : (Numeral.collect n ds).2 ≠ []) : 60 ≤ (Numeral.collect n ds).1.log2 := by
  -- along the digits that are counted
  induction ds generalizing n with
  | nil => exact absurd rfl hleft
  | cons c ds ih =>
    rw [Numeral.collect] at hleft ⊢
    split
    · next hlt =>
      rw [if_pos hlt] at hleft
      exact ih (fun b hb => h b (List.mem_cons_of_mem _ hb)) hleft
    · next hge =>
      have hdigit := (Char.isDigit_iff_toNat.mp (h c List.mem_cons_self)).2
      have hzero : '0'.toNat = 48 := rfl
      have hnine : '9'.toNat = 57 := rfl
      rw [Nat.pow_eq, hzero] at hge
      exact (Nat.le_log2 (by omega)).mpr (by omega)

/-- What is counted of an integer, moved by the digits that are left, does not pass it. -/
theorem collect_le (n : Nat) {count : Nat} {left : List Char}
    (h : Numeral.collect 0 (digitsOf n) = (count, left)) : count * 10 ^ left.length ≤ n := by
  obtain ⟨counted, hsplit, hvalue⟩ := collect_spec 0 (digitsOf n)
  rw [h] at hsplit hvalue
  dsimp only at hsplit hvalue
  calc count * 10 ^ left.length
    _ ≤ Nat.ofDigitChars 10 left count := le_ofDigitChars count left
    _ = Nat.ofDigitChars 10 (digitsOf n) 0 := by rw [hvalue, ← Nat.ofDigitChars_append, ← hsplit]
    _ = n := ofDigitChars_digitsOf n

/-- The value of an integer as written. -/
theorem ofInt_value_of_collect {k : Int} {count : Nat} {left : List Char}
    (h : Numeral.collect 0 (digitsOf k.natAbs) = (count, left)) :
    (Numeral.ofInt k).value =
      if left = [] then .ok (Numeral.integer (decide (k < 0)) count)
      else (Numeral.scaled count.toUInt64.toFloat left.length).map fun x =>
        .real (signed (decide (k < 0)) x) := by
  rw [Numeral.value, Numeral.ofInt, h]
  cases left <;> rfl

/-- **An integer is read unless it is too large for a float.** -/
theorem exists_ofInt_value {k : Int} (hk : k.natAbs ≤ upperLimit) :
    ∃ n, (Numeral.ofInt k).value = .ok n := by
  obtain ⟨⟨count, left⟩, hcollect⟩ : ∃ p, Numeral.collect 0 (digitsOf k.natAbs) = p := ⟨_, rfl⟩
  rw [ofInt_value_of_collect hcollect]
  split
  · exact ⟨_, rfl⟩
  · have hcount : count < 2 ^ 64 := by
      have hlt := collect_lt (n := 0) (by decide) (digitsOf k.natAbs)
      rwa [hcollect, Nat.pow_eq] at hlt
    obtain ⟨y, hy⟩ := scaled_ok (s := left.length) hcount fun _ => by
      rw [Int.toNat_natCast]
      exact (collect_le _ hcollect).trans hk
    exact ⟨_, by rw [hy]; rfl⟩

/-! ### Large integers -/

/-- A large count that is moved up is large. -/
theorem atLeast_scaled {c j : Nat} {y : Float} (hc : 2 ^ 60 ≤ c) (hc' : c < 2 ^ 64) (hj : 0 < j)
    (h : Numeral.scaled c.toUInt64.toFloat j = .ok y) : AtLeast 63 y.toModel.unpack := by
  have hlog : 60 ≤ c.log2 := (Nat.le_log2 (by omega)).mpr hc
  have hcount := Number.atLeast_toFloat (by omega) hc'
  have hpower := Number.atLeast_ofScientific (c := 1) (by decide) j
  have hten : 3 ≤ (10 ^ j).log2 := (Nat.le_log2 (Nat.pow_pos (by decide)).ne').mpr
    (le_trans (by decide) (Nat.pow_le_pow_right (by decide) hj))
  unfold Numeral.scaled at h
  rw [if_neg (by omega)] at h
  split at h
  · dsimp only at h
    split at h
    · cases h
    · cases h
      exact (Number.atLeast_mul hcount hpower (by omega)).mono (by omega)
  · split at h
    · next hzero =>
      -- the count is not zero
      have hlarge := hcount.mono (show ((53 : Nat) : Int) ≤ c.log2 by omega)
      exact absurd hzero (Number.not_beq_ofNat_of_atLeast (c := 0) hlarge
        (by decide) le_rfl)
    · cases h

/-- **An integer that does not fit sixty-four bits is read as a large float**, if it is read. -/
theorem real_of_not_inRange {k : Int} (hk : ¬(Number.int k).InRange) {n : Number}
    (h : (Numeral.ofInt k).value = .ok n) :
    ∃ y, n = .real (signed (decide (k < 0)) y) ∧ y.isFinite ∧ AtLeast 63 y.toModel.unpack := by
  obtain ⟨⟨count, left⟩, hcollect⟩ : ∃ p, Numeral.collect 0 (digitsOf k.natAbs) = p := ⟨_, rfl⟩
  have hcount : count < 2 ^ 64 := by
    have hlt := collect_lt (n := 0) (by decide) (digitsOf k.natAbs)
    rwa [hcollect, Nat.pow_eq] at hlt
  rw [ofInt_value_of_collect hcollect] at h
  split at h
  · next hleft =>
    -- all digits are counted, and the integer is too far down
    subst hleft
    have hvalue : count = k.natAbs := by
      obtain ⟨counted, hsplit, hvalue⟩ := collect_spec 0 (digitsOf k.natAbs)
      rw [hcollect] at hsplit hvalue
      dsimp only at hsplit hvalue
      rw [List.append_nil] at hsplit
      rw [hvalue, ← hsplit, ofDigitChars_digitsOf]
    have hlow : k < 0 ∧ Nat.pow 2 63 < count := by
      by_contra hin
      refine hk ⟨?_, ?_⟩ <;> simp only [Nat.pow_eq] at hin ⊢ <;> omega
    rw [Numeral.integer, decide_eq_true hlow.1, if_pos rfl, if_pos (.inr hlow.2)] at h
    cases h
    have hpos : 2 ^ 63 < count := hlow.2
    have hlog : 63 ≤ count.log2 := (Nat.le_log2 (by omega)).mpr hpos.le
    exact ⟨count.toUInt64.toFloat, by rw [decide_eq_true hlow.1]; rfl,
      Number.isFinite_of_below (Number.below_toFloat hcount),
      (Number.atLeast_toFloat (by omega) hcount).mono (by omega)⟩
  · next hleft =>
    obtain ⟨y, hy, rfl⟩ := Outcome.map_eq_ok_iff.mp h
    have hlog := collect_stops (n := 0) (digitsOf_digits k.natAbs).2 (by rwa [hcollect])
    rw [hcollect] at hlog
    have hlarge : 2 ^ 60 ≤ count := by
      have hne : count ≠ 0 := by
        rintro rfl
        exact absurd hlog (show ¬60 ≤ Nat.log2 0 by decide)
      exact (Nat.le_log2 hne).mp hlog
    exact ⟨y, rfl, Number.isFinite_scaled hcount hy,
      atLeast_scaled hlarge hcount (List.length_pos_iff.mpr hleft) hy⟩

end VirtualPrinter.Json
