import VirtualPrinter.Proofs.Number.Value

/-!
# Numbers in columns

A float is written with a fixed number of places as the count of units of the last place that is
nearest to it.  Rounding may lead up to the next power of ten, but not past a whole number that the
float does not pass; so the numbers of a range have a greatest width, and fit a column of that width.
The sign of a negative zero is written, and takes a column, too.

## Main definitions

* `Decimal.Shows`: a text tells a float, rounded to a number of places.
* `Decimal.RightAligned`: a text at the right end of a column.

## Main results

* `places_shows`: what is written of a float.
* `Shows.length_le`: how wide it is.
* `padLeft_rightAligned`: a text that fits a column is put at its right end.
-/

namespace VirtualPrinter.Decimal

open Float.Model (UnpackedFloat)
open Float.Model.UnpackedFloat (Sign)
open Number (HasSign value)

/-! ### Rounded numbers -/

/-- A text tells a float with `n` digits behind the point: its sign if it is negative, and the count of
units of the last place that is nearest to its magnitude, without zeros in front that could be left
out. -/
def Shows (n : Nat) (x : Float) (text : List Char) : Prop :=
  ∃ s units fraction, HasSign s x.toModel.unpack ∧ Nearest units (|value x| * 10 ^ n) ∧
    text = signText s ++ (digitsOf (units / 10 ^ n) ++ '.' :: fraction) ∧
    (∀ c ∈ fraction, c.isDigit) ∧ fraction.length = n ∧
    ofDigits (digitsOf (units / 10 ^ n) ++ fraction) = units

variable {n : Nat} {x : Float} {text : List Char}

theorem abs_value {s : Sign} {m : Nat} {e : Int} {hm : 0 < m}
    (h : x.toModel.unpack = .finite s m e hm) : |value x| = m * 2 ^ e := by
  have hnonneg : (0 : ℚ) ≤ m * 2 ^ e := by positivity
  cases s with
  | positive => rw [Number.value_of_positive h, abs_of_nonneg hnonneg]
  | negative => rw [Number.value_of_negative h, abs_neg, abs_of_nonneg hnonneg]

/-- **A finite float is written as it is rounded.** -/
theorem places_shows (hx : x.isFinite) (n : Nat) : Shows n x (places n x) := by
  rcases Number.unpack_of_finite hx with ⟨s, hu⟩ | ⟨s, m, e, hm, hu⟩
  · obtain ⟨fraction, hpointed, hdigits, hlength, hunits⟩ := exists_pointed n 0
    refine ⟨s, 0, fraction, by rw [hu]; rfl, ?_, ?_, hdigits, hlength, hunits⟩
    · rw [Number.value_of_zero hu, abs_zero, zero_mul]
      exact nearest_zero_iff.mpr (by norm_num)
    · rw [places, hu, ← hpointed]
  · obtain ⟨fraction, hpointed, hdigits, hlength, hunits⟩ := exists_pointed n (Binary.inUnits ⟨m, e⟩ n)
    refine ⟨s, _, fraction, by rw [hu]; rfl, ?_, ?_, hdigits, hlength, hunits⟩
    · rw [abs_value hu]
      exact inUnits_nearest m e n
    · rw [places, hu, ← hpointed]

/-! ### Widths -/

theorem length_digitsOf_le {k units : Nat} (hk : 0 < k) (h : units < 10 ^ k) :
    (digitsOf units).length ≤ k :=
  (Nat.length_toDigits_le_iff (by decide) hk).mpr h

/-- What has a sign and is not negative all the same is zero. -/
theorem value_eq_zero_of_hasSign (hx : x.isFinite) (h : 0 ≤ x)
    (hs : HasSign .negative x.toModel.unpack) : value x = 0 := by
  rcases unpack_of_nonneg hx h with ⟨s, hu⟩ | ⟨m, e, hm, hu⟩
  · exact Number.value_of_zero hu
  · rw [hu] at hs
    cases hs

/-- **How wide a number of a range is**: it has no more digits in front of the point than the whole
number that it does not pass. -/
theorem Shows.length_le (hs : Shows n x text) {k M : Nat} (hk : 2 ≤ k) (hM : 0 < M)
    (hsmall : M < 2 ^ 53) (hwidth : M < 10 ^ k) (hx : 0 ≤ x) (hle : x ≤ Float.ofNat M) :
    text.length ≤ k + 1 + n := by
  obtain ⟨s, units, fraction, hsign, hnear, rfl, -, hlength, -⟩ := hs
  have hfinite : x.isFinite := isFinite_of_between hM hsmall hx hle
  simp only [List.length_append, List.length_cons, hlength]
  cases s with
  | positive =>
    have hvalue : |value x| ≤ M := by
      rw [abs_of_nonneg ((Number.value_nonneg_iff hfinite).mpr hx)]
      exact Number.value_le_ofNat hM hsmall hx hle
    have hunits : units ≤ M * 10 ^ n := hnear.le (by push_cast; gcongr)
    have hwhole : units / 10 ^ n ≤ M := Nat.div_le_of_le_mul (by rwa [Nat.mul_comm])
    have hdigits := length_digitsOf_le (by omega) (lt_of_le_of_lt hwhole hwidth)
    simp only [signText, List.length_nil]
    omega
  | negative =>
    -- nothing but a zero has a sign here
    rw [value_eq_zero_of_hasSign hfinite hx hsign, abs_zero, zero_mul] at hnear
    obtain rfl : units = 0 := hnear.unique (nearest_zero_iff.mpr (by norm_num))
    have hdigits : (digitsOf (0 / 10 ^ n)).length ≤ 1 := length_digitsOf_le one_pos (by simp)
    simp only [signText, List.length_singleton]
    omega

/-! ### Columns -/

/-- A column of a width has a text at its right end, and blanks in front of it. -/
def RightAligned (width : Nat) (text column : List Char) : Prop :=
  column.length = width ∧ ∃ blanks, column = List.replicate blanks ' ' ++ text

/-- A text that fits a column is put at its right end. -/
theorem padLeft_rightAligned {width : Nat} (h : text.length ≤ width) :
    RightAligned width text (padLeft width text) := by
  refine ⟨?_, _, rfl⟩
  rw [padLeft, List.length_append, List.length_replicate, Nat.sub_add_cancel h]

end VirtualPrinter.Decimal
