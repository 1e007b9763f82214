import VirtualPrinter.Decimal.Places
import VirtualPrinter.Proofs.Decimal.Large
import VirtualPrinter.Proofs.Decimal.Nearest
import VirtualPrinter.Proofs.Decimal.Plain
import VirtualPrinter.Proofs.Json.Floats
import VirtualPrinter.Proofs.Number.Quotient
import VirtualPrinter.Proofs.Number.Truncation

/-!
# Places that are read again

A float that is written with a fixed number of places and read again is another float, as a rule.  It
has not gone far: what is not negative comes back so, or infinite, and what does not pass a small whole
number does not pass it afterwards.  For a whole number is a count of units of the last place, and
neither rounding to such units nor rounding to a float leads past it.

## Main results

* `exists_pointed`: a count of units by its digits in front of the point and behind it.
* `read?_pointed`: it is read by its digits.
* `inUnits_le`: a float is rounded to no more units than a whole number above it has.
* `hasSign_nearest`: the float nearest to a decimal is not negative.
* `nearest_hundredths_le`: it does not pass a whole number that the decimal does not pass.
* `reread_nonneg`, `reread_le`: what two places are read as.
-/

namespace VirtualPrinter.Decimal

open Float.Model (Format UnpackedFloat)
open Float.Model.UnpackedFloat (Sign)
open Json (digitsOf_digits ofDigitChars_digitsOf digits_zeros)
open Number (HasSign)

/-! ### Counts of units -/

theorem ofDigits_zeros_append (k : Nat) (ds : List Char) : ofDigits (zeros k ++ ds) = ofDigits ds := by
  rw [ofDigits_eq, ofDigits_eq, Nat.ofDigitChars_append]
  congr 1
  exact Nat.ofDigitChars_replicate_zero

/-- A count of units with zeros in front, cut before its last digits: in front of the cut stand the
digits of the quotient, and no zeros before them. -/
theorem zeros_append_digitsOf (n units : Nat) : ∃ fraction, fraction.length = n ∧
    zeros (n + 1 - (digitsOf units).length) ++ digitsOf units =
      digitsOf (units / 10 ^ n) ++ fraction := by
  have hbase (k : Nat) : digitsOf k = if k < 10 then [k.digitChar] else
      digitsOf (k / 10) ++ [(k % 10).digitChar] := Nat.toDigits_eq_if (by decide)
  -- induction on the number of places: the last digit is the last of the fraction
  induction n generalizing units with
  | zero =>
    have hpos : 0 < (digitsOf units).length := Nat.length_toDigits_pos
    refine ⟨[], rfl, ?_⟩
    rw [Nat.sub_eq_zero_of_le (by omega), pow_zero, Nat.div_one, List.append_nil]
    rfl
  | succ n ih =>
    have hcut : units / 10 ^ (n + 1) = units / 10 / 10 ^ n := by
      rw [pow_succ', Nat.div_div_eq_div_mul]
    rw [hcut, hbase units]
    split
    · next hsmall =>
      refine ⟨zeros n ++ [units.digitChar], by simp [zeros], ?_⟩
      rw [Nat.div_eq_of_lt hsmall, Nat.zero_div]
      simp [zeros, digitsOf, Nat.toDigits_zero, List.replicate_succ]
    · obtain ⟨fraction, hlength, hdigits⟩ := ih (units / 10)
      refine ⟨fraction ++ [(units % 10).digitChar], by simp [hlength], ?_⟩
      rw [List.length_append, List.length_singleton, Nat.add_sub_add_right, ← List.append_assoc,
        hdigits, List.append_assoc]

/-- A count of units is written as its quotient, with so many digits of it behind the point. -/
theorem exists_pointed (n units : Nat) : ∃ fraction,
    pointed n units = digitsOf (units / 10 ^ n) ++ '.' :: fraction ∧ (∀ c ∈ fraction, c.isDigit) ∧
      fraction.length = n ∧ ofDigits (digitsOf (units / 10 ^ n) ++ fraction) = units := by
  obtain ⟨fraction, hlength, hdigits⟩ := zeros_append_digitsOf n units
  have hunits : ofDigits (digitsOf (units / 10 ^ n) ++ fraction) = units := by
    rw [← hdigits, ofDigits_zeros_append, ofDigits_eq, ofDigitChars_digitsOf]
  refine ⟨fraction, ?_, fun c hc => ?_, hlength, hunits⟩
  · rw [pointed, hdigits, List.length_append, hlength, Nat.add_sub_cancel, List.take_left,
      List.drop_left]
  · have hmem : c ∈ zeros (n + 1 - (digitsOf units).length) ++ digitsOf units :=
      hdigits ▸ List.mem_append_right _ hc
    exact (List.mem_append.mp hmem).elim (digits_zeros _ c) ((digitsOf_digits units).2 c)

theorem not_isAlpha_of_isDigit {c : Char} (h : c.isDigit) : c.isAlpha = false := by
  have hdigits : ∀ n < 58, 48 ≤ n → (Char.ofNat n).isAlpha = false := by decide
  obtain ⟨hlow, hhigh⟩ := Char.isDigit_iff_toNat.mp h
  have halpha := hdigits c.toNat (Nat.lt_succ_of_le hhigh) hlow
  rwa [Char.ofNat_toNat] at halpha

/-- A sign as it is read. -/
def minus? : Sign → Option Bool
  | .negative => some true
  | .positive => none

/-- A count of units is read as the float nearest to it. -/
theorem read?_pointed (s : Sign) (n units : Nat) : read? (signText s ++ pointed n units) =
    some (signed ((minus? s).getD false) (nearest units (-(n : Int)))) := by
  obtain ⟨fraction, htext, hfraction, hlength, hunits⟩ := exists_pointed n units
  obtain ⟨hne, hwhole⟩ := digitsOf_digits (units / 10 ^ n)
  let numeral : PlainNumeral := ⟨minus? s, digitsOf (units / 10 ^ n), some fraction, hwhole, hfraction,
    fun h => hne (List.append_eq_nil_iff.mp h).1⟩
  have hplain : ∀ c ∈ signText s ++ pointed n units, c.isAlpha = false := by
    intro c hc
    rw [htext] at hc
    simp only [List.mem_append, List.mem_cons] at hc
    rcases hc with hc | hc | rfl | hc
    · cases s with
      | positive => cases hc
      | negative =>
        obtain rfl := List.mem_singleton.mp hc
        rfl
    · exact not_isAlpha_of_isDigit (hwhole c hc)
    · rfl
    · exact not_isAlpha_of_isDigit (hfraction c hc)
  refine (read?_eq_some_iff hplain).mpr ⟨numeral, ?_, ?_⟩
  · rw [htext]
    cases s <;> rfl
  · have hvalue : numeral.value = signed ((minus? s).getD false)
        (nearest (ofDigits (digitsOf (units / 10 ^ n) ++ fraction)) (-(fraction.length : Int))) := rfl
    rw [hvalue, hunits, hlength]

/-! ### Rounding to units -/

/-- A float is rounded to no more units than a whole number above it has. -/
theorem inUnits_le {m M : Nat} {e : Int} (h : (m : ℚ) * 2 ^ e ≤ M) (n : Nat) :
    Binary.inUnits ⟨m, e⟩ n ≤ M * 10 ^ n := by
  refine (inUnits_nearest m e n).le ?_
  push_cast
  gcongr

/-! ### The nearest float -/

theorem hasSign_of_atLeast {k : Int} {u : UnpackedFloat} (h : Number.AtLeast k u) :
    HasSign .positive u := by
  cases u with
  | notANumber => trivial
  | infinity t => exact h
  | zero t => exact h.elim
  | finite t m e hm => exact h.1

theorem hasSign_toFloat (c : UInt64) : HasSign .positive c.toFloat.toModel.unpack := by
  refine Number.hasSign_pack ?_
  change HasSign .positive (UnpackedFloat.normalize _ (c.toNat : Int) 0 .positive)
  unfold UnpackedFloat.normalize
  split
  · next h => exact absurd h (by simp [compare_lt_iff_lt])
  · rfl
  · exact Number.hasSign_roundWithAccuracy _ _ _ _

/-- A float that is made from a decimal is not negative. -/
theorem hasSign_ofScientific (c : Nat) (negative : Bool) (e : Nat) :
    HasSign .positive (Float.ofScientific c negative e).toModel.unpack := by
  rw [Float.ofScientific]
  split
  · next h =>
    have htable := hasSign_of_atLeast
      (Number.atLeast_of_reaches (Number.reaches_table ⟨e, Nat.lt_succ_of_le h.2⟩))
    dsimp only
    split
    · exact Number.hasSign_pack (Number.hasSign_div (hasSign_toFloat _) htable)
    · exact Number.hasSign_pack (Number.hasSign_mul (hasSign_toFloat _) htable)
  · refine Number.hasSign_pack ?_
    generalize (if negative = true then Int.negOfNat e else Int.ofNat e) = k
    unfold UnpackedFloat.ofScientific
    split
    · rfl
    · split
      · rfl
      · split
        · rfl
        · split
          · exact Number.hasSign_roundWithAccuracy _ _ _ _
          · exact Number.hasSign_roundWithAccuracy _ _ _ _

/-- The float nearest to a decimal is not negative. -/
theorem hasSign_nearest (digits : Nat) (e : Int) :
    HasSign .positive (nearest digits e).toModel.unpack := by
  have hcases : nearest digits e = 0 ∨ ∃ c negative k, nearest digits e = Float.ofScientific c negative k := by
    unfold nearest
    dsimp only
    split
    · exact .inl rfl
    · split
      · exact .inr ⟨1, false, 400, rfl⟩
      · split
        · exact .inl rfl
        · exact .inr ⟨_, _, _, rfl⟩
  rcases hcases with h | ⟨c, negative, k, h⟩
  · rw [h]
    rfl
  · rw [h]
    exact hasSign_ofScientific c negative k

theorem full_width {c : Nat} (hc : 0 < c) (hc' : c < 2 ^ 53) : 2 ^ 52 ≤ c * 2 ^ (52 - c.log2) := by
  obtain ⟨a, rfl, hlow, -⟩ := Number.toFloat_eq hc (by omega)
  exact hlow

/-- The value of a short whole number that is given the full width. -/
theorem value_full {c : Nat} (hc : c < 2 ^ 53) :
    ((c * 2 ^ (52 - c.log2) : Nat) : ℚ) * 2 ^ ((c.log2 : Int) - 52) = c := by
  have hlog : c.log2 ≤ 52 := Number.log2_le hc
  have hexp : (c.log2 : Int) - 52 = -((52 - c.log2 : Nat) : Int) := by omega
  rw [hexp, zpow_neg, zpow_natCast]
  push_cast
  field_simp

theorem zero_le_of_unpack {z : Float} {m : Nat} {e : Int} {hm : 0 < m}
    (h : z.toModel.unpack = .finite .positive m e hm) {x : Float} {s : Sign}
    (hx : x.toModel.unpack = .zero s) : x ≤ z := by
  rw [Number.le_iff_unpacked, hx, h]
  simp [UnpackedFloat.le, UnpackedFloat.compare]

/-- A count of hundredths that does not pass a whole number is read as a float that does not. -/
theorem nearest_hundredths_le {u M : Nat} (hM : 0 < M) (hsmall : M * 100 < 2 ^ 53)
    (h : u ≤ M * 100) : nearest u (-2) ≤ Float.ofNat M := by
  obtain ⟨hM', hz⟩ := Number.unpack_ofNat hM (by omega)
  rcases Nat.eq_zero_or_pos u with rfl | hu
  · exact zero_le_of_unpack hz Number.unpack_zero
  · have hcount : u < 2 ^ 53 := by omega
    obtain ⟨hu', hx⟩ := Number.unpack_toFloat hu hcount
    have hnearest : nearest u (-2) = u.toUInt64.toFloat / 100 := by
      have hlength : (Nat.toDigits 10 u).length ≤ 16 :=
        (Nat.length_toDigits_le_iff (by decide) (by decide)).mpr (by omega)
      unfold nearest
      rw [if_neg hu.ne']
      dsimp only
      rw [if_neg (by omega), if_neg (by omega)]
      change Float.ofScientific u true 2 = _
      rw [Float.ofScientific, dif_pos ⟨hcount, by decide⟩]
      rfl
    rw [hnearest]
    refine Number.div_le hx Number.unpack_hundred hz (full_width hu hcount) (by decide) (by omega) ?_
    rw [value_full hcount, value_full (by omega)]
    have hle : (u : ℚ) ≤ M * 100 := by exact_mod_cast h
    norm_num
    exact hle

/-! ### Two places, read again -/

variable {x : Float}

/-- What is finite and not negative is a zero, or a positive float. -/
theorem unpack_of_nonneg (hx : x.isFinite) (h : 0 ≤ x) :
    (∃ s, x.toModel.unpack = .zero s) ∨ ∃ m e hm, x.toModel.unpack = .finite .positive m e hm := by
  have hx : x.toModel.unpack.isFinite = true := hx
  rw [Number.le_iff_unpacked, Number.unpack_zero] at h
  cases hu : x.toModel.unpack with
  | notANumber | infinity s =>
    rw [hu] at hx
    cases hx
  | zero s => exact .inl ⟨s, rfl⟩
  | finite s m e hm =>
    cases s with
    | positive => exact .inr ⟨m, e, hm, rfl⟩
    | negative => simp [hu, UnpackedFloat.le, UnpackedFloat.compare] at h

/-- A finite float is written as a count of units. -/
theorem exists_units (hx : x.isFinite) (n : Nat) :
    ∃ s units, places n x = signText s ++ pointed n units := by
  have hx : x.toModel.unpack.isFinite = true := hx
  unfold places
  cases hu : x.toModel.unpack with
  | notANumber | infinity s =>
    rw [hu] at hx
    cases hx
  | zero s => exact ⟨s, _, rfl⟩
  | finite s m e hm => exact ⟨s, _, rfl⟩

/-- A float that is not negative is written as a count of hundredths, with a sign only if it is zero. -/
theorem read?_places (hx : x.isFinite) (h : 0 ≤ x) :
    (∃ y s, read? (places 2 x) = some y ∧ y.toModel.unpack = .zero s) ∨
      ∃ m e hm, x.toModel.unpack = .finite .positive m e hm ∧
        read? (places 2 x) = some (nearest (Binary.inUnits ⟨m, e⟩ 2) (-2)) := by
  rcases unpack_of_nonneg hx h with ⟨s, hu⟩ | ⟨m, e, hm, hu⟩
  · left
    have hplaces : places 2 x = signText s ++ pointed 2 0 := by rw [places, hu]
    rw [hplaces, read?_pointed]
    cases s with
    | positive => exact ⟨_, .positive, rfl, rfl⟩
    | negative => exact ⟨_, .negative, rfl, rfl⟩
  · right
    refine ⟨m, e, hm, hu, ?_⟩
    have hplaces : places 2 x = signText .positive ++ pointed 2 (Binary.inUnits ⟨m, e⟩ 2) := by
      rw [places, hu]
    rw [hplaces, read?_pointed]
    rfl

theorem nonneg_of_unpack_zero {y : Float} {s : Sign} (h : y.toModel.unpack = .zero s) : 0 ≤ y := by
  rw [Number.le_iff_unpacked, Number.unpack_zero, h]
  rfl

/-- **What is not negative comes back so**, unless it comes back infinite. -/
theorem reread_nonneg (hx : x.isFinite) (h : 0 ≤ x) :
    ∃ y, read? (places 2 x) = some y ∧ (y.isFinite → 0 ≤ y) := by
  rcases read?_places hx h with ⟨y, s, hy, hzero⟩ | ⟨m, e, hm, -, hy⟩
  · exact ⟨y, hy, fun _ => nonneg_of_unpack_zero hzero⟩
  · exact ⟨_, hy, Number.nonneg_of_hasSign (hasSign_nearest _ _)⟩

/-- What is comparable and not negative is no less than zero, also if it is infinite. -/
theorem nonneg_of_hasSign_le {y z : Float} (hy : HasSign .positive y.toModel.unpack) (h : y ≤ z) :
    0 ≤ y := by
  rw [Number.le_iff_unpacked] at h
  rw [Number.le_iff_unpacked, Number.unpack_zero]
  cases hu : y.toModel.unpack with
  | notANumber => simp [hu, UnpackedFloat.le, UnpackedFloat.compare] at h
  | zero s => rfl
  | infinity s | finite s =>
    rw [hu] at hy
    obtain rfl : s = .positive := hy
    simp [UnpackedFloat.le, UnpackedFloat.compare]

/-- What lies between zero and a whole number is finite. -/
theorem isFinite_of_between {M : Nat} (hM : 0 < M) (hsmall : M < 2 ^ 53) (hx : 0 ≤ x)
    (hle : x ≤ Float.ofNat M) : x.isFinite := by
  obtain ⟨hM', hz⟩ := Number.unpack_ofNat hM hsmall
  rw [Number.le_iff_unpacked, Number.unpack_zero] at hx
  rw [Number.le_iff_unpacked, hz] at hle
  change x.toModel.unpack.isFinite = true
  cases hu : x.toModel.unpack with
  | notANumber => simp [hu, UnpackedFloat.le, UnpackedFloat.compare] at hle
  | infinity s =>
    rw [hu] at hx hle
    cases s with
    | positive => simp [UnpackedFloat.le, UnpackedFloat.compare] at hle
    | negative => simp [UnpackedFloat.le, UnpackedFloat.compare] at hx
  | zero s | finite s => rfl

/-- **What does not pass a small whole number does not pass it afterwards.** -/
theorem reread_le {M : Nat} (hM : 0 < M) (hsmall : M * 100 < 2 ^ 53) (hx : 0 ≤ x)
    (hle : x ≤ Float.ofNat M) :
    ∃ y, read? (places 2 x) = some y ∧ 0 ≤ y ∧ y ≤ Float.ofNat M := by
  obtain ⟨hM', hz⟩ := Number.unpack_ofNat hM (by omega)
  rcases read?_places (isFinite_of_between hM (by omega) hx hle) hx with
    ⟨y, s, hy, hzero⟩ | ⟨m, e, hm, hu, hy⟩
  · exact ⟨y, hy, nonneg_of_unpack_zero hzero, zero_le_of_unpack hz hzero⟩
  · have hvalue : (m : ℚ) * 2 ^ e ≤ M := by
      rw [← value_full (c := M) (by omega)]
      exact Number.value_le_of_le hu hz (full_width hM (by omega)) hle
    have hnearest := nearest_hundredths_le hM hsmall (inUnits_le hvalue 2)
    exact ⟨_, hy, nonneg_of_hasSign_le (hasSign_nearest _ _) hnearest, hnearest⟩

end VirtualPrinter.Decimal
