import VirtualPrinter.Proofs.Number.Truncation
import VirtualPrinter.Json.Numeral

/-!
# Counts times powers of ten

A number in a text is read as a count of digits times a power of ten, each of them rounded to a float
before the product is, and a product beyond the largest float is refused.  The count and the power may
both be rounded up, so it is not enough that the number itself is in range.  It is enough that it
stays below the halfway point above the third largest float.

Rounding does not pass a float that the exact number does not pass.  So a bound of the exact count, a
bound of the exact power and the product of the two bounds decide, and for each power of ten there is
one product to look at.

## Main definitions

* `Number.AtMost`: a float that does not pass a bound.
* `Number.roundedUp`: a float that a whole number does not pass.
* `Number.upperLimit`: the halfway point above the third largest float.

## Main results

* `roundWithAccuracy_le`: rounding does not pass a float.
* `atMost_toFloat`, `atMost_powerOfTen`: the bounds of counts and of powers of ten.
* `isInf_mul_powerOfTen`: below the limit a product is finite.
-/

namespace VirtualPrinter.Number

open Float.Model (Format UnpackedFloat)
open Float.Model.UnpackedFloat (Accuracy ExtendedMantissa Sign)

/-! ### Rounding a mantissa -/

theorem mantissa_ofMantissaAndAccuracy (m : Nat) (accuracy : Accuracy) :
    (ExtendedMantissa.ofMantissaAndAccuracy m accuracy).mantissa = m := by
  cases accuracy with
  | exact => rfl
  | inexact o => cases o <;> rfl

theorem roundedMantissa_bounds (em : ExtendedMantissa) :
    em.mantissa ≤ em.roundedMantissa ∧ em.roundedMantissa ≤ em.mantissa + 1 := by
  obtain ⟨m, round, sticky⟩ := em
  cases round <;> cases sticky <;>
    simp [ExtendedMantissa.roundedMantissa, ExtendedMantissa.accuracy,
      UnpackedFloat.Accuracy.roundToNearestEven]
  omega

/-- Shifting out zeros leaves nothing to round. -/
theorem shiftRight_of_multiple (a k : Nat) :
    ExtendedMantissa.ofMantissaAndAccuracy (a * 2 ^ k) .exact >>> k =
      .ofMantissaAndAccuracy a .exact := by
  induction k generalizing a with
  | zero => simp [HShiftRight.hShiftRight, Nat.repeat]
  | succ k ih =>
    have hk : ExtendedMantissa.ofMantissaAndAccuracy (a * 2 ^ (k + 1)) .exact >>> k =
        .ofMantissaAndAccuracy (2 * a) .exact := by
      rw [← ih (2 * a)]
      congr 2
      ring
    change (ExtendedMantissa.ofMantissaAndAccuracy (a * 2 ^ (k + 1)) .exact >>> k).shiftRightOne = _
    rw [hk]
    simp [ExtendedMantissa.shiftRightOne, ExtendedMantissa.ofMantissaAndAccuracy]

/-- A mantissa that is rounded after a shift does not pass a whole number that the exact one does not
pass; where digits have been lost already, the exact one lies above what is left. -/
theorem roundedMantissa_shiftRight_le {accuracy : Accuracy} {m n k : Nat} (h : m ≤ n * 2 ^ k)
    (ha : accuracy = .exact ∨ m < n * 2 ^ k) :
    (ExtendedMantissa.ofMantissaAndAccuracy m accuracy >>> k).roundedMantissa ≤ n := by
  by_cases hlt : m / 2 ^ k < n
  · have hup := (roundedMantissa_bounds (ExtendedMantissa.ofMantissaAndAccuracy m accuracy >>> k)).2
    rw [mantissa_shiftRight, mantissa_ofMantissaAndAccuracy] at hup
    exact hup.trans hlt
  · -- then the exact mantissa is that whole number
    have hle : n * 2 ^ k ≤ m := (Nat.le_div_iff_mul_le (Nat.two_pow_pos k)).mp (by omega)
    obtain rfl : m = n * 2 ^ k := le_antisymm h hle
    obtain rfl : accuracy = .exact := ha.resolve_right (lt_irrefl _)
    rw [shiftRight_of_multiple]
    rfl

/-! ### Rounding to double precision -/

theorem log2_eq {m k : Nat} (hlow : 2 ^ k ≤ m) (hhigh : m < 2 ^ (k + 1)) : m.log2 = k :=
  (Nat.log2_eq_iff (by have := Nat.two_pow_pos k; omega)).mpr ⟨hlow, hhigh⟩

/-- A mantissa of the full width is kept. -/
theorem shiftToTargetExponent_of_full {m : Nat} {e : Int} (hlow : 2 ^ 52 ≤ m) (hhigh : m < 2 ^ 53)
    (he : -1074 ≤ e) :
    UnpackedFloat.shiftToTargetExponent Format.binary64 m e .exact = (⟨m, false, false⟩, e) := by
  have hlog : m.log2 = 52 := log2_eq hlow hhigh
  have ht : Format.binary64.targetExponent (Float.Model.totalExponent m e) = e := by
    simp only [Format.targetExponent, Float.Model.totalExponent, Format.mantissaBits,
      Format.minExponent, hlog]
    norm_num
    omega
  simp [UnpackedFloat.shiftToTargetExponent, UnpackedFloat.shiftToExponent, ht,
    HShiftRight.hShiftRight, Nat.repeat, ExtendedMantissa.ofMantissaAndAccuracy]

/-- A mantissa that was rounded up to the next width is halved. -/
theorem shiftToTargetExponent_of_carry {e : Int} (he : -1074 ≤ e) :
    UnpackedFloat.shiftToTargetExponent Format.binary64 (2 ^ 53) e .exact =
      (⟨2 ^ 52, false, false⟩, e + 1) := by
  have ht : Format.binary64.targetExponent (Float.Model.totalExponent (2 ^ 53) e) = e + 1 := by
    simp only [Format.targetExponent, Float.Model.totalExponent, Nat.log2_two_pow,
      Format.mantissaBits, Format.minExponent]
    norm_num
    omega
  unfold UnpackedFloat.shiftToTargetExponent
  rw [ht]
  simp [UnpackedFloat.shiftToExponent, HShiftRight.hShiftRight, Nat.repeat,
    ExtendedMantissa.ofMantissaAndAccuracy, ExtendedMantissa.shiftRightOne]

theorem shiftToTargetExponent_eq {m d : Nat} {e : Int} (hd : m.log2 = 52 + d) (he : -1074 ≤ e)
    (accuracy : Accuracy) :
    UnpackedFloat.shiftToTargetExponent Format.binary64 m e accuracy =
      (ExtendedMantissa.ofMantissaAndAccuracy m accuracy >>> d, e + d) := by
  have ht : Format.binary64.targetExponent (Float.Model.totalExponent m e) = e + d := by
    simp only [Format.targetExponent, Float.Model.totalExponent, Format.mantissaBits,
      Format.minExponent, hd]
    push_cast
    omega
  unfold UnpackedFloat.shiftToTargetExponent UnpackedFloat.shiftToExponent
  rw [ht]
  simp

/-- A number of double precision is a multiple of the last digit that is kept of a number below it. -/
theorem exists_multiple {m r d : Nat} {e k : Int} (hm : 2 ^ (52 + d) ≤ m) (hr : r < 2 ^ 53)
    (h : (m : ℚ) * 2 ^ e ≤ r * 2 ^ k) :
    ∃ j : Nat, k = e + d + j ∧ (r : ℚ) * 2 ^ k = (r * 2 ^ j * 2 ^ d : Nat) * 2 ^ e := by
  have hk : e + d ≤ k := by
    have hlt : (2 : ℚ) ^ ((52 + d : Nat) + e) < 2 ^ (53 + k) := by
      calc (2 : ℚ) ^ ((52 + d : Nat) + e) = ((2 ^ (52 + d) : Nat) : ℚ) * 2 ^ e := by
            rw [zpow_add₀ two_ne_zero, zpow_natCast]
            push_cast
            rfl
        _ ≤ m * 2 ^ e := by gcongr
        _ ≤ r * 2 ^ k := h
        _ < ((2 ^ 53 : Nat) : ℚ) * 2 ^ k := by gcongr
        _ = 2 ^ (53 + k) := by
            rw [zpow_add₀ two_ne_zero]
            norm_num
    have := (zpow_lt_zpow_iff_right₀ one_lt_two).mp hlt
    push_cast at this
    omega
  obtain ⟨j, hj⟩ : ∃ j : Nat, k = e + d + j := ⟨(k - (e + d)).toNat, by omega⟩
  refine ⟨j, hj, ?_⟩
  rw [hj, zpow_add₀ two_ne_zero, zpow_add₀ two_ne_zero, zpow_natCast, zpow_natCast]
  push_cast
  ring

/-- Where the mantissas have the full width, the exponents decide. -/
theorem exponent_le {m r : Nat} {e k : Int} (hm : 2 ^ 52 ≤ m) (hr : r < 2 ^ 53)
    (h : (m : ℚ) * 2 ^ e ≤ r * 2 ^ k) : e ≤ k := by
  obtain ⟨j, hj, -⟩ := exists_multiple (d := 0) hm hr h
  omega

/-- A mantissa that is too wide by some digits is rounded to the full width, or up to the next one and
halved. -/
theorem roundWithAccuracy_cases (s : Sign) {m d : Nat} {e : Int} (hd : m.log2 = 52 + d)
    (he : -1074 ≤ e) (accuracy : Accuracy) :
    ∃ m', m' = (ExtendedMantissa.ofMantissaAndAccuracy m accuracy >>> d).roundedMantissa ∧
      ((m' = 2 ^ 53 ∧ ∃ h, UnpackedFloat.roundWithAccuracy Format.binary64 s m e accuracy =
          .finite s (2 ^ 52) (e + d + 1) h) ∨
        (2 ^ 52 ≤ m' ∧ m' < 2 ^ 53 ∧
          ∃ h, UnpackedFloat.roundWithAccuracy Format.binary64 s m e accuracy =
            .finite s m' (e + d) h)) := by
  have hm : m ≠ 0 := fun h => by
    rw [h, Nat.log2_zero] at hd
    omega
  have hwidth : 2 ^ (52 + d) ≤ m ∧ m < 2 ^ (52 + d + 1) := (Nat.log2_eq_iff hm).mp hd
  have hnear := roundedMantissa_bounds (ExtendedMantissa.ofMantissaAndAccuracy m accuracy >>> d)
  rw [mantissa_shiftRight, mantissa_ofMantissaAndAccuracy] at hnear
  have hlow : 2 ^ 52 ≤ m / 2 ^ d := by
    rw [Nat.le_div_iff_mul_le (Nat.two_pow_pos d), ← pow_add]
    exact hwidth.1
  have hhigh : m / 2 ^ d < 2 ^ 53 := by
    rw [Nat.div_lt_iff_lt_mul (Nat.two_pow_pos d), ← pow_add]
    exact lt_of_lt_of_le hwidth.2 (Nat.pow_le_pow_right (by decide) (by omega))
  refine ⟨_, rfl, ?_⟩
  unfold UnpackedFloat.roundWithAccuracy
  rw [shiftToTargetExponent_eq hd he]
  dsimp only
  generalize (ExtendedMantissa.ofMantissaAndAccuracy m accuracy >>> d).roundedMantissa = m' at *
  -- rounding up may carry into the next width
  by_cases hcarry : m' = 2 ^ 53
  · subst hcarry
    rw [shiftToTargetExponent_of_carry (by omega)]
    exact .inl ⟨rfl, by decide, rfl⟩
  · have hm' : 2 ^ 52 ≤ m' := hlow.trans hnear.1
    have hm'' : m' < 2 ^ 53 := lt_of_le_of_ne (hnear.2.trans hhigh) hcarry
    rw [shiftToTargetExponent_of_full hm' hm'' (by omega)]
    exact .inr ⟨hm', hm'', by omega, dif_neg (show ¬m' = 0 by omega)⟩

/-- **Rounding does not pass a number of double precision** that the exact number does not pass; where
digits have been lost already, the exact number lies above what is left. -/
theorem roundWithAccuracy_le {s : Sign} {m r : Nat} {e k : Int} {accuracy : Accuracy}
    (hm : 2 ^ 52 ≤ m) (he : -1074 ≤ e) (hr : r < 2 ^ 53) (h : (m : ℚ) * 2 ^ e ≤ r * 2 ^ k)
    (ha : accuracy = .exact ∨ (m : ℚ) * 2 ^ e < r * 2 ^ k) :
    ∃ m' e' h', UnpackedFloat.roundWithAccuracy Format.binary64 s m e accuracy =
        .finite s m' e' h' ∧
      2 ^ 52 ≤ m' ∧ m' < 2 ^ 53 ∧ e ≤ e' ∧ (m' : ℚ) * 2 ^ e' ≤ r * 2 ^ k := by
  -- the number of digits that do not fit
  obtain ⟨d, hd⟩ : ∃ d, m.log2 = 52 + d := Nat.exists_eq_add_of_le
    ((Nat.le_log2 (by omega)).mpr hm)
  have hwidth : 2 ^ (52 + d) ≤ m ∧ m < 2 ^ (52 + d + 1) := (Nat.log2_eq_iff (by omega)).mp hd
  obtain ⟨j, rfl, hmultiple⟩ := exists_multiple hwidth.1 hr h
  have hpos : (0 : ℚ) < 2 ^ e := by positivity
  rw [hmultiple, mul_le_mul_iff_left₀ hpos, Nat.cast_le] at h
  rw [hmultiple, mul_lt_mul_iff_left₀ hpos, Nat.cast_lt] at ha
  obtain ⟨m', hm', hcases⟩ := roundWithAccuracy_cases s hd he accuracy
  have hround : m' ≤ r * 2 ^ j := hm' ▸ roundedMantissa_shiftRight_le h ha
  have hvalue : (m' : ℚ) * 2 ^ (e + d) ≤ r * 2 ^ (e + d + j) := by
    calc (m' : ℚ) * 2 ^ (e + d) ≤ ((r * 2 ^ j : Nat) : ℚ) * 2 ^ (e + d) := by gcongr
      _ = r * 2 ^ (e + d + j) := by
          rw [zpow_add₀ two_ne_zero (e + d), zpow_natCast]
          push_cast
          ring
  rcases hcases with ⟨hcarry, hpos, hfinite⟩ | ⟨hlow, hhigh, hpos, hfinite⟩
  · refine ⟨2 ^ 52, e + d + 1, hpos, hfinite, le_rfl, by decide, by omega, ?_⟩
    calc ((2 ^ 52 : Nat) : ℚ) * 2 ^ (e + d + 1) = (m' : ℚ) * 2 ^ (e + d) := by
          rw [hcarry, zpow_add_one₀ two_ne_zero]
          push_cast
          ring
      _ ≤ r * 2 ^ (e + d + j) := hvalue
  · exact ⟨m', e + d, hpos, hfinite, hlow, hhigh, by omega, hvalue⟩

/-! ### Packing -/

/-- A number whose mantissa has the full width is packed without loss, as long as its exponent is one
of the format. -/
theorem unpack_pack {s : Sign} {m : Nat} {e : Int} {h : 0 < m} (hlow : 2 ^ 52 ≤ m)
    (hhigh : m < 2 ^ 53) (he : -1074 ≤ e) (he' : e ≤ 971) :
    ∃ s', (Float.Model.pack (.finite s m e h)).unpack = .finite s' m e h := by
  have hlog : m.log2 = 52 := log2_eq hlow hhigh
  have hpack : UnpackedFloat.pack Format.binary64 (.finite s m e h) =
      UnpackedFloat.packComponents Format.binary64 s (BitVec.ofNat 11 (e + 1075).toNat)
        (BitVec.ofNat 52 m) := by
    simp only [UnpackedFloat.pack, Format.exponentBias, Format.mantissaBits, hlog]
    rw [if_neg (by norm_num; omega), if_pos (by norm_num)]
    congr 2
    norm_num
    omega
  obtain ⟨b, hb, rfl⟩ : ∃ b : Nat, 1 ≤ b ∧ e = b - 1075 := ⟨(e + 1075).toNat, by omega, by omega⟩
  have hb' : b ≤ 2046 := by omega
  have hexp : (b - 1075 + 1075 : Int).toNat = b := by omega
  rw [hexp] at hpack
  change ∃ s', UnpackedFloat.unpack Format.binary64 (UnpackedFloat.pack Format.binary64 _) = _
  rw [hpack]
  refine ⟨Sign.ofBitVec (UnpackedFloat.unpackSign
    (UnpackedFloat.packComponents Format.binary64 s (BitVec.ofNat 11 b) (BitVec.ofNat 52 m))), ?_⟩
  -- the exponent is neither that of the infinities nor that of the subnormal numbers
  have hones : BitVec.ofNat 11 b ≠ -1#11 := by
    intro hx
    have hx := congrArg BitVec.toNat hx
    simp at hx
    omega
  have hzero : BitVec.ofNat 11 b ≠ 0#11 := by
    intro hx
    have hx := congrArg BitVec.toNat hx
    simp at hx
    omega
  -- the leading digit is not stored, and is put in front again
  have hm : (1#1 ++ BitVec.ofNat 52 m).toNat = m := by
    rw [BitVec.toNat_append, BitVec.toNat_ofNat, ← Nat.shiftLeft_add_eq_or_of_lt (BitVec.isLt _)]
    simp [Nat.shiftLeft_eq]
    omega
  have he : ((BitVec.ofNat 11 b).toNat : Int) = b := by
    rw [BitVec.toNat_ofNat, Nat.mod_eq_of_lt (by omega)]
  simp only [UnpackedFloat.unpack, UnpackedFloat.unpackExponent_packComponents,
    UnpackedFloat.unpackMantissa_packComponents, Format.exponentBias, hones, hzero, if_false, hm, he]
  rfl

/-! ### Numbers that do not pass a bound -/

/-- A float of at least one, in magnitude, that does not pass `r * 2 ^ k`. -/
def AtMost (x : Float) (r k : Nat) : Prop :=
  ∃ s m e h, x.toModel.unpack = .finite s m e h ∧ 2 ^ 52 ≤ m ∧ m < 2 ^ 53 ∧ -53 ≤ e ∧
    (m : ℚ) * 2 ^ e ≤ r * 2 ^ k

/-- What is rounded and packed does not pass a number of double precision that the exact number does
not pass. -/
theorem atMost_pack {s : Sign} {m r k : Nat} {e : Int} (hm : 2 ^ 52 ≤ m) (he : -53 ≤ e)
    (hr : r < 2 ^ 53) (hk : k ≤ 971) (h : (m : ℚ) * 2 ^ e ≤ r * 2 ^ k) :
    AtMost ⟨.pack (UnpackedFloat.roundWithAccuracy Format.binary64 s m e .exact)⟩ r k := by
  obtain ⟨m', e', hpos, hround, hlow, hhigh, hmin, hle⟩ :=
    roundWithAccuracy_le (s := s) (e := e) (k := k) hm (by omega) hr (by rwa [zpow_natCast]) (.inl rfl)
  have hmax : e' ≤ k := exponent_le hlow hr hle
  have hmin' : -1074 ≤ e' := by omega
  obtain ⟨s', hs⟩ := unpack_pack (s := s) (h := hpos) hlow hhigh hmin' (by omega)
  refine ⟨s', m', e', hpos, ?_, hlow, hhigh, by omega, by rwa [zpow_natCast] at hle⟩
  rw [hround]
  exact hs

/-- A whole number is given the full width if it is short, and rounded. -/
theorem toFloat_eq {c : Nat} (hc : 0 < c) (hc' : c < 2 ^ 64) :
    ∃ a : Nat, a = 52 - c.log2 ∧ 2 ^ 52 ≤ c * 2 ^ a ∧
      c.toUInt64.toFloat = ⟨.pack (UnpackedFloat.roundWithAccuracy Format.binary64
        .positive (c * 2 ^ a) (-a) .exact)⟩ := by
  refine ⟨52 - c.log2, rfl, ?_, ?_⟩
  · calc 2 ^ 52 ≤ 2 ^ (c.log2 + (52 - c.log2)) := Nat.pow_le_pow_right (by decide) (by omega)
      _ = 2 ^ c.log2 * 2 ^ (52 - c.log2) := pow_add _ _ _
      _ ≤ c * 2 ^ (52 - c.log2) := Nat.mul_le_mul_right _ (Nat.log2_self_le (by omega))
  · have htarget : (-Format.binary64.targetExponent (Float.Model.totalExponent c 0)).toNat =
        52 - c.log2 := by
      simp only [Format.targetExponent, Float.Model.totalExponent, Format.mantissaBits,
        Format.minExponent]
      norm_num
      omega
    have hnat : c.toUInt64.toNat = c := Nat.mod_eq_of_lt hc'
    have hsign : compare (c : Int) 0 = .gt := compare_gt_iff_gt.mpr (by omega)
    change (⟨.pack (UnpackedFloat.normalize _ (c.toUInt64.toNat : Int) 0 .positive)⟩ : Float) = _
    rw [hnat, UnpackedFloat.normalize, hsign]
    simp only [UnpackedFloat.round, UnpackedFloat.decreaseExponent, zero_sub, htarget,
      Int.toNat_natCast, Nat.shiftLeft_eq]

/-- A whole number becomes a float that does not pass any number of double precision that it does not
pass itself. -/
theorem atMost_toFloat {c r k : Nat} (hc : 0 < c) (hc' : c < 2 ^ 64) (hr : r < 2 ^ 53)
    (hk : k ≤ 971) (h : c ≤ r * 2 ^ k) : AtMost c.toUInt64.toFloat r k := by
  obtain ⟨a, ha, hfull, hmodel⟩ := toFloat_eq hc hc'
  have hbound : ((c * 2 ^ a : Nat) : ℚ) * 2 ^ (-(a : Int)) ≤ r * 2 ^ k := by
    have hexact : ((c * 2 ^ a : Nat) : ℚ) * 2 ^ (-(a : Int)) = c := by
      rw [zpow_neg, zpow_natCast]
      push_cast
      field_simp
    rw [hexact]
    exact_mod_cast h
  rw [hmodel]
  exact atMost_pack hfull (by omega) hr hk hbound

/-! ### Powers of ten -/

/-- The multiple of a power of two above a whole number that has 53 digits, or one that is followed by
53 zeros. -/
def roundedUp (c : Nat) : Nat × Nat :=
  ((c + 2 ^ (c.log2 - 52) - 1) / 2 ^ (c.log2 - 52), c.log2 - 52)

theorem le_roundedUp (c : Nat) : c ≤ (roundedUp c).1 * 2 ^ (roundedUp c).2 := by
  have hpos := Nat.two_pow_pos (c.log2 - 52)
  have hdiv := Nat.div_add_mod (c + 2 ^ (c.log2 - 52) - 1) (2 ^ (c.log2 - 52))
  have hmod := Nat.mod_lt (c + 2 ^ (c.log2 - 52) - 1) hpos
  have hcomm := Nat.mul_comm (roundedUp c).1 (2 ^ (roundedUp c).2)
  simp only [roundedUp] at *
  omega

/-- A power of ten with an exact float. -/
def powerIsExact (j : Nat) : Bool :=
  match (Json.Numeral.powerOfTen j).toModel.unpack with
  | .finite _ m e _ =>
    decide (2 ^ 52 ≤ m ∧ m < 2 ^ 53 ∧ -53 ≤ e ∧ m * 2 ^ (e + 53).toNat = 10 ^ j * 2 ^ 53)
  | _ => false

theorem powerIsExact_of_lt : ∀ j < 23, powerIsExact j := by
  decide +kernel

theorem roundedUp_power : ∀ j < 309, (roundedUp (10 ^ j)).1 < 2 ^ 53 ∧ (roundedUp (10 ^ j)).2 ≤ 971 := by
  decide +kernel

theorem atMost_powerOfTen {j : Nat} (hj : j < 309) :
    AtMost (Json.Numeral.powerOfTen j) (roundedUp (10 ^ j)).1 (roundedUp (10 ^ j)).2 := by
  obtain ⟨hr, hk⟩ := roundedUp_power j hj
  have hle : (((10 ^ j : Nat) : ℚ)) ≤ (roundedUp (10 ^ j)).1 * 2 ^ (roundedUp (10 ^ j)).2 := by
    exact_mod_cast le_roundedUp (10 ^ j)
  -- the smaller powers of ten are floats themselves, the others are rounded
  by_cases hsmall : j < 23
  · have hexact := powerIsExact_of_lt j hsmall
    unfold powerIsExact at hexact
    split at hexact
    · next s m e h hu =>
      obtain ⟨hlow, hhigh, he, heq⟩ := of_decide_eq_true hexact
      refine ⟨s, m, e, h, hu, hlow, hhigh, he, le_trans (le_of_eq ?_) hle⟩
      have hvalue : (m : ℚ) * 2 ^ ((e + 53).toNat : Int) = 10 ^ j * 2 ^ 53 := by
        rw [zpow_natCast]
        exact_mod_cast heq
      rw [Int.toNat_of_nonneg (by omega), zpow_add₀ two_ne_zero, ← mul_assoc] at hvalue
      push_cast
      exact mul_right_cancel₀ (by positivity) hvalue
    · cases hexact
  · have hmodel : Json.Numeral.powerOfTen j = ⟨.pack (UnpackedFloat.roundWithAccuracy Format.binary64
        .positive ((1 <<< 53) * 10 ^ j) (-53 + 0) .exact)⟩ := by
      rw [Json.Numeral.powerOfTen, Float.ofScientific, dif_neg (by omega)]
      simp only [Bool.false_eq_true, if_false, Float.Model.ofScientific, UnpackedFloat.ofScientific]
      rw [dif_neg (by decide), if_neg (by simp; omega), if_neg (by simp; omega)]
      rfl
    rw [hmodel]
    refine atMost_pack ?_ (by decide) hr hk (le_trans (le_of_eq ?_) hle)
    · exact le_trans (by decide) (Nat.le_mul_of_pos_right _ (Nat.pow_pos (by decide)))
    · push_cast
      norm_num
      ring

/-! ### Products -/

/-- A product of floats is finite if the product of their bounds is in range. -/
theorem isInf_mul {x y : Float} {r k r' k' a top : Nat} (hx : AtMost x r k) (hy : AtMost y r' k')
    (ha : a < 2 ^ 53) (htop : top ≤ 971) (h : r * 2 ^ k * (r' * 2 ^ k') ≤ a * 2 ^ top) :
    (x * y).isInf = false := by
  obtain ⟨s, m, e, hm, hx, hlow, -, he, hxle⟩ := hx
  obtain ⟨s', m', e', hm', hy, hlow', -, he', hyle⟩ := hy
  -- the product of the mantissas is exact, and is rounded once
  have hfull : 2 ^ 52 ≤ m * m' := le_trans hlow (Nat.le_mul_of_pos_right _ hm')
  have hbound : ((m * m' : Nat) : ℚ) * 2 ^ (e + e') ≤ a * 2 ^ (top : Int) := by
    calc ((m * m' : Nat) : ℚ) * 2 ^ (e + e') = m * 2 ^ e * (m' * 2 ^ e') := by
          rw [zpow_add₀ two_ne_zero]
          push_cast
          ring
      _ ≤ r * 2 ^ k * (r' * 2 ^ k') := by gcongr
      _ ≤ a * 2 ^ (top : Int) := by exact_mod_cast h
  obtain ⟨n, f, hn, hround, hnlow, hnhigh, hf, hnle⟩ :=
    roundWithAccuracy_le (s := s * s') hfull (by omega) ha hbound (.inl rfl)
  have hf' : f ≤ top := exponent_le hnlow ha hnle
  have hmin : -1074 ≤ f := by omega
  obtain ⟨t, ht⟩ := unpack_pack (s := s * s') (h := hn) hnlow hnhigh hmin (by omega)
  have hmul : (x * y).toModel.unpack =
      (Float.Model.pack (.mul Format.binary64 x.toModel.unpack y.toModel.unpack)).unpack := rfl
  change (x * y).toModel.unpack.isInf = false
  rw [hmul, hx, hy, UnpackedFloat.mul, hround, ht]
  rfl

/-- Nothing is infinite about a product with zero. -/
theorem isInf_zero_mul {y : Float} {r k : Nat} (hy : AtMost y r k) :
    ((0 : Nat).toUInt64.toFloat * y).isInf = false := by
  obtain ⟨s, m, e, hm, hy, -⟩ := hy
  have hmul : ((0 : Nat).toUInt64.toFloat * y).toModel.unpack = (Float.Model.pack (.mul Format.binary64
      (0 : Nat).toUInt64.toFloat.toModel.unpack y.toModel.unpack)).unpack := rfl
  have hzero : (0 : Nat).toUInt64.toFloat.toModel.unpack = .zero .positive := rfl
  change ((0 : Nat).toUInt64.toFloat * y).toModel.unpack.isInf = false
  rw [hmul, hy, hzero, UnpackedFloat.mul]
  cases s <;> decide

/-- The halfway point above the third largest float. -/
def upperLimit : Nat := (2 ^ 55 - 10) * 2 ^ 969

/-- The largest count whose product with a power of ten stays below the limit, and the power itself,
can both be rounded up. -/
theorem roundedUp_product : ∀ j < 309,
    let c := roundedUp (min (upperLimit / 10 ^ j) (2 ^ 64))
    c.1 < 2 ^ 53 ∧ c.2 ≤ 971 ∧
      c.1 * 2 ^ c.2 * ((roundedUp (10 ^ j)).1 * 2 ^ (roundedUp (10 ^ j)).2) ≤ (2 ^ 53 - 1) * 2 ^ 971 := by
  decide +kernel

/-- **A count and a power of ten have a finite product** unless the exact product comes close to the
largest float. -/
theorem isInf_mul_powerOfTen {c j : Nat} (hc : c < 2 ^ 64) (hj : j < 309) (h : c * 10 ^ j ≤ upperLimit) :
    (c.toUInt64.toFloat * Json.Numeral.powerOfTen j).isInf = false := by
  rcases Nat.eq_zero_or_pos c with rfl | hpos
  · exact isInf_zero_mul (atMost_powerOfTen hj)
  · obtain ⟨hr, hk, hproduct⟩ := roundedUp_product j hj
    have hle : c ≤ min (upperLimit / 10 ^ j) (2 ^ 64) :=
      le_min ((Nat.le_div_iff_mul_le (Nat.pow_pos (by decide))).mpr h) hc.le
    exact isInf_mul (atMost_toFloat hpos hc hr hk (hle.trans (le_roundedUp _)))
      (atMost_powerOfTen hj) (by decide) le_rfl hproduct

end VirtualPrinter.Number
