import VirtualPrinter.Proofs.Number.Scaling

/-!
# Numbers that stay finite

A number in a text is moved by a power of ten in one of two ways.  A product that is infinite is
refused, and there is nothing else that a product of finite floats could be.  A quotient is not looked
at, and need not be: what it is divided by is not small, so its exponent stays where it was, or nearly.

Neither needs a number in its proper form.  A mantissa has a limited width, so the exponent alone
decides whether a number is finite when it is packed.

## Main definitions

* `Number.Below`: zero, or a number whose exponent does not pass a bound.

## Main results

* `isFinite_iff_below`: a float is finite if its exponent is one of the format.
* `below_pack`, `below_roundWithAccuracy`: packing keeps such a number, rounding nearly so.
* `isFinite_or_isInf_mul`, `below_div`: products and quotients.
* `isFinite_scaled`: a count that is moved by a power of ten is finite.
-/

namespace VirtualPrinter.Number

open Float.Model (Format UnpackedFloat)
open Float.Model.UnpackedFloat (ExtendedMantissa Sign)

/-- Zero, or a number whose exponent does not pass a bound. -/
def Below (top : Int) : UnpackedFloat → Prop
  | .zero _ => True
  | .finite _ _ e _ => e ≤ top
  | _ => False

theorem Below.mono {u : UnpackedFloat} {top top' : Int} (h : Below top u) (htop : top ≤ top') :
    Below top' u := by
  cases u with
  | zero => trivial
  | finite s m e hm => exact le_trans h htop
  | _ => exact h

theorem isFinite_iff_below (x : Float) : x.isFinite ↔ Below 971 x.toModel.unpack := by
  change x.toModel.unpack.isFinite = true ↔ _
  cases hu : x.toModel.unpack with
  | finite s m e h => exact ⟨fun _ => exponent_le_of_unpack hu, fun _ => rfl⟩
  | zero s => exact ⟨fun _ => trivial, fun _ => rfl⟩
  | _ => exact ⟨fun h => absurd h Bool.false_ne_true, False.elim⟩

theorem isFinite_of_below {u : UnpackedFloat} {top : Int} (h : Below top u) : u.isFinite := by
  cases u with
  | zero | finite => rfl
  | _ => exact h.elim

/-! ### Packing -/

/-- An exponent that is not the one of the infinities stands for itself, and the lowest for one more. -/
theorem below_packComponents {s : Sign} {b : BitVec 11} {m : BitVec 52} {top : Int} (hb : b ≠ -1#11)
    (hlow : -1074 ≤ top) (htop : (b.toNat : Int) - 1075 ≤ top) :
    Below top (UnpackedFloat.unpack Format.binary64
      (UnpackedFloat.packComponents Format.binary64 s b m)) := by
  simp only [UnpackedFloat.unpack, UnpackedFloat.unpackExponent_packComponents,
    UnpackedFloat.unpackMantissa_packComponents, hb, if_false]
  split
  · next hzero =>
    split
    · trivial
    · subst hzero
      exact hlow
  · exact htop

/-- What is packed has the exponent that it had, or the lowest. -/
theorem below_pack {u : UnpackedFloat} {top : Int} (hu : Below top u) (hlow : -1074 ≤ top)
    (hhigh : top ≤ 971) : Below top (Float.Model.pack u).unpack := by
  change Below top (UnpackedFloat.unpack Format.binary64 (UnpackedFloat.pack Format.binary64 u))
  cases u with
  | zero s => exact below_packComponents (by decide) hlow (by simp; omega)
  | finite s m e hm =>
    have he : e ≤ top := hu
    have hbias : (e + Format.binary64.exponentBias + (52 : Nat)).toNat = (e + 1075).toNat := by
      simp [Format.exponentBias]
      omega
    simp only [UnpackedFloat.pack, hbias]
    rw [if_neg (by norm_num; omega)]
    split
    · have hnat : (BitVec.ofNat 11 (e + 1075).toNat).toNat = (e + 1075).toNat := by
        rw [BitVec.toNat_ofNat, Nat.mod_eq_of_lt (by omega)]
      refine below_packComponents ?_ hlow (by rw [hnat]; omega)
      intro hones
      have hones := congrArg BitVec.toNat hones
      rw [hnat] at hones
      simp at hones
      omega
    · exact below_packComponents (by decide) hlow (by simp; omega)
  | _ => exact hu.elim

/-- What is packed becomes infinite if its exponent is too large, and is finite otherwise. -/
theorem isFinite_or_isInf_pack {u : UnpackedFloat} (hu : u.isFinite) :
    (Float.Model.pack u).unpack.isFinite ∨ (Float.Model.pack u).unpack.isInf := by
  by_cases hhigh : Below 971 u
  · exact .inl (isFinite_of_below (below_pack hhigh (by decide) le_rfl))
  · cases u with
    | finite s m e hm =>
      have he : 971 < e := not_le.mp hhigh
      have hinfinity : Float.Model.pack (.finite s m e hm) = .pack (.infinity s) := by
        simp [Float.Model.pack, UnpackedFloat.pack, Format.exponentBias]
        omega
      rw [hinfinity]
      cases s <;> exact .inr rfl
    | zero => exact absurd trivial hhigh
    | _ => cases hu

/-! ### Rounding -/

theorem log2_le {n k : Nat} (h : n < 2 ^ (k + 1)) : n.log2 ≤ k := by
  rcases Nat.eq_zero_or_pos n with rfl | hpos
  · simp
  · exact Nat.le_of_lt_succ ((Nat.log2_lt (by omega)).mpr h)

/-- A mantissa is shifted as far as it is too wide, or as its exponent is too low. -/
theorem shiftToTargetExponent_bounds {m : Nat} {e : Int} (accuracy : UnpackedFloat.Accuracy) (w : Nat)
    {top : Int} (hm : m < 2 ^ (53 + w)) (he : e + w ≤ top) (hlow : -1074 ≤ top) :
    (UnpackedFloat.shiftToTargetExponent Format.binary64 m e accuracy).1.mantissa ≤ m ∧
      (UnpackedFloat.shiftToTargetExponent Format.binary64 m e accuracy).2 ≤ top := by
  have hlog : m.log2 ≤ 52 + w := log2_le (lt_of_lt_of_eq hm (by ring))
  simp only [UnpackedFloat.shiftToTargetExponent, UnpackedFloat.shiftToExponent,
    mantissa_shiftRight, mantissa_ofMantissaAndAccuracy, Format.targetExponent,
    Float.Model.totalExponent, Format.mantissaBits, Format.minExponent]
  refine ⟨Nat.div_le_self _ _, ?_⟩
  norm_num
  omega

/-- Rounding raises the exponent by the digits that a mantissa has too many, and again where they are
rounded up. -/
theorem below_roundWithAccuracy {s : Sign} {m : Nat} {e top : Int} {accuracy : UnpackedFloat.Accuracy}
    (hm : m < 2 ^ 54) (he : e + 3 ≤ top) (hlow : -1072 ≤ top) :
    Below top (UnpackedFloat.roundWithAccuracy Format.binary64 s m e accuracy) := by
  have hbound : e + (1 : Nat) ≤ top - 2 := by push_cast; omega
  obtain ⟨hfirst, hfirst'⟩ := shiftToTargetExponent_bounds accuracy 1 hm hbound (by omega)
  unfold UnpackedFloat.roundWithAccuracy
  generalize UnpackedFloat.shiftToTargetExponent Format.binary64 m e accuracy = first at *
  obtain ⟨em, e'⟩ := first
  dsimp only at *
  have hup : em.roundedMantissa < 2 ^ (53 + 2) := by
    have := (roundedMantissa_bounds em).2
    omega
  have hbound' : e' + (2 : Nat) ≤ top := by push_cast; omega
  split
  · trivial
  · exact (shiftToTargetExponent_bounds .exact 2 hup hbound' (by omega)).2

theorem isFinite_roundWithAccuracy (s : Sign) (m : Nat) (e : Int) (accuracy : UnpackedFloat.Accuracy) :
    (UnpackedFloat.roundWithAccuracy Format.binary64 s m e accuracy).isFinite := by
  unfold UnpackedFloat.roundWithAccuracy
  dsimp only
  split <;> rfl

/-! ### Products -/

theorem isFinite_mul {u v : UnpackedFloat} (hu : u.isFinite) (hv : v.isFinite) :
    (UnpackedFloat.mul Format.binary64 u v).isFinite := by
  cases u with
  | zero | finite =>
    cases v with
    | zero => rfl
    | finite => first | rfl | exact isFinite_roundWithAccuracy _ _ _ _
    | _ => cases hv
  | _ => cases hu

/-- **A product of finite floats is finite or infinite.** -/
theorem isFinite_or_isInf_mul {x y : Float} (hx : x.isFinite) (hy : y.isFinite) :
    (x * y).isFinite ∨ (x * y).isInf :=
  isFinite_or_isInf_pack (isFinite_mul hx hy)

/-! ### Quotients -/

/-- The quotient of two mantissas has one digit more than there is room for, and an exponent that is
lower by as many digits as were put in front of the division. -/
theorem divCore_bounds {m m' : Nat} {e e' top : Int} (hm : m < 2 ^ 53) (hm' : 2 ^ 52 ≤ m')
    (he : e - e' - 53 ≤ top) (hlow : -1074 ≤ top) :
    (UnpackedFloat.divCore Format.binary64 m e m' e').1 < 2 ^ 54 ∧
      (UnpackedFloat.divCore Format.binary64 m e m' e').2.1 ≤ top := by
  have hlog : m.log2 ≤ 52 := log2_le hm
  have hlog' : 52 ≤ m'.log2 := (Nat.le_log2 (by omega)).mpr hm'
  obtain ⟨t, ht, htop, hwide⟩ : ∃ t, min (e - e') (Format.binary64.targetExponent
      (Float.Model.totalExponent m e - Float.Model.totalExponent m' e')) = t ∧ t ≤ top ∧
      m.log2 + (e - e' - t).toNat ≤ m'.log2 + 53 := by
    refine ⟨_, rfl, ?_⟩
    simp only [Format.targetExponent, Float.Model.totalExponent, Format.mantissaBits,
      Format.minExponent]
    norm_num
    omega
  rw [UnpackedFloat.divCore, ht]
  refine ⟨?_, htop⟩
  rw [Nat.div_lt_iff_lt_mul (by omega), Nat.shiftLeft_eq]
  calc m * 2 ^ (e - e' - t).toNat
    _ < 2 ^ (m.log2 + 1) * 2 ^ (e - e' - t).toNat :=
        Nat.mul_lt_mul_of_pos_right Nat.lt_log2_self (Nat.two_pow_pos _)
    _ = 2 ^ (m.log2 + (e - e' - t).toNat + 1) := by ring
    _ ≤ 2 ^ (m'.log2 + 53 + 1) := Nat.pow_le_pow_right (by decide) (by omega)
    _ = 2 ^ 54 * 2 ^ m'.log2 := by ring
    _ ≤ 2 ^ 54 * m' := Nat.mul_le_mul_left _ (Nat.log2_self_le (by omega))

/-- A float that is divided by one that is not small stays as it was, or nearly. -/
theorem below_div {x y : Float} {s : Sign} {m : Nat} {e n top : Int} {h : 0 < m}
    (hx : Below n x.toModel.unpack) (hy : y.toModel.unpack = .finite s m e h) (hm : 2 ^ 52 ≤ m)
    (hn : n - e - 50 ≤ top) (hlow : -1071 ≤ top) (hhigh : top ≤ 971) :
    Below top (x / y).toModel.unpack := by
  have hdiv : (x / y).toModel.unpack =
      (Float.Model.pack (.div Format.binary64 x.toModel.unpack y.toModel.unpack)).unpack := rfl
  rw [hdiv]
  refine below_pack ?_ (by omega) hhigh
  rw [hy]
  -- three digits are for rounding, and fifty-three for the width of the quotient
  cases hu : x.toModel.unpack with
  | zero => trivial
  | finite s' m' e' h' =>
    rw [hu] at hx
    have he' : e' ≤ n := hx
    have hbound : e' - e - 53 ≤ top - 3 := by omega
    obtain ⟨hwidth, hexp⟩ := divCore_bounds (mantissa_lt_of_unpack hu) hm hbound (by omega)
    rw [UnpackedFloat.div]
    generalize UnpackedFloat.divCore Format.binary64 m' e' m e = quotient at *
    obtain ⟨q, f, accuracy⟩ := quotient
    dsimp only at hwidth hexp
    exact below_roundWithAccuracy hwidth (by omega) (by omega)
  | _ => rw [hu] at hx; exact hx.elim

/-! ### Counts moved by powers of ten -/

open Json.Numeral (powerOfTen maxPower dividedBy scaled)

theorem unpack_powerOfTen {k : Nat} (hk : k ≤ maxPower) :
    ∃ s m e h, (powerOfTen k).toModel.unpack = .finite s m e h ∧ 2 ^ 52 ≤ m ∧ -53 ≤ e := by
  obtain ⟨s, m, e, h, hu, hlow, -, he, -⟩ := atMost_powerOfTen (Nat.lt_succ_of_le hk)
  exact ⟨s, m, e, h, hu, hlow, he⟩

/-- A power of ten whose float is a whole number of the full width. -/
def powerIsWhole (k : Nat) : Bool :=
  match (powerOfTen k).toModel.unpack with
  | .finite _ m e _ => decide (2 ^ 52 ≤ m ∧ 0 ≤ e)
  | _ => false

theorem unpack_maxPower :
    ∃ s m e h, (powerOfTen maxPower).toModel.unpack = .finite s m e h ∧ 2 ^ 52 ≤ m ∧ 0 ≤ e := by
  have hwhole : powerIsWhole maxPower := by decide +kernel
  unfold powerIsWhole at hwhole
  split at hwhole
  · next s m e h hu => exact ⟨s, m, e, h, hu, of_decide_eq_true hwhole⟩
  · cases hwhole

/-- Division by a power of ten takes several steps, of which only the last could raise an exponent. -/
theorem below_dividedBy {x : Float} (hx : Below 900 x.toModel.unpack) (k : Nat) :
    Below 903 (dividedBy x k).toModel.unpack := by
  -- along the steps of the division itself
  fun_induction dividedBy x k with
  | case1 x k hk =>
    obtain ⟨s, m, e, h, hu, hlow, he⟩ := unpack_powerOfTen hk
    exact below_div hx hu hlow (by omega) (by decide) (by decide)
  | case2 => exact hx.mono (by decide)
  | case3 x k hk hzero ih =>
    -- the largest power lowers every exponent, so the bound holds again
    obtain ⟨s, m, e, h, hu, hlow, he⟩ := unpack_maxPower
    exact ih (below_div hx hu hlow (by omega) (by decide) (by decide))

/-- A count of sixty-four bits is finite, and not large. -/
theorem below_toFloat {c : Nat} (hc : c < 2 ^ 64) : Below 12 c.toUInt64.toFloat.toModel.unpack := by
  rcases Nat.eq_zero_or_pos c with rfl | hpos
  · trivial
  · obtain ⟨s, m, e, h, hu, hlow, -, -, hle⟩ :=
      atMost_toFloat hpos hc (r := 2 ^ 52) (k := 12) (by decide) (by decide) hc.le
    rw [hu]
    exact exponent_le (r := 2 ^ 52) (k := 12) hlow (by decide) (by exact_mod_cast hle)

/-- **A count that is moved by a power of ten is finite.** -/
theorem isFinite_scaled {c : Nat} (hc : c < 2 ^ 64) {s : Int} {y : Float}
    (h : scaled c.toUInt64.toFloat s = .ok y) : y.isFinite := by
  have hcount := below_toFloat hc
  unfold scaled at h
  split at h
  · cases h
    exact isFinite_of_below (below_dividedBy (hcount.mono (by decide)) _)
  · split at h
    · next hk =>
      dsimp only at h
      split at h
      · cases h
      · next hinf =>
        cases h
        obtain ⟨_, _, _, _, hu, -, -⟩ := unpack_powerOfTen hk
        have hpower : (powerOfTen s.natAbs).toModel.unpack.isFinite := by rw [hu]; rfl
        exact (isFinite_or_isInf_mul (isFinite_of_below hcount) hpower).resolve_right hinf
    · split at h
      · cases h
        exact isFinite_of_below hcount
      · cases h

theorem isFinite_neg {x : Float} (hx : x.isFinite) : (-x).isFinite := by
  rw [isFinite_iff_below] at hx ⊢
  have hneg : (-x).toModel.unpack = (Float.Model.pack x.toModel.unpack.neg).unpack := rfl
  rw [hneg]
  refine below_pack ?_ (by decide) le_rfl
  cases hu : x.toModel.unpack <;> rw [hu] at hx <;> exact hx

end VirtualPrinter.Number
