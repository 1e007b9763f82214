import VirtualPrinter.Proofs.Number.Finite

/-!
# Whole numbers as floats

A whole number below `2 ^ 53` is a float of its own: it is kept as it is by every step that makes a
float of it.  Whole numbers beyond are rounded, but not below a power of two that they reach.  So a
float equals one small whole number at most, and none if what it was made from is large.

## Main definitions

* `Number.AtLeast`: a float that reaches a power of two, or is no number.

## Main results

* `unpack_ofNat`: a small whole number is kept.
* `eq_of_beq_ofNat`: a float equals one of them at most.
* `atLeast_ofScientific`: what is made from a large decimal is large.
* `not_beq_ofNat_of_atLeast`, `not_neg_beq_ofNat`: and equals no small whole number, nor does what is
  negative.
-/

namespace VirtualPrinter.Number

open Float.Model (Format UnpackedFloat)
open Float.Model.UnpackedFloat (ExtendedMantissa Sign)

/-! ### Signs -/

theorem unpackSign_packComponents (format : Format) (s : Sign) (b : BitVec format.exponentBits)
    (m : BitVec format.mantissaBitsWithoutImplicit) :
    UnpackedFloat.unpackSign (UnpackedFloat.packComponents format s b m) = s.toBitVec := by
  ext i hi
  obtain rfl : i = 0 := by omega
  simp [UnpackedFloat.unpackSign, UnpackedFloat.packComponents, BitVec.getLsbD_append,
    BitVec.getElem_append]

theorem sign_of_unpack {b : BitVec Format.binary64.numBits} {s : Sign} {m : Nat} {e : Int}
    {h : 0 < m} (hu : UnpackedFloat.unpack Format.binary64 b = .finite s m e h) :
    Sign.ofBitVec (UnpackedFloat.unpackSign b) = s := by
  unfold UnpackedFloat.unpack at hu
  simp only at hu
  split at hu
  · split at hu <;> cases hu
  · split at hu
    · split at hu
      · cases hu
      · injection hu
    · injection hu

theorem unpackSign_pack (s : Sign) (m : Nat) (e : Int) (h : 0 < m) :
    Sign.ofBitVec (UnpackedFloat.unpackSign
      (UnpackedFloat.pack Format.binary64 (.finite s m e h))) = s := by
  have hsign : UnpackedFloat.unpackSign (UnpackedFloat.pack Format.binary64 (.finite s m e h)) =
      s.toBitVec := by
    simp only [UnpackedFloat.pack]
    split
    · exact unpackSign_packComponents _ _ _ _
    · split <;> exact unpackSign_packComponents _ _ _ _
  rw [hsign]
  cases s <;> rfl

/-- A number of the full width is packed without loss, its sign included. -/
theorem unpack_pack_finite {s : Sign} {m : Nat} {e : Int} {h : 0 < m} (hlow : 2 ^ 52 ≤ m)
    (hhigh : m < 2 ^ 53) (he : -1074 ≤ e) (he' : e ≤ 971) :
    (Float.Model.pack (.finite s m e h)).unpack = .finite s m e h := by
  obtain ⟨s', hs'⟩ := unpack_pack (s := s) (h := h) hlow hhigh he he'
  have hsign : s = s' := (unpackSign_pack s m e h).symm.trans (sign_of_unpack hs')
  rw [hs', hsign]

/-! ### Large numbers -/

/-- No number, or a positive one that reaches `2 ^ k` and uses the whole width. -/
def AtLeast (k : Int) : UnpackedFloat → Prop
  | .notANumber => True
  | .infinity s => s = .positive
  | .zero _ => False
  | .finite s m e _ => s = .positive ∧ 2 ^ 52 ≤ m ∧ m < 2 ^ 53 ∧ k ≤ e + 52

theorem AtLeast.mono {k k' : Int} {u : UnpackedFloat} (h : AtLeast k u) (hk : k' ≤ k) :
    AtLeast k' u := by
  cases u with
  | finite s m e hm => exact ⟨h.1, h.2.1, h.2.2.1, hk.trans h.2.2.2⟩
  | _ => exact h

theorem atLeast_pack {k : Int} {u : UnpackedFloat} (h : AtLeast k u) (hk : -1022 ≤ k) :
    AtLeast k (Float.Model.pack u).unpack := by
  cases u with
  | notANumber => trivial
  | infinity s =>
    obtain rfl : s = .positive := h
    rfl
  | zero s => exact h.elim
  | finite s m e hm =>
    obtain ⟨rfl, hlow, hhigh, he⟩ := h
    by_cases htop : e ≤ 971
    · rw [unpack_pack_finite hlow hhigh (by omega) htop]
      exact ⟨rfl, hlow, hhigh, he⟩
    · have hinfinity : Float.Model.pack (.finite .positive m e hm) = .pack (.infinity .positive) := by
        simp [Float.Model.pack, UnpackedFloat.pack, Format.exponentBias]
        omega
      rw [hinfinity]
      rfl

/-- A mantissa of the full width with zeros behind it is rounded without loss. -/
theorem roundWithAccuracy_of_multiple {s : Sign} {a d : Nat} {e : Int} (hlow : 2 ^ 52 ≤ a)
    (hhigh : a < 2 ^ 53) (he : -1074 ≤ e) (h : 0 < a) :
    UnpackedFloat.roundWithAccuracy Format.binary64 s (a * 2 ^ d) e .exact =
      .finite s a (e + d) h := by
  have hlog : (a * 2 ^ d).log2 = 52 + d := log2_eq
    (by rw [pow_add]; exact Nat.mul_le_mul_right _ hlow)
    (by
      rw [show 52 + d + 1 = 53 + d by omega, pow_add]
      exact Nat.mul_lt_mul_of_pos_right hhigh (Nat.two_pow_pos d))
  have hrounded : (ExtendedMantissa.ofMantissaAndAccuracy a .exact).roundedMantissa = a := rfl
  unfold UnpackedFloat.roundWithAccuracy
  rw [shiftToTargetExponent_eq hlog he, shiftRight_of_multiple]
  dsimp only
  rw [hrounded, shiftToTargetExponent_of_full hlow hhigh (by omega)]
  exact dif_neg (show ¬a = 0 by omega)

/-- Rounding does not lead below a power of two that the exact number reaches. -/
theorem atLeast_roundWithAccuracy {m : Nat} {e k : Int} (hm : 2 ^ 52 ≤ m) (he : -1074 ≤ e)
    (hk : k ≤ m.log2 + e) :
    AtLeast k (UnpackedFloat.roundWithAccuracy Format.binary64 .positive m e .exact) := by
  obtain ⟨d, hd⟩ : ∃ d, m.log2 = 52 + d := Nat.exists_eq_add_of_le
    ((Nat.le_log2 (by omega)).mpr hm)
  obtain ⟨m', -, ⟨-, hpos, hfinite⟩ | ⟨hlow, hhigh, hpos, hfinite⟩⟩ :=
    roundWithAccuracy_cases .positive hd he .exact
  -- a carry leads to the next power of two
  · rw [hfinite]
    exact ⟨rfl, le_rfl, by decide, by omega⟩
  · rw [hfinite]
    exact ⟨rfl, hlow, hhigh, by omega⟩

/-- A product of powers of two is reached by the product. -/
theorem log2_add_le {a b : Nat} (ha : 0 < a) (hb : 0 < b) : a.log2 + b.log2 ≤ (a * b).log2 := by
  rw [Nat.le_log2 (Nat.mul_pos ha hb).ne', pow_add]
  exact Nat.mul_le_mul (Nat.log2_self_le ha.ne') (Nat.log2_self_le hb.ne')

theorem AtLeast.mul {k k' : Int} {u v : UnpackedFloat} (hu : AtLeast k u) (hv : AtLeast k' v)
    (hk : -918 ≤ k + k') : AtLeast (k + k') (.mul Format.binary64 u v) := by
  cases u with
  | notANumber => trivial
  | zero s => exact hu.elim
  | infinity s =>
    obtain rfl : s = .positive := hu
    cases v with
    | notANumber => trivial
    | zero t => exact hv.elim
    | infinity t => obtain rfl : t = .positive := hv; rfl
    | finite t n f h => obtain ⟨rfl, -⟩ := hv; rfl
  | finite s m e h =>
    obtain ⟨rfl, hlow, -, he⟩ := hu
    cases v with
    | notANumber => trivial
    | zero t => exact hv.elim
    | infinity t => obtain rfl : t = .positive := hv; rfl
    | finite t n f h' =>
      obtain ⟨rfl, hlow', -, hf⟩ := hv
      -- the product is wider than either, so it is rounded from above its own power of two
      have hlog : 52 ≤ m.log2 := (Nat.le_log2 h.ne').mpr hlow
      have hlog' : 52 ≤ n.log2 := (Nat.le_log2 h'.ne').mpr hlow'
      have hsum := log2_add_le h h'
      exact atLeast_roundWithAccuracy (le_trans hlow (Nat.le_mul_of_pos_right _ h')) (by omega)
        (by push_cast at *; omega)

theorem atLeast_mul {x y : Float} {k k' : Int} (hx : AtLeast k x.toModel.unpack)
    (hy : AtLeast k' y.toModel.unpack) (hk : -918 ≤ k + k') :
    AtLeast (k + k') (x * y).toModel.unpack := by
  have hmul : (x * y).toModel.unpack =
      (Float.Model.pack (.mul Format.binary64 x.toModel.unpack y.toModel.unpack)).unpack := rfl
  rw [hmul]
  exact atLeast_pack (hx.mul hy hk) (by omega)

/-! ### Whole numbers -/

/-- A short whole number has an exact float. -/
theorem unpack_toFloat {c : Nat} (hc : 0 < c) (hc' : c < 2 ^ 53) :
    ∃ h, c.toUInt64.toFloat.toModel.unpack =
      .finite .positive (c * 2 ^ (52 - c.log2)) (c.log2 - 52) h := by
  obtain ⟨a, ha, hlow, hmodel⟩ := toFloat_eq hc (lt_trans hc' (by decide))
  have hlog : c.log2 ≤ 52 := log2_le hc'
  have hhigh : c * 2 ^ a < 2 ^ 53 := by
    calc c * 2 ^ a < 2 ^ (c.log2 + 1) * 2 ^ a :=
          Nat.mul_lt_mul_of_pos_right Nat.lt_log2_self (Nat.two_pow_pos a)
      _ = 2 ^ 53 := by rw [← pow_add]; congr 1; omega
  have hpos : 0 < c * 2 ^ a := by omega
  have hround := roundWithAccuracy_of_multiple (s := .positive) (d := 0) (e := -a) hlow hhigh
    (by omega) hpos
  rw [pow_zero, Nat.mul_one] at hround
  have hexp : (-a : Int) + (0 : Nat) = c.log2 - 52 := by omega
  rw [hexp] at hround
  subst ha
  refine ⟨hpos, ?_⟩
  rw [hmodel, hround]
  exact unpack_pack_finite hlow hhigh (by omega) (by omega)

theorem atLeast_toFloat {c : Nat} (hc : 0 < c) (hc' : c < 2 ^ 64) :
    AtLeast c.log2 c.toUInt64.toFloat.toModel.unpack := by
  obtain ⟨a, ha, hlow, hmodel⟩ := toFloat_eq hc hc'
  have hlog := log2_add_le hc (Nat.two_pow_pos a)
  rw [Nat.log2_two_pow] at hlog
  rw [hmodel]
  exact atLeast_pack (atLeast_roundWithAccuracy hlow (by omega) (by omega)) (by omega)

/-- A small whole number is kept. -/
theorem unpack_ofNat {c : Nat} (hc : 0 < c) (hc' : c < 2 ^ 53) :
    ∃ h, (Float.ofNat c).toModel.unpack =
      .finite .positive (c * 2 ^ (52 - c.log2)) (c.log2 - 52) h := by
  obtain ⟨h, hu⟩ := unpack_toFloat hc hc'
  refine ⟨h, ?_⟩
  -- it is multiplied by one, which adds digits that are rounded away
  have hofNat : Float.ofNat c = c.toUInt64.toFloat * Float.ofBits 0x3FF0000000000000 := by
    change Float.ofScientific c false 0 = _
    rw [Float.ofScientific, dif_pos ⟨hc', by decide⟩]
    rfl
  have hone : (Float.ofBits 0x3FF0000000000000).toModel.unpack =
      .finite .positive (1 * 2 ^ 52) (-52) (by decide) := rfl
  have hmul : (c.toUInt64.toFloat * Float.ofBits 0x3FF0000000000000).toModel.unpack =
      (Float.Model.pack (.mul Format.binary64 c.toUInt64.toFloat.toModel.unpack
        (Float.ofBits 0x3FF0000000000000).toModel.unpack)).unpack := rfl
  have hlow : 2 ^ 52 ≤ c * 2 ^ (52 - c.log2) := by
    obtain ⟨a, rfl, hlow, -⟩ := toFloat_eq hc (lt_trans hc' (by decide))
    exact hlow
  have hhigh : c * 2 ^ (52 - c.log2) < 2 ^ 53 := mantissa_lt_of_unpack hu
  have hlog : c.log2 ≤ 52 := log2_le hc'
  have hround := roundWithAccuracy_of_multiple (s := .positive) (d := 52) (e := c.log2 - 52 + -52)
    hlow hhigh (by omega) h
  have hexp : (c.log2 : Int) - 52 + -52 + (52 : Nat) = c.log2 - 52 := by omega
  rw [hexp] at hround
  rw [hofNat, hmul, hu, hone, UnpackedFloat.mul, Nat.one_mul]
  exact (congrArg (fun u => (Float.Model.pack u).unpack) hround).trans
    (unpack_pack_finite hlow hhigh (by omega) (by omega))

/-! ### Decimals -/

/-- The float is positive and reaches a power of two. -/
def reaches (k : Nat) (x : Float) : Bool :=
  match x.toModel.unpack with
  | .finite .positive m e _ => decide (2 ^ 52 ≤ m ∧ m < 2 ^ 53 ∧ k ≤ e + 52)
  | _ => false

theorem atLeast_of_reaches {k : Nat} {x : Float} (h : reaches k x) : AtLeast k x.toModel.unpack := by
  unfold reaches at h
  split at h
  · next hu =>
    rw [hu]
    exact ⟨rfl, of_decide_eq_true h⟩
  · cases h

/-- The powers of ten that are looked up. -/
theorem reaches_table : ∀ e : Fin Float.exactlyRepresentablePowersOfTen.size,
    reaches (10 ^ e.val).log2 Float.exactlyRepresentablePowersOfTen[e] := by
  decide +kernel

/-- **What is made from a large decimal is large.** -/
theorem atLeast_ofScientific {c : Nat} (hc : 0 < c) (e : Nat) :
    AtLeast (c.log2 + (10 ^ e).log2 : Nat) (Float.ofScientific c false e).toModel.unpack := by
  rw [Nat.cast_add]
  by_cases hfast : c < 2 ^ 53 ∧ e ≤ 22
  · rw [Float.ofScientific, dif_pos hfast]
    exact atLeast_mul (atLeast_toFloat hc (lt_trans hfast.1 (by decide)))
      (atLeast_of_reaches (reaches_table ⟨e, Nat.lt_succ_of_le hfast.2⟩)) (by omega)
  · rw [Float.ofScientific, dif_neg hfast]
    refine atLeast_pack ?_ (by omega)
    change AtLeast _ (UnpackedFloat.ofScientific Format.binary64 c (e : Int))
    rw [UnpackedFloat.ofScientific, dif_neg hc.ne']
    split
    · rfl
    · rw [if_neg (by omega), if_pos (by omega)]
      -- the count is given fifty-three digits more
      have hten : 0 < 10 ^ e := Nat.pow_pos (by decide)
      have hshift : (c <<< Format.binary64.mantissaBits) * 10 ^ (e : Int).toNat =
          c * 10 ^ e * 2 ^ 53 := by
        rw [Nat.shiftLeft_eq, Int.toNat_natCast]
        change c * 2 ^ 53 * 10 ^ e = _
        ring
      have hlog := log2_add_le (Nat.mul_pos hc hten) (Nat.two_pow_pos 53)
      have hsum := log2_add_le hc hten
      rw [Nat.log2_two_pow] at hlog
      have hwide : 2 ^ 52 ≤ c * 10 ^ e * 2 ^ 53 := by
        have := Nat.mul_pos hc hten
        omega
      have hround := atLeast_roundWithAccuracy (k := c.log2 + (10 ^ e).log2) (e := -53) hwide
        (by decide) (by omega)
      rw [UnpackedFloat.mul, hshift]
      exact hround

/-! ### Comparisons -/

/-- What equals a small whole number has its mantissa and its exponent. -/
theorem unpack_of_beq_ofNat {x : Float} {c : Nat} (hc : c < 2 ^ 53) (h : x == Float.ofNat c) :
    (c = 0 ∧ ∃ s, x.toModel.unpack = .zero s) ∨
      (0 < c ∧ ∃ h, x.toModel.unpack = .finite .positive (c * 2 ^ (52 - c.log2)) (c.log2 - 52) h) := by
  have hbeq : x.toModel.unpack.compare (Float.ofNat c).toModel.unpack = some .eq := by
    have hbeq : (x.toModel.unpack.compare (Float.ofNat c).toModel.unpack == some .eq) = true := h
    exact eq_of_beq hbeq
  rcases Nat.eq_zero_or_pos c with rfl | hpos
  · have hzero : (Float.ofNat 0).toModel.unpack = .zero .positive := rfl
    rw [hzero] at hbeq
    refine .inl ⟨rfl, ?_⟩
    cases hu : x.toModel.unpack with
    | zero s => exact ⟨s, rfl⟩
    | notANumber => rw [hu] at hbeq; cases hbeq
    | infinity s => rw [hu] at hbeq; cases s <;> cases hbeq
    | finite s m e h => rw [hu] at hbeq; cases s <;> cases hbeq
  · obtain ⟨hm, hc⟩ := unpack_ofNat hpos hc
    rw [hc] at hbeq
    refine .inr ⟨hpos, hm, ?_⟩
    cases hu : x.toModel.unpack with
    | zero s => rw [hu] at hbeq; cases hbeq
    | notANumber => rw [hu] at hbeq; cases hbeq
    | infinity s => rw [hu] at hbeq; cases s <;> cases hbeq
    | finite s m e h =>
      rw [hu] at hbeq
      cases s with
      | negative => cases hbeq
      | positive =>
        have hthen := Option.some.inj hbeq
        rw [Ordering.then_eq_eq, Int.compare_eq_eq, Nat.compare_eq_eq] at hthen
        obtain ⟨rfl, rfl⟩ := hthen
        rfl

/-- **A float equals one small whole number at most.** -/
theorem eq_of_beq_ofNat {x : Float} {a b : Nat} (ha : a < 2 ^ 53) (hb : b < 2 ^ 53)
    (hxa : x == Float.ofNat a) (hxb : x == Float.ofNat b) : a = b := by
  rcases unpack_of_beq_ofNat ha hxa with ⟨rfl, s, hu⟩ | ⟨hpos, h, hu⟩
  · rcases unpack_of_beq_ofNat hb hxb with ⟨rfl, -⟩ | ⟨-, _, hv⟩
    · rfl
    · rw [hu] at hv
      cases hv
  · rcases unpack_of_beq_ofNat hb hxb with ⟨-, s, hv⟩ | ⟨-, h', hv⟩
    · rw [hu] at hv
      cases hv
    · rw [hu] at hv
      injection hv with _ hm he
      have hlog : a.log2 = b.log2 := by omega
      rw [hlog] at hm
      exact Nat.eq_of_mul_eq_mul_right (Nat.two_pow_pos _) hm

/-- A large number equals no small whole number. -/
theorem not_beq_ofNat_of_atLeast {x : Float} {k c : Nat} (h : AtLeast k x.toModel.unpack)
    (hc : c < 2 ^ k) (hk : k ≤ 53) : ¬x == Float.ofNat c := by
  intro hbeq
  have hc' : c < 2 ^ 53 := lt_of_lt_of_le hc (Nat.pow_le_pow_right (by decide) hk)
  rcases unpack_of_beq_ofNat hc' hbeq with ⟨-, s, hu⟩ | ⟨hpos, hm, hu⟩
  · rw [hu] at h
    exact h
  · rw [hu] at h
    have hlog : c.log2 < k := (Nat.log2_lt hpos.ne').mpr hc
    have := h.2.2.2
    omega

theorem unpack_neg {x : Float} {m : Nat} {e : Int} {h : 0 < m} {s : Sign}
    (hu : x.toModel.unpack = .finite s m e h) (hlow : 2 ^ 52 ≤ m) (he : -1074 ≤ e) :
    (-x).toModel.unpack = .finite (-s) m e h := by
  have hneg : (-x).toModel.unpack = (Float.Model.pack x.toModel.unpack.neg).unpack := rfl
  rw [hneg, hu]
  exact unpack_pack_finite hlow (mantissa_lt_of_unpack hu) he (exponent_le_of_unpack hu)

/-- What is negative equals no whole number. -/
theorem not_neg_beq_ofNat {x : Float} {c : Nat} (h : AtLeast 0 x.toModel.unpack) (hc : c < 2 ^ 53) :
    ¬-x == Float.ofNat c := by
  intro hbeq
  have hneg : (-x).toModel.unpack = (Float.Model.pack x.toModel.unpack.neg).unpack := rfl
  have hunpack := unpack_of_beq_ofNat hc hbeq
  cases hu : x.toModel.unpack with
  | notANumber =>
    rw [hneg, hu] at hunpack
    rcases hunpack with ⟨-, s, hv⟩ | ⟨-, _, hv⟩ <;> cases hv
  | infinity s =>
    rw [hu] at h
    obtain rfl : s = .positive := h
    rw [hneg, hu] at hunpack
    rcases hunpack with ⟨-, s, hv⟩ | ⟨-, _, hv⟩ <;> cases hv
  | zero s => rw [hu] at h; exact h
  | finite s m e hm =>
    rw [hu] at h
    obtain ⟨rfl, hlow, -, he⟩ := h
    rw [unpack_neg hu hlow (by omega)] at hunpack
    rcases hunpack with ⟨-, s, hv⟩ | ⟨-, _, hv⟩ <;> cases hv

end VirtualPrinter.Number
