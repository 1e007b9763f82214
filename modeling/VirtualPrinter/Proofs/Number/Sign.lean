import VirtualPrinter.Proofs.Number.Finite
import VirtualPrinter.Proofs.Number.Order

/-!
# Signs of products

A product has the sign that its factors give it, through rounding and packing, unless it is no number.
So a product of positive floats is not negative, whatever is rounded away.

## Main definitions

* `Number.HasSign`: a float of a sign, or none that is a number.

## Main results

* `hasSign_pack`, `hasSign_roundWithAccuracy`: what keeps the sign.
* `nonneg_mul`: products of positive floats.
* `float_sub_zero`, `float_add_zero`: zero changes nothing but the sign of a zero.
-/

namespace VirtualPrinter.Number

open Float.Model (Format UnpackedFloat)
open Float.Model.UnpackedFloat (Accuracy Sign)

/-- A float of a sign, or none that is a number. -/
def HasSign (s : Sign) : UnpackedFloat → Prop
  | .notANumber => True
  | .infinity t => t = s
  | .zero t => t = s
  | .finite t _ _ _ => t = s

variable {s t : Sign} {u v : UnpackedFloat} {x y : Float}

/-- The sign of a float is its first bit. -/
theorem hasSign_unpack (b : BitVec Format.binary64.numBits) :
    HasSign (.ofBitVec (UnpackedFloat.unpackSign b)) (UnpackedFloat.unpack Format.binary64 b) := by
  unfold UnpackedFloat.unpack
  dsimp only
  split
  · split
    · rfl
    · trivial
  · split
    · split <;> rfl
    · rfl

theorem hasSign_packComponents (s : Sign) (e : BitVec Format.binary64.exponentBits)
    (m : BitVec Format.binary64.mantissaBitsWithoutImplicit) :
    HasSign s (UnpackedFloat.unpack Format.binary64
      (UnpackedFloat.packComponents Format.binary64 s e m)) := by
  have h := hasSign_unpack (UnpackedFloat.packComponents Format.binary64 s e m)
  rwa [UnpackedFloat.unpackSign_packComponents, UnpackedFloat.Sign.ofBitVec_toBitVec] at h

/-- Packing keeps the sign, also of what becomes infinite or zero. -/
theorem hasSign_pack (h : HasSign s u) : HasSign s (Float.Model.pack u).unpack := by
  change HasSign s (UnpackedFloat.unpack Format.binary64 (UnpackedFloat.pack Format.binary64 u))
  cases u with
  | notANumber =>
    rw [UnpackedFloat.pack, UnpackedFloat.unpack_packedNaN]
    trivial
  | infinity t =>
    obtain rfl : t = s := h
    exact hasSign_packComponents _ _ _
  | zero t =>
    obtain rfl : t = s := h
    exact hasSign_packComponents _ _ _
  | finite t m e hm =>
    obtain rfl : t = s := h
    simp only [UnpackedFloat.pack]
    split
    · exact hasSign_packComponents _ _ _
    · split <;> exact hasSign_packComponents _ _ _

/-- So does rounding, also to zero. -/
theorem hasSign_roundWithAccuracy (s : Sign) (m : Nat) (e : Int) (accuracy : Accuracy) :
    HasSign s (UnpackedFloat.roundWithAccuracy Format.binary64 s m e accuracy) := by
  unfold UnpackedFloat.roundWithAccuracy
  dsimp only
  split <;> rfl

/-- The sign of a product. -/
theorem hasSign_mul (hu : HasSign s u) (hv : HasSign t v) :
    HasSign (s * t) (UnpackedFloat.mul Format.binary64 u v) := by
  cases u with
  | notANumber => cases v <;> trivial
  | infinity s' | zero s' | finite s' =>
    obtain rfl : s' = s := hu
    cases v with
    | notANumber => trivial
    | infinity t' | zero t' | finite t' =>
      obtain rfl : t' = t := hv
      -- a zero times an infinity is no number, and finite factors are rounded
      first
        | rfl
        | trivial
        | exact hasSign_roundWithAccuracy _ _ _ _

/-! ### Positive floats -/

theorem unpack_zero : (0 : Float).toModel.unpack = .zero .positive := rfl

theorem hasSign_of_pos (h : 0 < x) : HasSign .positive x.toModel.unpack := by
  rw [lt_iff_unpacked, unpack_zero] at h
  cases hu : x.toModel.unpack with
  | notANumber => trivial
  | zero t => simp [hu, UnpackedFloat.lt, UnpackedFloat.compare] at h
  | infinity t | finite t =>
    cases t with
    | positive => rfl
    | negative => simp [hu, UnpackedFloat.lt, UnpackedFloat.compare] at h

theorem nonneg_of_hasSign (h : HasSign .positive x.toModel.unpack) (hx : x.isFinite) : 0 ≤ x := by
  have hx : x.toModel.unpack.isFinite = true := hx
  rw [le_iff_unpacked, unpack_zero]
  cases hu : x.toModel.unpack with
  | notANumber | infinity t =>
    rw [hu] at hx
    cases hx
  | zero t => simp [UnpackedFloat.le, UnpackedFloat.compare]
  | finite t m e hm =>
    rw [hu] at h
    obtain rfl : t = .positive := h
    simp [UnpackedFloat.le, UnpackedFloat.compare]

/-- **A product of positive floats is not negative**, if it is finite. -/
theorem nonneg_mul (hx : 0 < x) (hy : 0 < y) (h : (x * y).isFinite) : 0 ≤ x * y :=
  nonneg_of_hasSign (hasSign_pack (hasSign_mul (hasSign_of_pos hx) (hasSign_of_pos hy))) h

/-! ### Adding and taking away zero -/

theorem pack_unpack (x : Float) : Float.ofModel (.pack x.toModel.unpack) = x := by
  have hbits : (Float.Model.pack x.toModel.unpack).toBits.toBitVec = x.toModel.toBits.toBitVec :=
    UnpackedFloat.pack_unpack_of_valid x.toModel.valid
  have hmodel : Float.Model.pack x.toModel.unpack = x.toModel := by
    cases hx : x.toModel with
    | mk bits hvalid =>
      rw [hx] at hbits
      exact Float.Model.mk.injEq .. ▸ UInt64.toBitVec_inj.mp hbits
  exact congrArg Float.ofModel hmodel

/-- Nothing is taken away by zero. -/
theorem float_sub_zero (x : Float) : x - 0 = x := by
  have hsub : UnpackedFloat.sub Format.binary64 x.toModel.unpack (.zero .positive) =
      x.toModel.unpack := by
    cases x.toModel.unpack with
    | zero t => cases t <;> rfl
    | _ => rfl
  calc x - 0
    _ = .ofModel (.pack (UnpackedFloat.sub Format.binary64 x.toModel.unpack (.zero .positive))) := rfl
    _ = x := by rw [hsub, pack_unpack]

/-- Nor is anything added by it, but for the sign of a zero. -/
theorem float_add_zero (x : Float) : x + 0 = x ∨ x = -0 ∧ x + 0 = 0 := by
  have hadd : x + 0 =
      .ofModel (.pack (UnpackedFloat.add Format.binary64 x.toModel.unpack (.zero .positive))) := rfl
  -- a negative zero is the one float that changes: the sum of zeros of both signs is positive
  by_cases hzero : x.toModel.unpack = .zero .negative
  · right
    constructor
    · rw [← pack_unpack x, hzero]
      rfl
    · rw [hadd, hzero]
      rfl
  · left
    have hsame : UnpackedFloat.add Format.binary64 x.toModel.unpack (.zero .positive) =
        x.toModel.unpack := by
      cases hu : x.toModel.unpack with
      | zero t =>
        cases t with
        | positive => rfl
        | negative => exact absurd hu hzero
      | _ => rfl
    rw [hadd, hsame, pack_unpack]

theorem ne_nan_of_nonneg (h : 0 ≤ x) : x ≠ Float.nan := by
  rintro rfl
  exact absurd h (by decide +kernel)

end VirtualPrinter.Number
