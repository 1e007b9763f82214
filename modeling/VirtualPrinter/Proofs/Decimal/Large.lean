import VirtualPrinter.Decimal.Layout
import VirtualPrinter.Decimal.Reading
import VirtualPrinter.Proofs.Decimal.Shortest
import VirtualPrinter.Proofs.Json.Numerals
import VirtualPrinter.Proofs.Number.Whole

/-!
# Decimals of large floats

A float beyond `2 ^ 62` is written with an exponent, and no digit of its shortest decimal stands behind
the point once the exponent is taken into account.  So what is read of its text is made from a whole
number, of about the same size.

## Main results

* `shortest_large`: the shortest decimal of a large number is a large whole number.
* `unsigned?_scientificText`: a text with an exponent is read by its digits and its exponent.
* `atLeast_nearest`: a whole number is read as a float that is as large, nearly.
* `magnitude_large`: a large float is written as a text that is read as a large float.
-/

namespace VirtualPrinter.Decimal

open Json (digitsOf_digits ofDigitChars_digitsOf)

/-! ### Shortest decimals -/

variable {x : Binary} {d : Scientific}

/-- The decimal is a whole number, and not below another. -/
def Scientific.Reaches (d : Scientific) (bound : Nat) : Prop :=
  0 ≤ d.exponent ∧ bound ≤ d.digits * 10 ^ d.exponent.toNat

theorem compareScaled_ne_lt {a n : Nat} {i j : Int} (h : compareScaled a i n j ≠ .lt) :
    n * 2 ^ j.toNat * 10 ^ (-i).toNat ≤ a * 10 ^ i.toNat * 2 ^ (-j).toNat :=
  Nat.le_of_not_lt fun hlt => h (Nat.compare_eq_lt.mpr hlt)

/-- What reads back does not fall below the halfway point below. -/
theorem reaches_of_readsBack (h : x.readsBack d = true) (hm : 0 < x.mantissa)
    (hx : 2 ≤ x.exponent) (hd : 0 ≤ d.exponent) :
    d.Reaches (x.mantissa * 2 ^ (x.exponent - 2).toNat) := by
  obtain ⟨low, hlow, hne⟩ : ∃ low, x.mantissa ≤ low ∧
      compareScaled d.digits d.exponent low (x.exponent - 2) ≠ .lt := by
    refine ⟨if x.narrowBelow then 4 * x.mantissa - 1 else 4 * x.mantissa - 2, ?_, fun hlt => ?_⟩
    · split <;> omega
    · simp [Binary.readsBack, hlt] at h
  have hle := compareScaled_ne_lt hne
  have h₁ : (-d.exponent).toNat = 0 := by omega
  have h₂ : (-(x.exponent - 2)).toNat = 0 := by omega
  rw [h₁, h₂, pow_zero, pow_zero, Nat.mul_one, Nat.mul_one] at hle
  exact ⟨hd, le_trans (Nat.mul_le_mul_right _ hlow) hle⟩

theorem le_scaleFrom (x : Binary) (tries : Nat) (k : Int) : k ≤ x.scaleFrom tries k := by
  induction tries generalizing k with
  | zero => exact le_rfl
  | succ tries ih =>
    rw [Binary.scaleFrom]
    split
    · exact le_rfl
    · have := ih (k + 1)
      omega

theorem onGrid_exponent {tie : Tie} {e : Int} (h : x.onGrid tie e = some d) : d.exponent = e := by
  unfold Binary.onGrid at h
  dsimp only at h
  split at h
  · split at h <;> cases h
    · rfl
    · rfl
    · rfl
    · split <;> rfl
  · cases h
    rfl
  · cases h
    rfl
  · cases h

/-- Seventeen digits of a large number do not reach behind the point. -/
theorem le_scale (hm : 2 ^ 52 ≤ x.mantissa) (hx : 11 ≤ x.exponent) : 17 ≤ x.scale := by
  have hlog : 52 ≤ x.mantissa.log2 := (Nat.le_log2 (by omega)).mpr hm
  have hstart := le_scaleFrom x 4 ((((x.mantissa.log2 : Int) + x.exponent) * 30103).fdiv 100000 - 1)
  rw [Int.fdiv_eq_ediv_of_nonneg _ (by decide)] at hstart
  have hscale : x.scale =
      x.scaleFrom 4 ((((x.mantissa.log2 : Int) + x.exponent) * 30103).fdiv 100000 - 1) := rfl
  rw [hscale, Int.fdiv_eq_ediv_of_nonneg _ (by decide)]
  omega

/-- **The shortest decimal of a large number is a large whole number.** -/
theorem shortest_large (hm : 2 ^ 52 ≤ x.mantissa) (hx : 11 ≤ x.exponent) (tie : Tie) :
    (x.shortest tie).Reaches (2 ^ 61) := by
  have hbound : 2 ^ 61 ≤ x.mantissa * 2 ^ (x.exponent - 2).toNat := by
    calc 2 ^ 61 = 2 ^ 52 * 2 ^ 9 := by decide
      _ ≤ x.mantissa * 2 ^ (x.exponent - 2).toNat :=
          Nat.mul_le_mul hm (Nat.pow_le_pow_right (by decide) (by omega))
  have hscale := le_scale hm hx
  unfold Binary.shortest
  dsimp only
  cases h : (List.range 17).findSome? fun (n : Nat) => x.onGrid tie (x.scale - (n : Int) - 1) with
  | none =>
    refine ⟨by simp only [Option.getD_none, Binary.exact]; omega, le_trans hbound ?_⟩
    simp only [Option.getD_none, Binary.exact]
    have h₁ : (-x.exponent).toNat = 0 := by omega
    have h₂ : (min x.exponent 0).toNat = 0 := by omega
    rw [h₁, h₂, Nat.pow_eq, Nat.pow_eq, pow_zero, pow_zero, Nat.mul_one, Nat.mul_one]
    exact Nat.mul_le_mul_left _ (Nat.pow_le_pow_right (by decide) (by omega))
  | some d =>
    obtain ⟨n, hn, hgrid⟩ := List.exists_of_findSome?_eq_some h
    have hlt : n < 17 := List.mem_range.mp hn
    have hexp := onGrid_exponent hgrid
    have hreaches := reaches_of_readsBack (onGrid_eq_some hgrid).2 (by omega) (by omega)
      (show 0 ≤ d.exponent by omega)
    exact ⟨hreaches.1, le_trans hbound hreaches.2⟩

/-- Moving zeros into the exponent changes nothing. -/
theorem stripZeros_reaches {bound : Nat} (tries : Nat) (h : d.Reaches bound) :
    (d.stripZeros tries).Reaches bound := by
  induction tries generalizing d with
  | zero => exact h
  | succ tries ih =>
    rw [Scientific.stripZeros]
    split
    · next hz =>
      simp only [Bool.and_eq_true, beq_iff_eq] at hz
      refine ih ⟨by have := h.1; dsimp only; omega, le_trans h.2 (le_of_eq ?_)⟩
      have hexp : (d.exponent + 1).toNat = d.exponent.toNat + 1 := by have := h.1; omega
      dsimp only
      calc d.digits * 10 ^ d.exponent.toNat = d.digits / 10 * 10 * 10 ^ d.exponent.toNat := by
            rw [Nat.div_mul_cancel (Nat.dvd_of_mod_eq_zero hz.1)]
        _ = d.digits / 10 * 10 ^ (d.exponent + 1).toNat := by rw [hexp, pow_succ]; ring
    · exact h

/-- The leading digit of a large whole number stands far in front. -/
theorem le_lead (h : d.Reaches (2 ^ 61)) :
    18 ≤ d.exponent + (digitsOf d.digits).length - 1 := by
  obtain ⟨hexp, hbound⟩ := h
  have hlt : d.digits < 10 ^ (digitsOf d.digits).length :=
    (Nat.length_toDigits_le_iff (by decide) Nat.length_toDigits_pos).mp le_rfl
  by_contra hlow
  have hsum : (digitsOf d.digits).length + d.exponent.toNat ≤ 18 := by omega
  have htop : d.digits * 10 ^ d.exponent.toNat < 2 ^ 61 := by
    calc d.digits * 10 ^ d.exponent.toNat
      _ < 10 ^ (digitsOf d.digits).length * 10 ^ d.exponent.toNat :=
          Nat.mul_lt_mul_of_pos_right hlt (Nat.pow_pos (by decide))
      _ = 10 ^ ((digitsOf d.digits).length + d.exponent.toNat) := (pow_add _ _ _).symm
      _ ≤ 10 ^ 18 := Nat.pow_le_pow_right (by decide) hsum
      _ < 2 ^ 61 := by decide
  omega

/-! ### Reading -/

open Json.Numeral (Digits)
open Number (AtLeast)

theorem ofDigits_eq (ds : List Char) : ofDigits ds = Nat.ofDigitChars 10 ds 0 := rfl

theorem takeWhile_digits {ds : List Char} (h : ∀ c ∈ ds, c.isDigit) {c : Char} (hc : c.isDigit = false)
    (rest : List Char) : (ds ++ c :: rest).takeWhile Char.isDigit = ds ∧
      (ds ++ c :: rest).dropWhile Char.isDigit = c :: rest := by
  rw [List.takeWhile_append_of_pos h, List.dropWhile_append_of_pos h,
    List.takeWhile_cons_of_neg (by simp [hc]), List.dropWhile_cons_of_neg (by simp [hc]),
    List.append_nil]
  exact ⟨rfl, rfl⟩

/-- A run of digits is read as a whole number. -/
theorem unsigned?_digits {ds : List Char} (h : Digits ds) :
    unsigned? ds = some (nearest (ofDigits ds) 0) := by
  have htake : ds.takeWhile Char.isDigit = ds := List.takeWhile_eq_self_iff.mpr h.2
  have hdrop : ds.dropWhile Char.isDigit = [] := List.dropWhile_eq_nil_iff.mpr h.2
  have hsome : ds.isEmpty = false := by simpa using h.1
  simp [unsigned?, htake, hdrop, hsome, exponent?]

/-- **A text with an exponent is read by its digits and its exponent.** -/
theorem unsigned?_scientificText {ds : List Char} (h : Digits ds) {lead : Int} (hlead : 0 ≤ lead) :
    unsigned? (scientificText true ds lead) =
      some (nearest (ofDigits ds) (lead - (ds.length - 1 : Nat))) := by
  obtain ⟨hne, hdigits⟩ := h
  obtain ⟨d, ds, rfl⟩ := List.exists_cons_of_ne_nil hne
  have hd : d.isDigit := hdigits d List.mem_cons_self
  have hexponent : exponent? ('e' :: '+' :: digitsOf lead.natAbs) = some lead := by
    have hall : (digitsOf lead.natAbs).all Char.isDigit = true :=
      List.all_eq_true.mpr (digitsOf_digits _).2
    have hsome : (digitsOf lead.natAbs).isEmpty = false := by simpa using (digitsOf_digits _).1
    have hvalue : (ofDigits (digitsOf lead.natAbs) : Int) = lead := by
      rw [ofDigits_eq, ofDigitChars_digitsOf]
      omega
    simp [exponent?, takeSign, hall, hsome, hvalue]
  have hsign : ¬lead < 0 := by omega
  have hfirst : ∀ c ∈ [d], c.isDigit := by simpa using hd
  cases ds with
  | nil =>
    have htext : scientificText true [d] lead = [d] ++ 'e' :: '+' :: digitsOf lead.natAbs := by
      simp [scientificText, hsign]
    obtain ⟨htake, hdrop⟩ := takeWhile_digits hfirst (c := 'e') rfl ('+' :: digitsOf lead.natAbs)
    rw [htext, unsigned?, htake, hdrop]
    change (exponent? ('e' :: '+' :: digitsOf lead.natAbs)).map _ = _
    rw [hexponent]
    rfl
  | cons c ds =>
    have htext : scientificText true (d :: c :: ds) lead =
        [d] ++ '.' :: (c :: ds ++ 'e' :: '+' :: digitsOf lead.natAbs) := by
      simp [scientificText, hsign]
    obtain ⟨htake, hdrop⟩ := takeWhile_digits hfirst (c := '.') rfl
      (c :: ds ++ 'e' :: '+' :: digitsOf lead.natAbs)
    have hbehind : ∀ b ∈ c :: ds, b.isDigit := fun b hb => hdigits b (List.mem_cons_of_mem _ hb)
    obtain ⟨htake', hdrop'⟩ := takeWhile_digits hbehind (c := 'e') rfl
      ('+' :: digitsOf lead.natAbs)
    rw [htext, unsigned?, htake, hdrop]
    simp only [htake', hdrop', hexponent]
    rfl

/-- A number that does not begin with a sign of its own is read with one in front. -/
theorem read?_signed (negative : Bool) {c : Char} {text : List Char} {z : Float} (hc : c.isDigit)
    (h : unsigned? (c :: text) = some z) :
    read? ((if negative then ['-'] else []) ++ c :: text) = some (signed negative z) := by
  have hplain : takeSign (c :: text) = (false, c :: text) := by
    unfold takeSign
    split
    · next heq => cases heq; cases hc
    · next heq => cases heq; cases hc
    · rfl
  cases negative with
  | false => simp [read?, hplain, h]
  | true =>
    have hminus : takeSign ('-' :: c :: text) = (true, c :: text) := rfl
    simp [read?, hminus, h]

/-- The float is the largest of all. -/
def isTop (x : Float) : Bool :=
  match x.toModel.unpack with
  | .infinity .positive => true
  | _ => false

theorem atLeast_of_isTop {x : Float} (h : isTop x) (k : Int) : AtLeast k x.toModel.unpack := by
  unfold isTop at h
  split at h
  · next hu =>
    rw [hu]
    rfl
  · cases h

/-- All decimals that are too large have one value. -/
theorem isTop_tooLarge : isTop (Float.ofScientific 1 false 400) := by
  decide +kernel

/-- **A whole number is read as a float that reaches what its digits and its exponent do.** -/
theorem atLeast_nearest {digits : Nat} {e : Int} {k : Nat} (hd : 0 < digits) (he : 0 ≤ e)
    (hk : k ≤ digits.log2 + (10 ^ e.toNat).log2) : AtLeast k (nearest digits e).toModel.unpack := by
  have hlength : 0 < (Nat.toDigits 10 digits).length := Nat.length_toDigits_pos
  have hnatAbs : e.natAbs = e.toNat := by omega
  have htop := isTop_tooLarge
  unfold nearest
  -- the value of what is too large is not computed again
  generalize Float.ofScientific 1 false 400 = top at *
  rw [if_neg hd.ne']
  dsimp only
  split
  · exact atLeast_of_isTop htop k
  · rw [if_neg (by omega), decide_eq_false (by omega), hnatAbs]
    exact (Number.atLeast_ofScientific hd e.toNat).mono (by exact_mod_cast hk)

/-- **What is written of a large number is read as a large float.** -/
theorem magnitude_large {m : Nat} {e : Int} (hm : 2 ^ 52 ≤ m) (he : 11 ≤ e) :
    ∃ ds lead z, Digits ds ∧ Json.numberStyle.magnitude ⟨m, e⟩ = scientificText true ds lead ∧
      unsigned? (scientificText true ds lead) = some z ∧ AtLeast 32 z.toModel.unpack := by
  have hreaches := stripZeros_reaches 400
    (shortest_large (x := ⟨m, e⟩) hm he Json.numberStyle.tie)
  have hlead := le_lead hreaches
  unfold Style.magnitude
  generalize (Binary.shortest ⟨m, e⟩ Json.numberStyle.tie).stripZeros 400 = d at hreaches hlead
  obtain ⟨hexp, hbound⟩ := hreaches
  have hdigits : Digits (digitsOf d.digits) := digitsOf_digits _
  have hpositional : Json.numberStyle.positional (d.exponent + (digitsOf d.digits).length - 1) = false :=
    decide_eq_false (by omega)
  have hpos : 0 < d.digits := Nat.pos_of_ne_zero fun h => by
    rw [h, Nat.zero_mul] at hbound
    omega
  -- the exponent of the first digit, less the digits behind it
  have hback : d.exponent + (digitsOf d.digits).length - 1 -
      ((digitsOf d.digits).length - 1 : Nat) = d.exponent := by
    have : 0 < (digitsOf d.digits).length := Nat.length_toDigits_pos
    omega
  have hlog : 32 ≤ d.digits.log2 + (10 ^ d.exponent.toNat).log2 := by
    have htop : d.digits * 10 ^ d.exponent.toNat <
        2 ^ (d.digits.log2 + 1) * 2 ^ ((10 ^ d.exponent.toNat).log2 + 1) :=
      Nat.mul_lt_mul_of_lt_of_lt Nat.lt_log2_self Nat.lt_log2_self
    rw [← pow_add] at htop
    have := (Nat.pow_lt_pow_iff_right (by decide)).mp (lt_of_le_of_lt hbound htop)
    omega
  refine ⟨digitsOf d.digits, d.exponent + (digitsOf d.digits).length - 1, nearest d.digits d.exponent,
    hdigits, ?_, ?_, atLeast_nearest hpos hexp hlog⟩
  · dsimp only
    rw [hpositional]
    rfl
  · rw [unsigned?_scientificText hdigits (by omega), ofDigits_eq, ofDigitChars_digitsOf, hback]

end VirtualPrinter.Decimal
