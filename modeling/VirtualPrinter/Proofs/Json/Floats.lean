import VirtualPrinter.Proofs.Decimal.Shortest
import VirtualPrinter.Proofs.Json.Numerals
import VirtualPrinter.Proofs.Number.Scaling

/-!
# Floats as written

A float is written with the digits of a shortest decimal, either with a point among them or with an
exponent.  Either way the text is a number with a fraction or an exponent, and reading it does not
fail: where digits are many they are cut off, which makes the count smaller, and the largest two
floats, whose digits come too close to the limit of what is read, are looked at one by one.

What is read need not be the float that was written, since reading rounds twice.

## Main definitions

* `Numeral.isReal`: a number as written is read as a float.

## Main results

* `write_numeral`: a finite float is written as a number that is read as a float.
-/

open VirtualPrinter.Number (upperLimit isInf_mul_powerOfTen)

namespace VirtualPrinter.Json

open Decimal (Binary Scientific digitsOf zeros)
open Numeral (Digits fractionText exponentText)

/-- The number is read as a float. -/
def Numeral.isReal (n : Numeral) : Bool :=
  match n.value with
  | .ok (.real _) => true
  | _ => false

/-! ### Moving a count by a power of ten -/

theorem upperLimit_lt : upperLimit < 10 ^ 309 := by
  decide +kernel

/-- A count is moved by a power of ten as long as it stays below the limit. -/
theorem scaled_ok {c : Nat} {s : Int} (hc : c < 2 ^ 64)
    (h : 0 ≤ s → c * 10 ^ s.toNat ≤ upperLimit) :
    ∃ y, Numeral.scaled c.toUInt64.toFloat s = .ok y := by
  unfold Numeral.scaled
  split
  · exact ⟨_, rfl⟩
  · next hs =>
    have hs : 0 ≤ s := by omega
    have h := h hs
    have habs : s.natAbs = s.toNat := by omega
    split
    · next hmax =>
      rw [habs] at hmax ⊢
      have hfinite := isInf_mul_powerOfTen hc (Nat.lt_succ_of_le hmax) h
      dsimp only
      rw [hfinite]
      exact ⟨_, rfl⟩
    · next hmax =>
      -- so far up only zero is below the limit
      obtain rfl : c = 0 := by
        refine Nat.eq_zero_of_not_pos fun hpos => ?_
        have hpow : 10 ^ s.toNat < 10 ^ 309 :=
          ((Nat.le_mul_of_pos_left _ hpos).trans h).trans_lt upperLimit_lt
        have hexp := (Nat.pow_lt_pow_iff_right (by decide)).mp hpow
        simp only [Numeral.maxPower] at hmax
        omega
      rw [if_pos (by decide)]
      exact ⟨_, rfl⟩

/-! ### Numbers with a point -/

theorem ofDigitChars_lt {ds : List Char} (h : ∀ c ∈ ds, c.isDigit) (n : Nat) :
    Nat.ofDigitChars 10 ds n < (n + 1) * 10 ^ ds.length := by
  induction ds generalizing n with
  | nil => simp
  | cons c ds ih =>
    have hc : c.toNat - '0'.toNat ≤ 9 := by
      have := h c List.mem_cons_self
      simp only [Char.isDigit, Bool.and_eq_true, decide_eq_true_eq] at this
      have h9 : c.toNat ≤ 57 := this.2
      change c.toNat - 48 ≤ 9
      omega
    rw [Nat.ofDigitChars_cons]
    calc Nat.ofDigitChars 10 ds (10 * n + (c.toNat - '0'.toNat))
      _ < (10 * n + (c.toNat - '0'.toNat) + 1) * 10 ^ ds.length :=
          ih (fun d hd => h d (List.mem_cons_of_mem _ hd)) _
      _ ≤ (10 * (n + 1)) * 10 ^ ds.length := Nat.mul_le_mul_right _ (by omega)
      _ = (n + 1) * 10 ^ (c :: ds).length := by
          rw [List.length_cons, Nat.pow_succ]
          ring

/-- A number with a fraction or an exponent is read if its count can be moved, where the digits before
the point are all counted. -/
theorem isReal_of_float {n : Numeral} {first count : Nat} {unread : List Char}
    (h : n.fraction.isSome ∨ n.exponent.isSome) (hw : Numeral.collect 0 n.whole = (first, []))
    (hf : Numeral.collect first (n.fraction.getD []) = (count, unread))
    (hy : ∃ y, Numeral.float count (0 - ((n.fraction.getD []).length - unread.length : Nat))
      n.exponent = .ok y) : n.isReal := by
  obtain ⟨negative, whole, fraction, exponent⟩ := n
  obtain ⟨y, hy⟩ := hy
  have hvalue : Numeral.value ⟨negative, whole, fraction, exponent⟩ =
      (Numeral.float count (0 - ((fraction.getD []).length - unread.length : Nat)) exponent).map
        fun x => .real (Decimal.signed negative x) := by
    unfold Numeral.value
    simp only at hw hf h
    rw [hw]
    dsimp only
    rw [hf]
    -- only a number with neither of the two could be an integer
    cases fraction with
    | some ds => rfl
    | none =>
      cases exponent with
      | some p => rfl
      | none => simp at h
  unfold Numeral.isReal
  rw [hvalue, hy]
  rfl

/-- A number with a point and without exponent is read. -/
theorem isReal_of_fraction {negative : Bool} {whole fraction : List Char}
    (hw : ∀ c ∈ whole, c.isDigit) (hl : whole.length ≤ 16) :
    Numeral.isReal ⟨negative, whole, some fraction, none⟩ := by
  have hlt : Nat.ofDigitChars 10 whole 0 < Nat.pow 2 64 := by
    calc Nat.ofDigitChars 10 whole 0 < (0 + 1) * 10 ^ whole.length := ofDigitChars_lt hw 0
      _ ≤ (0 + 1) * 10 ^ 16 := Nat.mul_le_mul_left _ (Nat.pow_le_pow_right (by decide) hl)
      _ ≤ Nat.pow 2 64 := by decide
  have hcount := collect_lt hlt fraction
  refine isReal_of_float (.inl rfl) (collect_of_lt hlt) rfl (scaled_ok hcount fun hs => ?_)
  -- the point moves the count down, if at all
  rw [show (0 - ((_ : Nat) : Int)).toNat = 0 by omega, Nat.pow_zero, Nat.mul_one]
  exact hcount.le.trans (by decide +kernel)

/-! ### Numbers with an exponent -/

/-- What is counted of digits, moved by the digits that are left, does not pass their decimal. -/
theorem counted_atMost {count unread digits limit : Nat} {e : Int} (hc : count * 10 ^ unread ≤ digits)
    (h : Scientific.AtMost ⟨digits, e⟩ limit) (hs : 0 ≤ e + unread) :
    count * 10 ^ (e + unread).toNat ≤ limit := by
  unfold Scientific.AtMost at h
  dsimp only at h
  have hmoved : count * 10 ^ unread * 10 ^ e.toNat ≤ limit * 10 ^ (-e).toNat :=
    (Nat.mul_le_mul_right _ hc).trans h
  refine Nat.le_of_mul_le_mul_right ?_ (Nat.pow_pos (n := (-e).toNat) (show 0 < 10 by decide))
  have hexp : (e + unread).toNat + (-e).toNat = unread + e.toNat := by omega
  calc count * 10 ^ (e + unread).toNat * 10 ^ (-e).toNat
    _ = count * 10 ^ unread * 10 ^ e.toNat := by
        rw [Nat.mul_assoc, ← Nat.pow_add, hexp, Nat.pow_add, Nat.mul_assoc]
    _ ≤ limit * 10 ^ (-e).toNat := hmoved

/-- The parts of a decimal with an exponent. -/
def Numeral.ofDigits (negative : Bool) (d : Char) (ds : List Char) (lead : Int) : Numeral :=
  ⟨negative, [d], if ds.isEmpty then none else some ds, some (decide (lead < 0), digitsOf lead.natAbs)⟩

/-- A number with an exponent is read if it stays below the limit. -/
theorem isReal_of_exponent {negative : Bool} {d : Char} {ds : List Char} {e : Int}
    (hd : d.isDigit) (h : Scientific.AtMost ⟨Nat.ofDigitChars 10 (d :: ds) 0, e⟩ upperLimit)
    (hlead : e + ds.length ≤ 308) :
    Numeral.isReal (.ofDigits negative d ds (e + ds.length)) := by
  have hfirst : Nat.ofDigitChars 10 [d] 0 < Nat.pow 2 64 :=
    lt_of_lt_of_le (ofDigitChars_lt (by simpa using hd : ∀ c ∈ [d], c.isDigit) 0)
      (show (0 + 1) * 10 ^ 1 ≤ Nat.pow 2 64 by decide)
  have hfraction : (Numeral.ofDigits negative d ds (e + ds.length)).fraction.getD [] = ds := by
    cases ds <;> rfl
  obtain ⟨⟨count, unread⟩, hp⟩ : ∃ p, Numeral.collect (Nat.ofDigitChars 10 [d] 0) ds = p := ⟨_, rfl⟩
  have hcount : count < Nat.pow 2 64 := by simpa only [hp] using collect_lt hfirst ds
  obtain ⟨counted, hsplit, hvalue⟩ := collect_spec (Nat.ofDigitChars 10 [d] 0) ds
  simp only [hp] at hsplit hvalue
  -- what is counted is at most what is written
  have hle : count * 10 ^ unread.length ≤ Nat.ofDigitChars 10 (d :: ds) 0 := by
    have hall : Nat.ofDigitChars 10 (d :: ds) 0 = Nat.ofDigitChars 10 unread count := by
      rw [hvalue, ← Nat.ofDigitChars_append, ← hsplit]
      rfl
    rw [hall]
    exact le_ofDigitChars _ _
  have hlength : ds.length = counted.length + unread.length := by
    rw [hsplit, List.length_append]
  refine isReal_of_float (.inr rfl) (collect_of_lt hfirst) (hfraction.symm ▸ hp) ?_
  have hexponent : Decimal.ofDigits (digitsOf (e + ds.length).natAbs) = (e + ds.length).natAbs :=
    ofDigitChars_digitsOf _
  rw [hfraction]
  simp only [Numeral.ofDigits, Numeral.float, Numeral.exponentDigits?, hexponent]
  by_cases hbig : (e + ds.length).natAbs < Nat.pow 2 31
  · rw [if_pos hbig]
    have hshift : (if decide (e + ds.length < 0) then
        0 - ((ds.length - unread.length : Nat) : Int) - (e + ds.length).natAbs
        else 0 - ((ds.length - unread.length : Nat) : Int) + (e + ds.length).natAbs) =
          e + unread.length := by
      simp only [decide_eq_true_eq]
      split <;> omega
    dsimp only
    rw [hshift]
    exact scaled_ok hcount fun hs => counted_atMost hle h hs
  · -- an exponent with so many digits is negative
    have hneg : e + ds.length < 0 := by
      simp only [Nat.pow_eq] at hbig
      omega
    rw [if_neg hbig]
    simp [hneg]

/-! ### The text of a magnitude -/

/-- A text is a number with a sign of its own that is read as a float. -/
def IsFloat (negative : Bool) (text : List Char) : Prop :=
  ∃ n : Numeral, n.negative = negative ∧ n.WellFormed ∧ n.isReal ∧ text = n.text

theorem digits_zeros (n : Nat) : ∀ c ∈ zeros n, c.isDigit := by
  intro c hc
  rw [List.eq_of_mem_replicate hc]
  rfl

theorem digits_zero : Digits ['0'] := digitsOf_digits 0

/-- Digits before and behind a point are a number. -/
theorem isFloat_pointed (negative : Bool) {whole fraction : List Char} (hw : Digits whole)
    (h0 : whole.head? = some '0' → whole = ['0']) (hl : whole.length ≤ 16) (hf : Digits fraction) :
    IsFloat negative (whole ++ '.' :: fraction) := by
  refine ⟨⟨negative, whole, some fraction, none⟩, rfl, ⟨hw, h0, ?_, nofun⟩,
    isReal_of_fraction hw.2 hl, ?_⟩
  · rintro _ ⟨⟩
    exact hf
  · simp only [Numeral.text, fractionText, exponentText, List.append_nil]

theorem Digits.append {ds es : List Char} (hd : Digits ds) (he : ∀ c ∈ es, c.isDigit) :
    Digits (ds ++ es) := by
  refine ⟨by simp [hd.1], fun c hc => ?_⟩
  rcases List.mem_append.mp hc with hc | hc
  · exact hd.2 c hc
  · exact he c hc

/-- Digits with a point are a number. -/
theorem isFloat_positional (negative : Bool) {ds : List Char} (hd : Digits ds)
    (h0 : ds.head? ≠ some '0') {point : Int} (hp : point ≤ 16) :
    IsFloat negative (Decimal.positionalText true ds point) := by
  unfold Decimal.positionalText
  split
  · -- zeros behind the point
    have hf : Digits (zeros (-point).toNat ++ ds) := by
      refine ⟨by simp [hd.1], fun c hc => ?_⟩
      rcases List.mem_append.mp hc with hc | hc
      · exact digits_zeros _ c hc
      · exact hd.2 c hc
    exact isFloat_pointed negative digits_zero (fun _ => rfl) (by simp) hf
  · split
    · -- zeros before the point
      next hpos hlong =>
      have hw := Digits.append hd (digits_zeros (point.toNat - ds.length))
      refine isFloat_pointed negative hw (fun h => ?_) ?_ digits_zero
      · rw [List.head?_append, Option.or_of_isSome (by simp [hd.1])] at h
        exact absurd h h0
      · simp only [zeros, List.length_append, List.length_replicate]
        omega
    · next hpos hshort =>
      have hw : Digits (ds.take point.toNat) :=
        ⟨by simp [hd.1]; omega, fun c hc => hd.2 c (List.mem_of_mem_take hc)⟩
      have hf : Digits (ds.drop point.toNat) :=
        ⟨by simp; omega, fun c hc => hd.2 c (List.mem_of_mem_drop hc)⟩
      refine isFloat_pointed negative hw (fun h => ?_) ?_ hf
      · rw [List.head?_take, if_neg (by omega)] at h
        exact absurd h h0
      · rw [List.length_take]
        omega

theorem ofDigits_wellFormed (negative : Bool) {d : Char} {ds : List Char} (lead : Int)
    (hd : ∀ c ∈ d :: ds, c.isDigit) (h0 : d ≠ '0') : (Numeral.ofDigits negative d ds lead).WellFormed := by
  refine ⟨⟨by simp [Numeral.ofDigits], ?_⟩, ?_, ?_, ?_⟩
  · simpa [Numeral.ofDigits] using hd d List.mem_cons_self
  · intro hz
    exact absurd (Option.some.inj hz) h0
  · intro fs hfs
    cases ds with
    | nil => cases hfs
    | cons c ds =>
      cases hfs
      exact ⟨by simp, fun c hc => hd c (List.mem_cons_of_mem _ hc)⟩
  · rintro _ ⟨⟩
    exact digitsOf_digits _

theorem scientificText_eq (negative : Bool) (d : Char) (ds : List Char) (lead : Int) :
    Decimal.scientificText true (d :: ds) lead = (Numeral.ofDigits negative d ds lead).text := by
  unfold Decimal.scientificText Numeral.text Numeral.ofDigits
  -- the fraction is left out with its point, the sign of the exponent is not
  cases ds <;> by_cases hneg : lead < 0 <;> simp [fractionText, exponentText, hneg]

/-- Digits with an exponent are a number, as long as they stay below the limit. -/
theorem isFloat_scientific (negative : Bool) {ds : List Char} (hd : Digits ds)
    (h0 : ds.head? ≠ some '0') {e : Int}
    (h : Scientific.AtMost ⟨Nat.ofDigitChars 10 ds 0, e⟩ upperLimit)
    (hlead : e + ds.length - 1 ≤ 308) :
    IsFloat negative (Decimal.scientificText true ds (e + ds.length - 1)) := by
  obtain ⟨hne, hdigits⟩ := hd
  obtain ⟨d, ds, rfl⟩ := List.exists_cons_of_ne_nil hne
  have hl : e + (d :: ds).length - 1 = e + ds.length := by
    rw [List.length_cons]
    omega
  rw [hl] at hlead ⊢
  have hd0 : d ≠ '0' := fun hd => h0 (congrArg some hd)
  exact ⟨_, rfl, ofDigits_wellFormed negative _ hdigits hd0,
    isReal_of_exponent (hdigits d List.mem_cons_self) h hlead, scientificText_eq negative d ds _⟩

/-- A magnitude below the limit is written as a number that is read. -/
theorem isFloat_of_below (negative : Bool) {x : Binary} (hx : 0 < x.mantissa)
    (hb : x.Below upperLimit) : IsFloat negative (numberStyle.magnitude x) := by
  unfold Decimal.Style.magnitude
  have hpos := Decimal.stripZeros_pos 400 (Decimal.shortest_pos hx numberStyle.tie)
  have hmost := Decimal.stripZeros_atMost 400 (Decimal.shortest_atMost hb numberStyle.tie)
  generalize (x.shortest numberStyle.tie).stripZeros 400 = d at hpos hmost
  dsimp only
  have h0 : (digitsOf d.digits).head? ≠ some '0' := fun h => by
    have := digitsOf_head h
    omega
  have hlead : d.exponent + (digitsOf d.digits).length - 1 < (309 : Nat) :=
    Decimal.lead_lt hpos hmost upperLimit_lt
  split
  · next hp =>
    have hp : d.exponent + (digitsOf d.digits).length - 1 ≤ 15 := (of_decide_eq_true hp).2
    exact isFloat_positional negative (digitsOf_digits _) h0 (by omega)
  · refine isFloat_scientific negative (digitsOf_digits _) h0 ?_ (by omega)
    rwa [ofDigitChars_digitsOf]

/-- A magnitude whose text and value are known is a number that is read. -/
theorem isFloat_of_digits (negative : Bool) {x : Binary} {digits : Nat} {d : Char} {ds : List Char}
    {lead : Int} (hd : d :: ds = digitsOf digits) (h0 : d ≠ '0')
    (ht : numberStyle.magnitude x = Decimal.scientificText true (d :: ds) lead)
    (hr : (Numeral.ofDigits negative d ds lead).isReal) :
    IsFloat negative (numberStyle.magnitude x) := by
  have hdigits : ∀ c ∈ d :: ds, c.isDigit := hd ▸ (digitsOf_digits digits).2
  exact ⟨_, rfl, ofDigits_wellFormed negative lead hdigits h0, hr,
    ht.trans (scientificText_eq negative d ds lead)⟩

/-- The largest magnitude, which is not below the limit. -/
theorem isFloat_largest (negative : Bool) :
    IsFloat negative (numberStyle.magnitude ⟨2 ^ 53 - 1, 971⟩) := by
  have hreal : ∀ negative,
      (Numeral.ofDigits negative '1' "7976931348623157".toList 308).isReal := by
    decide +kernel
  exact isFloat_of_digits negative (show _ = digitsOf 17976931348623157 by decide +kernel) (by decide)
    (by decide +kernel) (hreal negative)

/-- Nor is the one before it. -/
theorem isFloat_secondLargest (negative : Bool) :
    IsFloat negative (numberStyle.magnitude ⟨2 ^ 53 - 2, 971⟩) := by
  have hreal : ∀ negative,
      (Numeral.ofDigits negative '1' "7976931348623155".toList 308).isReal := by
    decide +kernel
  exact isFloat_of_digits negative (show _ = digitsOf 17976931348623155 by decide +kernel) (by decide)
    (by decide +kernel) (hreal negative)

/-- All other magnitudes of floats are. -/
theorem below_upperLimit {m : Nat} {e : Int} (hm : m < 2 ^ 53) (he : e ≤ 971)
    (h : e = 971 → m ≤ 2 ^ 53 - 3) : Binary.Below ⟨m, e⟩ upperLimit := by
  unfold Binary.Below upperLimit
  dsimp only
  rcases eq_or_lt_of_le he with rfl | he
  · have h := h rfl
    have hup : ((971 : Int) - 2).toNat = 969 := rfl
    have hdown : (-((971 : Int) - 2)).toNat = 0 := rfl
    rw [hup, hdown, Nat.pow_zero, Nat.mul_one]
    exact Nat.mul_le_mul_right _ (by omega)
  · have hstep (k : Nat) (hk : (e - 2).toNat + 1 ≤ k) :
        (4 * m + 2) * 2 ^ (e - 2).toNat ≤ (2 ^ 55 - 10) * 2 ^ k := by
      calc (4 * m + 2) * 2 ^ (e - 2).toNat
        _ ≤ (2 ^ 55 - 10) * 2 * 2 ^ (e - 2).toNat := Nat.mul_le_mul_right _ (by omega)
        _ = (2 ^ 55 - 10) * 2 ^ ((e - 2).toNat + 1) := by ring
        _ ≤ (2 ^ 55 - 10) * 2 ^ k := Nat.mul_le_mul_left _ (Nat.pow_le_pow_right (by decide) hk)
    exact (hstep 969 (by omega)).trans (Nat.le_mul_of_pos_right _ (Nat.two_pow_pos _))

/-- **A finite float is written as a number that is read as a float.** -/
theorem write_numeral {x : Float} (hx : x.isFinite) :
    ∃ negative text, numberStyle.write x = (if negative then ['-'] else []) ++ text ∧
      IsFloat negative text := by
  unfold Decimal.Style.write
  have hx : x.toModel.unpack.isFinite = true := hx
  cases hu : x.toModel.unpack with
  | notANumber => rw [hu] at hx; cases hx
  | infinity s => rw [hu] at hx; cases hx
  | zero s =>
    have hzero : ∀ negative, IsFloat negative ['0', '.', '0'] := fun negative =>
      isFloat_pointed negative digits_zero (fun _ => rfl) (by decide) digits_zero
    cases s with
    | negative => exact ⟨true, _, rfl, hzero true⟩
    | positive => exact ⟨false, _, rfl, hzero false⟩
  | finite s m e hm =>
    have hwidth : m < 2 ^ 53 := Number.mantissa_lt_of_unpack hu
    have hmax : e ≤ 971 := Number.exponent_le_of_unpack hu
    have hfloat : ∀ negative, IsFloat negative (numberStyle.magnitude ⟨m, e⟩) := by
      intro negative
      -- only the two largest come too close to the limit
      by_cases htop : e = 971 ∧ 2 ^ 53 - 3 < m
      · obtain ⟨rfl, htop⟩ := htop
        obtain rfl | rfl : m = 2 ^ 53 - 1 ∨ m = 2 ^ 53 - 2 := by omega
        · exact isFloat_largest negative
        · exact isFloat_secondLargest negative
      · exact isFloat_of_below negative hm (below_upperLimit hwidth hmax fun he => by omega)
    cases s with
    | negative => exact ⟨true, _, rfl, hfloat true⟩
    | positive => exact ⟨false, _, rfl, hfloat false⟩

end VirtualPrinter.Json
