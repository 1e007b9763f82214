import VirtualPrinter.Json.Token
import VirtualPrinter.Json.Printer

/-!
# Numbers as written

A number as written is a run of digits, and perhaps a fraction and an exponent.  The grammar takes as
much text as it can, so the parts come back out of the text when what follows is not part of a
number.

## Main definitions

* `Numeral.WellFormed`: the parts are as the grammar wants them.
* `Numeral.text`: the text of the parts.
* `Json.Ends`: nothing of a number follows.

* `Number.InRange`: an integer fits sixty-four bits.

## Main results

* `numeral_text`: the parts come back out of their text.
* `collect_of_lt`: digits are counted as long as the count fits.
* `ofInt_value`: an integer in range is read as itself.
-/

namespace VirtualPrinter.Json

/-- A text that does not go on with a number. -/
def Ends (rest : List Char) : Prop :=
  ∀ c ∈ rest.head?, c.isDigit = false ∧ c ≠ '.' ∧ c ≠ 'e' ∧ c ≠ 'E'

theorem ends_nil : Ends [] := nofun

theorem ends_cons {c : Char} (h : c.isDigit = false ∧ c ≠ '.' ∧ c ≠ 'e' ∧ c ≠ 'E')
    (rest : List Char) : Ends (c :: rest) := by
  intro d hd
  cases hd
  exact h

namespace Numeral

/-- Some digits. -/
def Digits (ds : List Char) : Prop := ds ≠ [] ∧ ∀ c ∈ ds, c.isDigit

/-- The parts are as the grammar wants them: a leading zero stands alone. -/
structure WellFormed (n : Numeral) : Prop where
  whole : Digits n.whole
  alone : n.whole.head? = some '0' → n.whole = ['0']
  fraction : ∀ ds ∈ n.fraction, Digits ds
  exponent : ∀ p ∈ n.exponent, Digits p.2

/-- The text of a fraction. -/
def fractionText : Option (List Char) → List Char
  | none => []
  | some ds => '.' :: ds

/-- The text of an exponent, with its sign. -/
def exponentText : Option (Bool × List Char) → List Char
  | none => []
  | some (below, ds) => 'e' :: (if below then '-' else '+') :: ds

/-- The text of the parts, without the sign in front. -/
def text (n : Numeral) : List Char :=
  n.whole ++ (fractionText n.fraction ++ exponentText n.exponent)

end Numeral

open Numeral (Digits fractionText exponentText)

/-! ### Runs of digits -/

theorem someDigits_append {ds : List Char} (h : Digits ds) {rest : List Char}
    (hr : ∀ c ∈ rest.head?, c.isDigit = false) : someDigits (ds ++ rest) = .ok (ds, rest) := by
  have htake : (ds ++ rest).takeWhile Char.isDigit = ds := by
    rw [List.takeWhile_append_of_pos h.2]
    cases rest with
    | nil => rw [List.takeWhile_nil, List.append_nil]
    | cons c rest => rw [List.takeWhile_cons_of_neg (by simp [hr c rfl]), List.append_nil]
  have hdrop : (ds ++ rest).dropWhile Char.isDigit = rest := by
    rw [List.dropWhile_append_of_pos h.2]
    cases rest with
    | nil => rfl
    | cons c rest => rw [List.dropWhile_cons_of_neg (by simp [hr c rfl])]
  unfold someDigits
  rw [htake, hdrop]
  obtain ⟨d, ds, rfl⟩ := List.exists_cons_of_ne_nil h.1
  rfl

theorem wholePart_append {n : Numeral} (h : n.WellFormed) {rest : List Char}
    (hr : ∀ c ∈ rest.head?, c.isDigit = false) :
    wholePart (n.whole ++ rest) = .ok (n.whole, rest) := by
  unfold wholePart
  rw [someDigits_append h.whole hr]
  split
  · next he =>
    -- a zero in front of further digits
    injection he with he
    injection he with hw
    have hone := h.alone (by rw [hw]; rfl)
    rw [hw] at hone
    cases hone
  · rfl

theorem fractionPart_append {fraction : Option (List Char)} (h : ∀ ds ∈ fraction, Digits ds)
    {rest : List Char} (hr : ∀ c ∈ rest.head?, c.isDigit = false ∧ c ≠ '.') :
    fractionPart (fractionText fraction ++ rest) = .ok (fraction, rest) := by
  cases fraction with
  | some ds =>
    change (someDigits (ds ++ rest)).map _ = _
    rw [someDigits_append (h ds rfl) fun c hc => (hr c hc).1]
    rfl
  | none =>
    cases rest with
    | nil => rfl
    | cons c rest =>
      rw [fractionText, List.nil_append, fractionPart.eq_2]
      intro rest' he
      injection he with hc
      exact absurd hc (hr c rfl).2

theorem exponentPart_append {exponent : Option (Bool × List Char)}
    (h : ∀ p ∈ exponent, Digits p.2) {rest : List Char} (hr : Ends rest) :
    exponentPart (exponentText exponent ++ rest) = .ok (exponent, rest) := by
  cases exponent with
  | some p =>
    obtain ⟨below, ds⟩ := p
    have hd := someDigits_append (h _ rfl) fun c hc => (hr c hc).1
    cases below with
    | false =>
      change (someDigits (ds ++ rest)).map _ = _
      rw [hd]
      rfl
    | true =>
      change (someDigits (ds ++ rest)).map _ = _
      rw [hd]
      rfl
  | none =>
    cases rest with
    | nil => rfl
    | cons c rest =>
      obtain ⟨-, -, he, hE⟩ := hr c rfl
      simp [exponentText, exponentPart, he, hE]

/-- **The parts of a number come back out of its text.** -/
theorem numeral_text {n : Numeral} (h : n.WellFormed) {rest : List Char} (hr : Ends rest) :
    numeral n.negative (n.text ++ rest) = .ok (n, rest) := by
  -- a part ends where the next one that is there begins, with a letter or a point
  have hexponent : ∀ c ∈ (exponentText n.exponent ++ rest).head?, c.isDigit = false ∧ c ≠ '.' := by
    intro c hc
    cases he : n.exponent with
    | none =>
      rw [he] at hc
      exact ⟨(hr c hc).1, (hr c hc).2.1⟩
    | some p =>
      rw [he] at hc
      cases hc
      decide
  have hfraction : ∀ c ∈ (fractionText n.fraction ++ (exponentText n.exponent ++ rest)).head?,
      c.isDigit = false := by
    intro c hc
    cases hf : n.fraction with
    | none =>
      rw [hf] at hc
      exact (hexponent c hc).1
    | some ds =>
      rw [hf] at hc
      cases hc
      decide
  rw [Numeral.text, List.append_assoc, List.append_assoc, numeral, wholePart_append h hfraction]
  simp only [bind, Except.bind, fractionPart_append h.fraction hexponent,
    exponentPart_append h.exponent hr]
  rfl

/-! ### Counting -/

/-- The digits that are counted, and those that are left. -/
theorem collect_spec (n : Nat) (ds : List Char) :
    ∃ counted, ds = counted ++ (Numeral.collect n ds).2 ∧
      (Numeral.collect n ds).1 = Nat.ofDigitChars 10 counted n := by
  induction ds generalizing n with
  | nil => exact ⟨[], rfl, rfl⟩
  | cons c ds ih =>
    rw [Numeral.collect]
    split
    · obtain ⟨counted, hd, hc⟩ := ih (10 * n + (c.toNat - '0'.toNat))
      exact ⟨c :: counted, by rw [List.cons_append, ← hd], hc⟩
    · exact ⟨[], rfl, rfl⟩

theorem collect_lt {n : Nat} (hn : n < Nat.pow 2 64) (ds : List Char) :
    (Numeral.collect n ds).1 < Nat.pow 2 64 := by
  induction ds generalizing n with
  | nil => exact hn
  | cons c ds ih =>
    rw [Numeral.collect]
    split
    · next h => exact ih h
    · exact hn

/-- A count only grows by further digits. -/
theorem le_ofDigitChars (n : Nat) (ds : List Char) :
    n * Nat.pow 10 ds.length ≤ Nat.ofDigitChars 10 ds n := by
  rw [Nat.ofDigitChars_eq_ofDigitChars_zero, Nat.pow_eq, Nat.mul_comm]
  exact Nat.le_add_right _ _

/-- Digits are counted as long as the count fits. -/
theorem collect_of_lt {n : Nat} {ds : List Char} (h : Nat.ofDigitChars 10 ds n < Nat.pow 2 64) :
    Numeral.collect n ds = (Nat.ofDigitChars 10 ds n, []) := by
  induction ds generalizing n with
  | nil => rfl
  | cons c ds ih =>
    rw [Nat.ofDigitChars_cons] at h ⊢
    -- the count so far is no more than the count in the end
    have hle := le_ofDigitChars (10 * n + (c.toNat - '0'.toNat)) ds
    have hm : 10 * n + (c.toNat - '0'.toNat) < Nat.pow 2 64 :=
      Nat.lt_of_le_of_lt (Nat.le_trans (Nat.le_mul_of_pos_right _ (Nat.pow_pos (by decide))) hle) h
    rw [Numeral.collect]
    rw [if_pos hm, ih h]

/-! ### Natural numbers in digits -/

theorem digitsOf_digits (n : Nat) : Digits (Decimal.digitsOf n) :=
  ⟨Nat.toDigits_ne_nil, fun _ hc => Nat.isDigit_of_mem_toDigits (by decide) (by decide) hc⟩

@[simp] theorem ofDigitChars_digitsOf (n : Nat) :
    Nat.ofDigitChars 10 (Decimal.digitsOf n) 0 = n :=
  Nat.ofDigitChars_ten_toDigits

/-- Only zero begins with the digit zero. -/
theorem digitsOf_head {n : Nat} (h : (Decimal.digitsOf n).head? = some '0') : n = 0 := by
  induction n using Nat.strongRecOn with
  | ind n ih =>
    rw [Decimal.digitsOf, Nat.toDigits_eq_if (by decide)] at h
    split at h
    · next hn =>
      have hdigit : ∀ n < 10, Nat.digitChar n = '0' → n = 0 := by decide
      exact hdigit n hn (Option.some.inj h)
    · next hn =>
      rw [List.head?_append, Option.or_of_isSome (by simp)] at h
      have hq := ih (n / 10) (by omega) h
      omega

theorem digitsOf_alone (n : Nat) (h : (Decimal.digitsOf n).head? = some '0') :
    Decimal.digitsOf n = ['0'] := by
  rw [digitsOf_head h]
  rfl

/-! ### Integers -/

/-- The integers that JSON numbers hold. -/
def Number.InRange : Number → Prop
  | .int i => -Nat.pow 2 63 ≤ i ∧ i < Nat.pow 2 64
  | .real _ => True

/-- The parts of an integer. -/
def Numeral.ofInt (i : Int) : Numeral := ⟨decide (i < 0), Decimal.digitsOf i.natAbs, none, none⟩

theorem ofInt_wellFormed (i : Int) : (Numeral.ofInt i).WellFormed :=
  ⟨digitsOf_digits _, digitsOf_alone _, nofun, nofun⟩

/-- **An integer that fits sixty-four bits is read as itself.** -/
theorem ofInt_value {i : Int} (h : (Number.int i).InRange) :
    (Numeral.ofInt i).value = .ok (.int i) := by
  obtain ⟨hlow, hhigh⟩ := h
  have hcount : Numeral.collect 0 (Decimal.digitsOf i.natAbs) = (i.natAbs, []) := by
    have hlt : i.natAbs < Nat.pow 2 64 := by
      simp only [Nat.pow_eq] at hlow hhigh ⊢
      omega
    rw [collect_of_lt] <;> rw [ofDigitChars_digitsOf]
    exact hlt
  simp only [Numeral.value, Numeral.ofInt, hcount, Numeral.integer]
  by_cases hi : i < 0
  · -- minus zero and what is further down would be floats
    have hbig : ¬(i.natAbs = 0 ∨ Nat.pow 2 63 < i.natAbs) := by
      simp only [Nat.pow_eq] at hlow ⊢
      omega
    simp only [hi, decide_true, if_true, hbig, if_false]
    congr 2
    omega
  · simp only [hi, decide_false, Bool.false_eq_true, if_false]
    congr 2
    omega

end VirtualPrinter.Json
