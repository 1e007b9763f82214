import Mathlib
import VirtualPrinter.Text.Blank

/-!
# Letters in either case

Two texts that differ in the case of letters alone.  Only the letters of ASCII have two cases here, so
that a text has as many characters as any other spelling of it, and whatever is no letter stays.

## Main definitions

* `Text.SameLetters`: two texts that differ in the case of letters alone.
* `Text.CaseBlind`: a class of characters that holds both cases of a letter or none.

## Main results

* `SameLetters.takeWhile`, `SameLetters.dropWhile`, `SameLetters.dropEndWhile`: such texts are cut at
  the same places.
-/

namespace VirtualPrinter.Text

/-- Two texts differ in the case of letters alone. -/
def SameLetters (s t : List Char) : Prop := s.map Char.toLower = t.map Char.toLower

instance (s t : List Char) : Decidable (SameLetters s t) :=
  inferInstanceAs (Decidable (s.map Char.toLower = t.map Char.toLower))

/-- A class of characters does not tell the two cases of a letter apart. -/
def CaseBlind (p : Char → Bool) : Prop := ∀ c : Char, p c.toLower = p c

/-! ### One character -/

theorem toNat_toLower (c : Char) :
    c.toLower.toNat = if 65 ≤ c.toNat ∧ c.toNat ≤ 90 then c.toNat + 32 else c.toNat := by
  have hval : c.val.toNat = c.toNat := rfl
  unfold Char.toLower
  split
  · next h =>
    have hlow : 65 ≤ c.toNat := h.1
    have hhigh : c.toNat ≤ 90 := h.2
    rw [if_pos ⟨hlow, hhigh⟩]
    change (c.val + 32).toNat = _
    rw [UInt32.toNat_add]
    change (c.val.toNat + 32) % 2 ^ 32 = _
    omega
  · next h =>
    rw [if_neg]
    exact h

/-- A letter is as good in capitals as in small letters. -/
theorem toLower_eq_iff_toUpper_eq (c d : Char) : c.toLower = d.toLower ↔ c.toUpper = d.toUpper := by
  constructor <;> intro h
  · rw [← Char.toUpper_toLower_eq_toUpper, h, Char.toUpper_toLower_eq_toUpper]
  · rw [← Char.toLower_toUpper_eq_toLower, h, Char.toLower_toUpper_eq_toLower]

/-- The letters that are a letter in capitals are the letter in either case. -/
theorem toUpper_eq_toUpper_iff (c d : Char) :
    c.toUpper = d.toUpper ↔ c = d.toUpper ∨ c = d.toLower := by
  constructor
  · intro h
    by_cases hc : c.isLower
    · right
      rw [← Char.toLower_eq_of_not_isUpper (Char.not_isUpper_of_isLower hc)]
      exact (toLower_eq_iff_toUpper_eq c d).mpr h
    · left
      rw [← h, Char.toUpper_eq_of_not_isLower hc]
  · rintro (rfl | rfl)
    · exact Char.toUpper_toUpper_eq_toUpper d
    · exact Char.toUpper_toLower_eq_toUpper d

theorem isAlpha_iff (c : Char) :
    c.isAlpha ↔ 65 ≤ c.toNat ∧ c.toNat ≤ 90 ∨ 97 ≤ c.toNat ∧ c.toNat ≤ 122 := by
  simp [Char.isAlpha, Char.isUpper, Char.isLower, UInt32.le_iff_toNat_le]

/-- What is no letter has one case. -/
theorem toLower_of_not_isAlpha {c : Char} (h : c.isAlpha = false) : c.toLower = c := by
  have hupper : c.isUpper = false := (Bool.or_eq_false_iff.mp h).1
  exact Char.toLower_eq_of_not_isUpper (Bool.eq_false_iff.mp hupper)

/-- A class without letters is blind to their case. -/
theorem caseBlind_of_not_isAlpha {p : Char → Bool} (h : ∀ c : Char, c.isAlpha → p c = false) :
    CaseBlind p := by
  intro c
  cases hc : c.isAlpha with
  | false => rw [toLower_of_not_isAlpha hc]
  | true => rw [h c hc, h _ (by rw [Char.isAlpha_toLower_eq_isAlpha, hc])]

theorem CaseBlind.not {p : Char → Bool} (h : CaseBlind p) : CaseBlind fun c => !p c := fun c =>
  congrArg (!·) (h c)

/-! ### Texts -/

namespace SameLetters

variable {s t u : List Char}

theorem refl (s : List Char) : SameLetters s s := rfl

theorem symm (h : SameLetters s t) : SameLetters t s := Eq.symm h

theorem trans (h : SameLetters s t) (h' : SameLetters t u) : SameLetters s u := Eq.trans h h'

theorem nil_iff : SameLetters s [] ↔ s = [] := List.map_eq_nil_iff

theorem cons_iff {c d : Char} :
    SameLetters (c :: s) (d :: t) ↔ c.toLower = d.toLower ∧ SameLetters s t := by
  simp [SameLetters]

theorem takeWhile (h : SameLetters s t) {p : Char → Bool} (hp : CaseBlind p) :
    SameLetters (s.takeWhile p) (t.takeWhile p) := by
  have hcomp : p ∘ Char.toLower = p := funext hp
  have hmap (r : List Char) :
      (r.takeWhile p).map Char.toLower = (r.map Char.toLower).takeWhile p := by
    rw [List.takeWhile_map, hcomp]
  unfold SameLetters at *
  rw [hmap, hmap, h]

theorem dropWhile (h : SameLetters s t) {p : Char → Bool} (hp : CaseBlind p) :
    SameLetters (s.dropWhile p) (t.dropWhile p) := by
  have hcomp : p ∘ Char.toLower = p := funext hp
  have hmap (r : List Char) :
      (r.dropWhile p).map Char.toLower = (r.map Char.toLower).dropWhile p := by
    rw [List.dropWhile_map, hcomp]
  unfold SameLetters at *
  rw [hmap, hmap, h]

theorem reverse (h : SameLetters s t) : SameLetters s.reverse t.reverse := by
  unfold SameLetters at *
  rw [List.map_reverse, List.map_reverse, h]

theorem dropEndWhile (h : SameLetters s t) {p : Char → Bool} (hp : CaseBlind p) :
    SameLetters (dropEndWhile p s) (dropEndWhile p t) :=
  (h.reverse.dropWhile hp).reverse

/-- Texts without letters are spelled in one way. -/
theorem eq_of_not_isAlpha (h : SameLetters s t) (hs : ∀ c ∈ s, c.isAlpha = false)
    (ht : ∀ c ∈ t, c.isAlpha = false) : s = t := by
  have hself {r : List Char} (hr : ∀ c ∈ r, c.isAlpha = false) : r.map Char.toLower = r := by
    rw [List.map_congr_left fun c hc => toLower_of_not_isAlpha (hr c hc), List.map_id']
  rw [SameLetters, hself hs, hself ht] at h
  exact h

end SameLetters

/-! ### Blanks -/

theorem isBlank_of_isAlpha {c : Char} (h : c.isAlpha) : isBlank c = false := by
  have := (isAlpha_iff c).mp h
  simp only [isBlank, Bool.or_eq_false_iff, Bool.and_eq_false_iff, decide_eq_false_iff_not,
    beq_eq_false_iff_ne]
  omega

theorem caseBlind_isBlank : CaseBlind isBlank :=
  caseBlind_of_not_isAlpha fun _ => isBlank_of_isAlpha

theorem SameLetters.trim {s t : List Char} (h : SameLetters s t) :
    SameLetters (Text.trim s) (Text.trim t) :=
  (h.dropWhile caseBlind_isBlank).dropEndWhile caseBlind_isBlank

end VirtualPrinter.Text
