import Mathlib
import VirtualPrinter.Decimal.Reading

/-!
# Numerals without an exponent

A text of digits, points and signs denotes a number if it is a numeral without an exponent: the words
for infinities have letters, and so has an exponent.

## Main definitions

* `Decimal.PlainNumeral`: an optional sign, and digits with at most one point among them.

## Main results

* `unsigned?_eq_some_iff`: the reader cuts a text at its point.
* `read?_eq_some_iff`: what a text of such characters denotes.
-/

namespace VirtualPrinter.Decimal

/-- A numeral without an exponent: an optional sign, and at least one digit, with at most one point
before, between or behind the digits. -/
structure PlainNumeral where
  /-- The sign, if there is one: it is a minus. -/
  sign : Option Bool
  whole : List Char
  /-- What stands behind the point, if there is one. -/
  fraction : Option (List Char)
  whole_digits : ∀ c ∈ whole, c.isDigit
  fraction_digits : ∀ c ∈ fraction.getD [], c.isDigit
  digits_ne_nil : whole ++ fraction.getD [] ≠ []

/-- A sign as it is written. -/
def signChars : Option Bool → List Char
  | none => []
  | some true => ['-']
  | some false => ['+']

/-- A fraction as it is written, with its point. -/
def fractionChars : Option (List Char) → List Char
  | none => []
  | some digits => '.' :: digits

namespace PlainNumeral

/-- The text of a numeral. -/
def text (n : PlainNumeral) : List Char := signChars n.sign ++ (n.whole ++ fractionChars n.fraction)

/-- The float that a numeral denotes: the one nearest to its decimal, which may be infinite. -/
def value (n : PlainNumeral) : Float :=
  signed (n.sign.getD false)
    (nearest (ofDigits (n.whole ++ n.fraction.getD [])) (-((n.fraction.getD []).length : Int)))

end PlainNumeral

/-! ### Without a sign -/

/-- Nothing but an exponent stands behind the digits. -/
theorem exponent?_eq_some_iff {text : List Char} (h : ∀ c ∈ text, c ≠ 'e' ∧ c ≠ 'E') {e : Int} :
    exponent? text = some e ↔ text = [] ∧ e = 0 := by
  cases text with
  | nil => simp [exponent?, eq_comm]
  | cons c rest =>
    obtain ⟨hsmall, hcapital⟩ := h c List.mem_cons_self
    simp [exponent?, hsmall, hcapital]

/-- A text with a point behind its first digits. -/
theorem unsigned?_of_point {text rest : List Char} (h : text.dropWhile Char.isDigit = '.' :: rest) :
    unsigned? text =
      if (text.takeWhile Char.isDigit).isEmpty && (rest.takeWhile Char.isDigit).isEmpty then none
      else (exponent? (rest.dropWhile Char.isDigit)).map fun e =>
        nearest (ofDigits (text.takeWhile Char.isDigit ++ rest.takeWhile Char.isDigit))
          (e - (rest.takeWhile Char.isDigit).length) := by
  rw [unsigned?, h]
  rfl

/-- A text without one. -/
theorem unsigned?_of_no_point {text : List Char}
    (h : ∀ rest, text.dropWhile Char.isDigit ≠ '.' :: rest) :
    unsigned? text =
      if (text.takeWhile Char.isDigit).isEmpty then none
      else (exponent? (text.dropWhile Char.isDigit)).map fun e =>
        nearest (ofDigits (text.takeWhile Char.isDigit)) e := by
  rw [unsigned?]
  generalize text.dropWhile Char.isDigit = rest at h ⊢
  split
  next fraction behind heq =>
  split at heq
  · exact absurd rfl (h _)
  · obtain ⟨rfl, rfl⟩ := Prod.mk.inj heq
    simp

/-- Digits with a point are cut at the point. -/
theorem unsigned?_fractionChars {whole : List Char} {fraction : Option (List Char)}
    (hwhole : ∀ c ∈ whole, c.isDigit) (hfraction : ∀ c ∈ fraction.getD [], c.isDigit)
    (hne : whole ++ fraction.getD [] ≠ []) :
    unsigned? (whole ++ fractionChars fraction) =
      some (nearest (ofDigits (whole ++ fraction.getD [])) (-((fraction.getD []).length : Int))) := by
  have hpoint : (fractionChars fraction).takeWhile Char.isDigit = [] ∧
      (fractionChars fraction).dropWhile Char.isDigit = fractionChars fraction := by
    cases fraction with
    | none => exact ⟨rfl, rfl⟩
    | some digits => exact ⟨rfl, rfl⟩
  have htake : (whole ++ fractionChars fraction).takeWhile Char.isDigit = whole := by
    rw [List.takeWhile_append_of_pos hwhole, hpoint.1, List.append_nil]
  have hdrop : (whole ++ fractionChars fraction).dropWhile Char.isDigit = fractionChars fraction := by
    rw [List.dropWhile_append_of_pos hwhole, hpoint.2]
  rw [unsigned?, htake, hdrop]
  cases fraction with
  | none =>
    have hsome : whole ≠ [] := by simpa using hne
    simp [fractionChars, exponent?, hsome]
  | some digits =>
    have hall : digits.takeWhile Char.isDigit = digits := List.takeWhile_eq_self_iff.mpr hfraction
    have hnone : digits.dropWhile Char.isDigit = [] := List.dropWhile_eq_nil_iff.mpr hfraction
    have hsome : whole = [] → digits ≠ [] := by simpa using hne
    simpa [fractionChars, hall, hnone, exponent?] using hsome

/-- What is read as a number without an exponent is written as one. -/
theorem exists_fractionChars {text : List Char} (h : ∀ c ∈ text, c ≠ 'e' ∧ c ≠ 'E') {x : Float}
    (hx : unsigned? text = some x) : ∃ whole fraction, text = whole ++ fractionChars fraction ∧
      (∀ c ∈ whole, c.isDigit) ∧ (∀ c ∈ fraction.getD [], c.isDigit) ∧
        whole ++ fraction.getD [] ≠ [] := by
  have hdigits (s : List Char) : ∀ c ∈ s.takeWhile Char.isDigit, c.isDigit := fun c hc =>
    List.mem_takeWhile_imp hc
  have hcut (s : List Char) : s.takeWhile Char.isDigit ++ s.dropWhile Char.isDigit = s :=
    List.takeWhile_append_dropWhile
  have hbehind : ∀ c ∈ text.dropWhile Char.isDigit, c ≠ 'e' ∧ c ≠ 'E' := fun c hc =>
    h c ((List.dropWhile_suffix _).subset hc)
  -- the numeral has a point behind its first digits, or ends with them
  by_cases hpoint : ∃ rest, text.dropWhile Char.isDigit = '.' :: rest
  · obtain ⟨rest, hrest⟩ := hpoint
    rw [hrest] at hbehind
    have hplain : ∀ c ∈ rest.dropWhile Char.isDigit, c ≠ 'e' ∧ c ≠ 'E' := fun c hc =>
      hbehind c (List.mem_cons_of_mem _ ((List.dropWhile_suffix _).subset hc))
    rw [unsigned?_of_point hrest] at hx
    obtain ⟨hsome, hx⟩ := Option.ite_none_left_eq_some.mp hx
    obtain ⟨e, he, -⟩ := Option.map_eq_some_iff.mp hx
    have hend := ((exponent?_eq_some_iff hplain).mp he).1
    refine ⟨_, some (rest.takeWhile Char.isDigit), ?_, hdigits text, hdigits rest, ?_⟩
    · have hrun := hcut rest
      rw [hend, List.append_nil] at hrun
      rw [fractionChars, hrun, ← hrest, hcut]
    · simpa using hsome
  · rw [unsigned?_of_no_point fun rest hrest => hpoint ⟨rest, hrest⟩] at hx
    obtain ⟨hsome, hx⟩ := Option.ite_none_left_eq_some.mp hx
    obtain ⟨e, he, -⟩ := Option.map_eq_some_iff.mp hx
    have hend := ((exponent?_eq_some_iff hbehind).mp he).1
    refine ⟨_, none, ?_, hdigits text, nofun, by simpa using hsome⟩
    have hrun := hcut text
    rw [hend] at hrun
    exact hrun.symm

/-! ### With a sign -/

/-- The words for infinities and for no number have letters. -/
theorem word?_eq_none {text : List Char} (h : ∀ c ∈ text, c.isAlpha = false) : word? text = none := by
  have hne (w : String) (hw : w.toList.any Char.isAlpha) :
      String.ofList (text.map Char.toLower) ≠ w := by
    rintro rfl
    obtain ⟨c, hc, halpha⟩ := List.any_eq_true.mp hw
    rw [String.toList_ofList] at hc
    obtain ⟨d, hd, rfl⟩ := List.mem_map.mp hc
    rw [Char.isAlpha_toLower_eq_isAlpha, h d hd] at halpha
    cases halpha
  unfold word?
  split
  · next heq => exact absurd heq (hne "inf" rfl)
  · next heq => exact absurd heq (hne "infinity" rfl)
  · next heq => exact absurd heq (hne "nan" rfl)
  · rfl

/-- Every text has a sign in front, or none. -/
theorem exists_signChars (text : List Char) :
    ∃ sign, text = signChars sign ++ (takeSign text).2 ∧ (takeSign text).1 = sign.getD false := by
  unfold takeSign
  split
  · exact ⟨some true, rfl, rfl⟩
  · exact ⟨some false, rfl, rfl⟩
  · exact ⟨none, rfl, rfl⟩

theorem takeSign_signChars (sign : Option Bool) {text : List Char}
    (h : ∀ c ∈ text.head?, c ≠ '-' ∧ c ≠ '+') :
    takeSign (signChars sign ++ text) = (sign.getD false, text) := by
  match sign with
  | some true => rfl
  | some false => rfl
  | none =>
    change takeSign text = (false, text)
    unfold takeSign
    split
    · exact absurd rfl (h '-' rfl).1
    · exact absurd rfl (h '+' rfl).2
    · rfl

/-- No numeral has two signs. -/
theorem PlainNumeral.unsigned_head (n : PlainNumeral) :
    ∀ c ∈ (n.whole ++ fractionChars n.fraction).head?, c ≠ '-' ∧ c ≠ '+' := by
  have hdigit {c : Char} (hc : c.isDigit) : c ≠ '-' ∧ c ≠ '+' := by
    constructor <;> rintro rfl <;> cases hc
  -- it starts with a digit or, without one, with the point
  intro c hc
  cases hw : n.whole with
  | cons d rest =>
    rw [hw] at hc
    obtain rfl : d = c := Option.some.inj hc
    exact hdigit (n.whole_digits d (hw ▸ List.mem_cons_self))
  | nil =>
    rw [hw] at hc
    cases hf : n.fraction with
    | none => exact absurd (by rw [hw, hf]; rfl) n.digits_ne_nil
    | some digits =>
      rw [hf] at hc
      obtain rfl : '.' = c := Option.some.inj hc
      decide

/-- **A text without letters denotes what it is a numeral of.** -/
theorem read?_eq_some_iff {text : List Char} (h : ∀ c ∈ text, c.isAlpha = false) {x : Float} :
    read? text = some x ↔ ∃ n : PlainNumeral, n.text = text ∧ n.value = x := by
  constructor
  · intro hx
    obtain ⟨sign, htext, hsign⟩ := exists_signChars text
    have hplain : ∀ c ∈ (takeSign text).2, c.isAlpha = false := fun c hc =>
      h c (htext ▸ List.mem_append_right _ hc)
    have hletters : ∀ c ∈ (takeSign text).2, c ≠ 'e' ∧ c ≠ 'E' := fun c hc => by
      constructor <;> rintro rfl <;> exact absurd (hplain _ hc) (by decide)
    simp only [read?, word?_eq_none hplain] at hx
    obtain ⟨y, hy, rfl⟩ := Option.map_eq_some_iff.mp hx
    have hy : unsigned? (takeSign text).2 = some y := by simpa using hy
    obtain ⟨whole, fraction, hrest, hwhole, hfraction, hne⟩ := exists_fractionChars hletters hy
    refine ⟨⟨sign, whole, fraction, hwhole, hfraction, hne⟩, ?_, ?_⟩
    · rw [PlainNumeral.text, ← hrest, ← htext]
    · rw [hrest, unsigned?_fractionChars hwhole hfraction hne] at hy
      rw [PlainNumeral.value, hsign, Option.some.inj hy]
  · rintro ⟨n, rfl, rfl⟩
    rw [read?, PlainNumeral.text, takeSign_signChars n.sign n.unsigned_head]
    simp only [unsigned?_fractionChars n.whole_digits n.fraction_digits n.digits_ne_nil]
    rfl

end VirtualPrinter.Decimal
