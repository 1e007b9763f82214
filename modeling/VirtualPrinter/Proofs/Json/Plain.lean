import VirtualPrinter.Json.Printer
import VirtualPrinter.Proofs.Json.Numerals

/-!
# Printed values hold no control characters

Inside quotes control characters are escaped, and there are none outside.  So a printed value stands on
one line, whatever its texts hold.

## Main definitions

* `Json.Plain`: a text without control characters.

## Main results

* `plain_print`: the text of a value is plain.
-/

namespace VirtualPrinter.Json

open Decimal (Style digitsOf zeros)

/-- No control characters, thus no line ends either. -/
def Plain (text : List Char) : Prop := ∀ c ∈ text, 0x20 ≤ c.toNat

@[simp] theorem plain_nil : Plain [] := nofun

@[simp] theorem plain_cons {c : Char} {text : List Char} :
    Plain (c :: text) ↔ 0x20 ≤ c.toNat ∧ Plain text :=
  List.forall_mem_cons

@[simp] theorem plain_append {s t : List Char} : Plain (s ++ t) ↔ Plain s ∧ Plain t :=
  List.forall_mem_append

theorem Plain.not_mem_lineFeed {text : List Char} (h : Plain text) : '\n' ∉ text := fun hmem =>
  absurd (h _ hmem) (by decide)

/-! ### Numbers -/

theorem le_toNat_of_isDigit {c : Char} (h : c.isDigit) : 0x20 ≤ c.toNat :=
  Nat.le_trans (show 0x20 ≤ 48 by decide) (Char.isDigit_iff_toNat.mp h).1

theorem plain_digits {ds : List Char} (h : ∀ c ∈ ds, c.isDigit) : Plain ds := fun c hc =>
  le_toNat_of_isDigit (h c hc)

theorem plain_digitsOf (n : Nat) : Plain (digitsOf n) :=
  plain_digits (digitsOf_digits n).2

theorem plain_zeros (n : Nat) : Plain (zeros n) := fun _ hc => List.eq_of_mem_replicate hc ▸ by decide

theorem plain_printInt (i : Int) : Plain (printInt i) := by
  unfold printInt
  split <;> simp [plain_digitsOf]

theorem plain_positionalText (pointZero : Bool) {digits : List Char} (h : Plain digits) (point : Int) :
    Plain (Decimal.positionalText pointZero digits point) := by
  unfold Decimal.positionalText
  split
  · simp [plain_zeros, h]
  · split
    · cases pointZero <;> simp [plain_zeros, h]
    · have htake : Plain (digits.take point.toNat) := fun c hc => h c (List.mem_of_mem_take hc)
      have hdrop : Plain (digits.drop point.toNat) := fun c hc => h c (List.mem_of_mem_drop hc)
      simp [htake, hdrop]

/-- What stands in a text with an exponent. -/
theorem mem_scientificText {plusSign : Bool} {digits : List Char} {lead : Int} {c : Char}
    (h : c ∈ Decimal.scientificText plusSign digits lead) :
    c ∈ digits ∨ c.isDigit ∨ c ∈ ['.', 'e', '+', '-'] := by
  have hsign : c ∈ (if lead < 0 then ['-'] else if plusSign then ['+'] else []) → c = '-' ∨ c = '+' := by
    split
    · exact fun hc => .inl (List.mem_singleton.mp hc)
    · cases plusSign with
      | false => exact fun hc => absurd hc List.not_mem_nil
      | true => exact fun hc => .inr (List.mem_singleton.mp hc)
  simp only [Decimal.scientificText, List.mem_append, List.mem_cons] at h
  rcases h with ((h | h) | h | h) | h
  · exact .inl (List.mem_of_mem_take h)
  · -- a point and the digits behind the first, or nothing
    split at h
    · exact absurd h List.not_mem_nil
    · rcases List.mem_cons.mp h with rfl | h
      · exact .inr (.inr (by simp))
      · exact .inl (List.mem_of_mem_drop h)
  · exact .inr (.inr (by simp [h]))
  · rcases hsign h with rfl | rfl <;> exact .inr (.inr (by simp))
  · exact .inr (.inl ((digitsOf_digits _).2 c h))

theorem plain_scientificText (plusSign : Bool) {digits : List Char} (h : Plain digits) (lead : Int) :
    Plain (Decimal.scientificText plusSign digits lead) := by
  intro c hc
  rcases mem_scientificText hc with hc | hc | hc
  · exact h c hc
  · exact le_toNat_of_isDigit hc
  · simp only [List.mem_cons, List.not_mem_nil, or_false] at hc
    rcases hc with rfl | rfl | rfl | rfl <;> decide

theorem plain_write (style : Style) (x : Float) : Plain (style.write x) := by
  have hsign : ∀ s, Plain (Decimal.signText s) := by
    intro s
    cases s <;> simp [Decimal.signText]
  unfold Style.write
  split
  · simp
  · simp [hsign]
  · cases style.pointZero <;> simp [hsign]
  · rw [plain_append]
    refine ⟨hsign _, ?_⟩
    unfold Style.magnitude
    dsimp only
    split
    · exact plain_positionalText _ (plain_digitsOf _) _
    · exact plain_scientificText _ (plain_digitsOf _) _

theorem plain_number (n : Number) : Plain n.print := by
  cases n with
  | int i => exact plain_printInt i
  | real x => exact plain_write numberStyle x

/-! ### Texts -/

theorem plain_escape (c : Char) : Plain (escape c) := by
  by_cases h : c.toNat < 0x20
  -- there are few enough control characters to look at each
  · have hcontrol : ∀ n < 0x20, (escape (Char.ofNat n)).all (0x20 ≤ ·.toNat) := by decide
    have hplain := hcontrol _ h
    rw [Char.ofNat_toNat, List.all_eq_true] at hplain
    exact fun d hd => of_decide_eq_true (hplain d hd)
  · unfold escape
    split
    · simp
    · split
      · simp
      · exact plain_cons.mpr ⟨Nat.le_of_not_lt h, plain_nil⟩

theorem plain_quote (s : List Char) : Plain (quote s) := by
  have hescape : Plain (s.flatMap escape) := fun c hc => by
    obtain ⟨d, -, hc⟩ := List.mem_flatMap.mp hc
    exact plain_escape d c hc
  simp [quote, hescape]

/-! ### Values -/

namespace Value

mutual

/-- **A printed value is plain.** -/
theorem plain_print : ∀ v : Value, Plain v.print
  | .null | .bool true | .bool false => by simp [print]
  | .number n => plain_number n
  | .text s => plain_quote s.toList
  | .list items => by simp [print, plain_printItems items]
  | .object fields => by simp [print, plain_printFields fields]

theorem plain_printItems : ∀ items, Plain (printItems items)
  | [] => plain_nil
  | [v] => plain_print v
  | v :: w :: rest => by simp [printItems, plain_print v, plain_printItems (w :: rest)]

theorem plain_printFields : ∀ fields, Plain (printFields fields)
  | [] => plain_nil
  | [(k, v)] => by simp [printFields, plain_quote, plain_print v]
  | (k, v) :: next :: rest => by
    simp [printFields, plain_quote, plain_print v, plain_printFields (next :: rest)]

end

end Value

end VirtualPrinter.Json
