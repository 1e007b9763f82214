import VirtualPrinter.Proofs.Decimal.Large
import VirtualPrinter.Proofs.Json.Integers
import VirtualPrinter.Proofs.Json.Plain
import VirtualPrinter.Proofs.Json.Printed
import VirtualPrinter.Proofs.Wire.Grammar

/-!
# Printers as named by the peer

A name is a whole number, or else a decimal that is compared as a float.  Either way it has one value,
and the numbers of printers are small enough to be floats of their own.  So a name means one printer at
most, and an integer in a document means the printer with that number: integers that no printer has are
written as texts whose value is negative or too large, even where the document has them as floats.

## Main definitions

* `CommandRequest.named?`: what names the printer in the data of a command.

## Main results

* `DeviceId.eq_of_denotes`: a name means one printer at most.
* `DeviceId.denotes_number`: the number of a printer means that printer.
* `DeviceId.denotes_integer`: an integer in a document means the printer with that number.
* `CommandRequest.named?_of_ofEvent`: a command names the printer as its data does.
-/

namespace VirtualPrinter.Wire

open Decimal (digitsOf unsigned? signed)
open Json (Number Numeral Value digitsOf_digits ofDigitChars_digitsOf printInt)
open Json.Numeral (Digits)
open VirtualPrinter.Number (AtLeast)

namespace DeviceId

/-! ### The value of a name -/

theorem denotes_of_natural {d : DeviceId} {n : Nat} (h : natural? (Text.trim d.text.toList) = some n)
    (id : UInt32) : d.denotes id ↔ n = id.toNat := by
  simp [denotes, h]

theorem denotes_of_float {d : DeviceId} {x : Float}
    (h : natural? (Text.trim d.text.toList) = none)
    (hx : Decimal.read? (Text.trim d.text.toList) = some x) (id : UInt32) :
    d.denotes id ↔ x == Float.ofNat id.toNat := by
  simp [denotes, h, hx]

theorem toNat_lt (id : UInt32) : id.toNat < 2 ^ 53 := lt_trans id.toNat_lt (by decide)

/-- A name means one printer at most. -/
theorem eq_of_denotes {d : DeviceId} {a b : UInt32} (ha : d.denotes a) (hb : d.denotes b) : a = b := by
  refine UInt32.toNat_inj.mp ?_
  -- which of the two it is depends on the name alone
  cases h : natural? (Text.trim d.text.toList) with
  | some n => rw [← (denotes_of_natural h a).mp ha, ← (denotes_of_natural h b).mp hb]
  | none =>
    cases hx : Decimal.read? (Text.trim d.text.toList) with
    | some x =>
      exact Number.eq_of_beq_ofNat (toNat_lt a) (toNat_lt b)
        ((denotes_of_float h hx a).mp ha) ((denotes_of_float h hx b).mp hb)
    | none => simp [denotes, h, hx] at ha

/-! ### Names without blanks -/

/-- No blank stands in the text. -/
def Solid (text : List Char) : Prop := ∀ c ∈ text, Text.isBlank c = false

theorem Solid.trim {text : List Char} (h : Solid text) : Text.trim text = text := by
  have hstart : Text.trimStart text = text := by
    cases text with
    | nil => rfl
    | cons c rest =>
      exact List.dropWhile_cons_of_neg (by rw [h c List.mem_cons_self]; exact Bool.false_ne_true)
  have hend : Text.trimEnd text = text := by
    refine List.rdropWhile_eq_self_iff.mpr fun hne => ?_
    rw [h _ (List.getLast_mem hne)]
    exact Bool.false_ne_true
  rw [Text.trim, hstart, hend]

theorem not_isBlank_of_isDigit {c : Char} (h : c.isDigit) : Text.isBlank c = false := by
  have hdigits : ∀ n < 58, 48 ≤ n → Text.isBlank (Char.ofNat n) = false := by decide
  obtain ⟨hlow, hhigh⟩ := Char.isDigit_iff_toNat.mp h
  have hblank := hdigits c.toNat (Nat.lt_succ_of_le hhigh) hlow
  rwa [Char.ofNat_toNat] at hblank

theorem solid_digits {ds : List Char} (h : ∀ c ∈ ds, c.isDigit) : Solid ds := fun c hc =>
  not_isBlank_of_isDigit (h c hc)

theorem solid_scientificText {ds : List Char} (h : ∀ c ∈ ds, c.isDigit) (lead : Int) :
    Solid (Decimal.scientificText true ds lead) := by
  intro c hc
  rcases Json.mem_scientificText hc with hc | hc | hc
  · exact solid_digits h c hc
  · exact not_isBlank_of_isDigit hc
  · simp only [List.mem_cons, List.not_mem_nil, or_false] at hc
    rcases hc with rfl | rfl | rfl | rfl <;> rfl

/-- A run of digits is a whole number, unless it is too large. -/
theorem natural?_digits {ds : List Char} (h : Digits ds) :
    natural? ds = if Nat.ofDigitChars 10 ds 0 < 2 ^ 32 then some (Nat.ofDigitChars 10 ds 0) else none := by
  obtain ⟨hne, hdigits⟩ := h
  have hall : ds.all Char.isDigit = true := List.all_eq_true.mpr hdigits
  have hsome : ds.isEmpty = false := by simpa using hne
  unfold natural?
  split
  · exact absurd (hdigits '+' List.mem_cons_self) (by decide)
  · simp only [hall, hsome, Bool.not_true, Bool.or_self, Bool.false_eq_true, if_false]
    rfl

/-- What has a character that is no digit is no whole number. -/
theorem natural?_eq_none {c : Char} {rest : List Char} (hc : c ≠ '+') {b : Char} (hb : b ∈ c :: rest)
    (hdigit : b.isDigit = false) : natural? (c :: rest) = none := by
  have hall : (c :: rest).all Char.isDigit = false := by
    rw [List.all_eq_false]
    exact ⟨b, hb, by simp [hdigit]⟩
  unfold natural?
  split
  · next heq => exact absurd (List.cons.inj heq).1 hc
  · simp only [hall, Bool.not_false, Bool.or_true, if_true]

/-! ### Texts that mean no printer -/

/-- What is read as a large number, or as a negative one, means no printer. -/
theorem not_denotes (negative : Bool) {c : Char} {rest : List Char} {z : Float} (hc : c.isDigit)
    (hsolid : Solid (c :: rest)) (hz : unsigned? (c :: rest) = some z)
    (hnatural : negative = false → natural? (c :: rest) = none)
    (hlarge : AtLeast (if negative then (0 : Nat) else 32) z.toModel.unpack) (id : UInt32) :
    ¬denotes ⟨String.ofList ((if negative then ['-'] else []) ++ c :: rest)⟩ id := by
  have htrim : Text.trim (String.ofList ((if negative then ['-'] else []) ++ c :: rest)).toList =
      (if negative then ['-'] else []) ++ c :: rest := by
    rw [String.toList_ofList]
    refine Solid.trim ?_
    cases negative with
    | false => exact hsolid
    | true => exact List.forall_mem_cons.mpr ⟨rfl, hsolid⟩
  have hread := Decimal.read?_signed negative hc hz
  -- it is too large, or else it has the wrong sign
  cases negative with
  | false =>
    rw [denotes_of_float (by rw [htrim]; exact hnatural rfl) (by rw [htrim]; exact hread)]
    exact Number.not_beq_ofNat_of_atLeast (k := 32) hlarge id.toNat_lt (by decide)
  | true =>
    rw [denotes_of_float
      (by rw [htrim]; exact natural?_eq_none (by decide) List.mem_cons_self rfl)
      (by rw [htrim]; exact hread)]
    exact Number.not_neg_beq_ofNat hlarge (toNat_lt id)

/-! ### Integers in range -/

/-- The digits of a number mean the printer with that number. -/
theorem denotes_digitsOf (n : Nat) (id : UInt32) :
    denotes ⟨String.ofList (digitsOf n)⟩ id ↔ n = id.toNat := by
  have hdigits := digitsOf_digits n
  have htrim : Text.trim (String.ofList (digitsOf n)).toList = digitsOf n := by
    rw [String.toList_ofList]
    exact (solid_digits hdigits.2).trim
  have hnatural := natural?_digits hdigits
  rw [ofDigitChars_digitsOf] at hnatural
  -- beyond the numbers of printers the digits are read as a float
  by_cases hn : n < 2 ^ 32
  · rw [if_pos hn] at hnatural
    exact denotes_of_natural (by rw [htrim]; exact hnatural) id
  · rw [if_neg hn] at hnatural
    obtain ⟨c, rest, hcons⟩ := List.exists_cons_of_ne_nil hdigits.1
    have hz := Decimal.unsigned?_digits hdigits
    rw [Decimal.ofDigits_eq, ofDigitChars_digitsOf] at hz
    have hlog : 32 ≤ n.log2 := (Nat.le_log2 (by omega)).mpr (by omega)
    have hlarge : AtLeast (32 : Nat) (Decimal.nearest n 0).toModel.unpack :=
      Decimal.atLeast_nearest (by omega) le_rfl (by omega)
    rw [hcons] at hdigits hnatural hz ⊢
    have hnot := not_denotes false (hdigits.2 c List.mem_cons_self)
      (solid_digits hdigits.2) hz (fun _ => hnatural) hlarge id
    exact iff_of_false hnot fun h => hn (h ▸ id.toNat_lt)

/-- **The number of a printer means that printer.** -/
theorem denotes_number (n id : UInt32) : (DeviceId.ofNat n.toNat).denotes id ↔ n = id := by
  have hname : DeviceId.ofNat n.toNat = ⟨String.ofList (digitsOf n.toNat)⟩ := rfl
  rw [hname, denotes_digitsOf, UInt32.toNat_inj]

/-- The text of an integer of any size means the printer with that number. -/
theorem denotes_printInt (k : Int) (id : UInt32) :
    denotes ⟨String.ofList (printInt k)⟩ id ↔ k = id.toNat := by
  by_cases hk : k < 0
  · have hdigits := digitsOf_digits k.natAbs
    have hz := Decimal.unsigned?_digits hdigits
    rw [Decimal.ofDigits_eq, ofDigitChars_digitsOf] at hz
    have hlarge : AtLeast (0 : Nat) (Decimal.nearest k.natAbs 0).toModel.unpack :=
      Decimal.atLeast_nearest (by omega) le_rfl (Nat.zero_le _)
    obtain ⟨c, rest, hcons⟩ := List.exists_cons_of_ne_nil hdigits.1
    have hprint : printInt k = (if true then ['-'] else []) ++ c :: rest := by
      rw [printInt, if_pos hk, hcons]
      rfl
    rw [hcons] at hdigits hz
    rw [hprint]
    exact iff_of_false
      (not_denotes true (hdigits.2 c List.mem_cons_self) (solid_digits hdigits.2) hz
        (fun h => absurd h (by decide)) hlarge id) (by omega)
  · have hprint : printInt k = digitsOf k.natAbs := by
      rw [printInt, if_neg hk, List.nil_append]
    rw [hprint, denotes_digitsOf]
    omega

/-! ### Integers out of range -/

/-- The text of a large float, of either sign, means no printer. -/
theorem not_denotes_write {y : Float} (hy : y.isFinite) (hlarge : AtLeast 63 y.toModel.unpack)
    (negative : Bool) (id : UInt32) :
    ¬denotes ⟨String.ofList (Json.numberStyle.write (signed negative y))⟩ id := by
  -- neither zero, nor infinite, nor negative
  obtain ⟨m, e, hm, hu⟩ : ∃ m e hm, y.toModel.unpack = .finite .positive m e hm := by
    have hbelow := (Number.isFinite_iff_below y).mp hy
    cases hu : y.toModel.unpack with
    | finite s m e hm =>
      rw [hu] at hlarge
      obtain ⟨rfl, -⟩ := hlarge
      exact ⟨m, e, hm, rfl⟩
    | zero s => rw [hu] at hlarge; exact hlarge.elim
    | _ => rw [hu] at hbelow; exact hbelow.elim
  rw [hu] at hlarge
  obtain ⟨-, hlow, -, he⟩ := hlarge
  obtain ⟨ds, lead, z, hds, htext, hz, hlarge⟩ := Decimal.magnitude_large hlow (show 11 ≤ e by omega)
  have hwrite : Json.numberStyle.write (signed negative y) =
      (if negative then ['-'] else []) ++ Decimal.scientificText true ds lead := by
    cases negative with
    | false =>
      change Json.numberStyle.write y = _
      rw [Decimal.Style.write, hu, ← htext]
      rfl
    | true =>
      change Json.numberStyle.write (-y) = _
      rw [Decimal.Style.write, Number.unpack_neg hu hlow (by omega), ← htext]
      rfl
  -- the text begins with a digit and has the letter of the exponent
  obtain ⟨c, tail, rfl⟩ := List.exists_cons_of_ne_nil hds.1
  have hc : c.isDigit := hds.2 c List.mem_cons_self
  obtain ⟨rest, hcons, hletter⟩ : ∃ rest,
      Decimal.scientificText true (c :: tail) lead = c :: rest ∧ 'e' ∈ rest := by
    refine ⟨_, rfl, ?_⟩
    simp
  have hsolid := solid_scientificText hds.2 lead
  rw [hcons] at hwrite hsolid hz
  rw [hwrite]
  have hplus : c ≠ '+' := by
    rintro rfl
    cases hc
  refine not_denotes negative hc hsolid hz
    (fun _ => natural?_eq_none hplus (List.mem_cons_of_mem _ hletter) rfl) (hlarge.mono ?_) id
  split <;> decide

/-! ### Integers of a document -/

/-- The text of the value of an integer means the printer with that number. -/
theorem denotes_print {k : Int} {n : Number} (h : (Numeral.ofInt k).value = .ok n) (id : UInt32) :
    denotes ⟨String.ofList n.print⟩ id ↔ k = id.toNat := by
  by_cases hk : (Number.int k).InRange
  · rw [Json.ofInt_value hk] at h
    cases h
    exact denotes_printInt k id
  · obtain ⟨y, rfl, hy, hlarge⟩ := Json.real_of_not_inRange hk h
    refine iff_of_false (not_denotes_write hy hlarge _ id) ?_
    rintro rfl
    have hid := id.toNat_lt
    refine hk ⟨?_, ?_⟩ <;> simp only [Nat.pow_eq] <;> omega

/-- **An integer of a document means the printer with that number**, whatever its size. -/
theorem denotes_integer {k : Int} {v : Value} (h : Json.read Json.value (printInt k) = .ok v) :
    ∃ d, readDeviceId v = .ok d ∧ ∀ id, d.denotes id ↔ k = id.toNat := by
  rw [Json.read_printInt] at h
  obtain ⟨n, hn, rfl⟩ := Outcome.map_eq_ok_iff.mp h
  exact ⟨_, rfl, denotes_print hn⟩

end DeviceId

/-! ### Commands -/

namespace CommandRequest

/-- What names the printer in the data of a command: the value of the field, under either of its names,
or the first item of a list. -/
def named? : Value → Option Value
  | .object fields => (fields.find? fun p => isName p.1).map (·.2)
  | .list items => items.head?
  | _ => none

theorem instruction_ne_nil {e : Event} {r : CommandRequest} (h : ofEvent e = .ok r) :
    r.instruction.toList ≠ [] := by
  intro hnil
  obtain ⟨v, w, parts⟩ := (ofEvent_iff.mp h).parts
  have hblank := parts.instruction_not_blank
  rw [Text.isBlankText, hnil] at hblank
  cases hblank

/-- **A command names the printer as its data does.** -/
theorem named?_of_ofEvent {e : Event} {r : CommandRequest} (h : ofEvent e = .ok r) :
    ∃ v, named? e.data = some v ∧ readDeviceId v = .ok r.deviceId := by
  have hstates := ofEvent_iff.mp h
  simp only [readDeviceId_eq_ok]
  generalize e.data = data at hstates ⊢
  cases hstates with
  | @object fields v w _ name _ parts =>
    -- the first entry that names the printer is the only one
    refine ⟨v, ?_, parts.name⟩
    rw [named?, ← List.head?_filter, ← List.head?_map]
    exact congrArg List.head? name
  | list parts => exact ⟨_, rfl, parts.name⟩

end CommandRequest

end VirtualPrinter.Wire
