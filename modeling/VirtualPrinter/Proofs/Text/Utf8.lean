import Mathlib
import VirtualPrinter.Link.Messages
import VirtualPrinter.Proofs.Text.Ends

/-!
# Texts and their octets

A text is found again in its octets.  Octets that are not those of a text become one all the same, and
then the text may take more octets than it was made from: a replacement character takes three and may
stand for a single one.

## Main definitions

* `Text.Utf8.encode`: the octets of a text.
* `Text.Utf8.WellFormed`: octets are those of a text.

## Main results

* `decode_encode`: a text is found again in its octets.
* `mem_of_lineFeed_mem_decode`: a line feed is read from a line feed alone.
* `octetLength_decode_le`: a text takes at most three times the octets that it was read from.
-/

namespace VirtualPrinter.Text.Utf8

open Link (octetLength)

/-- The octets of a text. -/
def encode (text : List Char) : List Nat :=
  (text.flatMap String.utf8EncodeChar).map UInt8.toNat

/-- The octets are those of a text. -/
def WellFormed (octets : List Nat) : Prop := ∃ text, octets = encode text

@[simp] theorem encode_cons (c : Char) (text : List Char) :
    encode (c :: text) = (String.utf8EncodeChar c).map UInt8.toNat ++ encode text := by
  simp [encode]

/-! ### One octet at a time -/

theorem decodeFrom_cons (owed : Option Owed) (b : Nat) (rest : List Nat) :
    decodeFrom owed (b :: rest) = (step owed b).1 ++ decodeFrom (step owed b).2 rest := by
  cases owed <;> rfl

theorem decodeFrom_single {b : Nat} (hb : b < 0x80) (rest : List Nat) :
    decodeFrom none (b :: rest) = Char.ofNat b :: decodeFrom none rest := by
  simp [decodeFrom, step, begin, start, hb]

theorem decodeFrom_longer {b : Nat} {owed : Owed} (h : start b = .longer owed) (rest : List Nat) :
    decodeFrom none (b :: rest) = decodeFrom (some owed) rest := by
  simp [decodeFrom, step, begin, h]

theorem decodeFrom_more {k low high value b : Nat} (hlow : low ≤ b) (hhigh : b ≤ high)
    (rest : List Nat) :
    decodeFrom (some ⟨k + 2, low, high, value⟩) (b :: rest) =
      decodeFrom (some ⟨k + 1, 0x80, 0xBF, value * 64 + (b - 0x80)⟩) rest := by
  simp [decodeFrom, step, hlow, hhigh]

theorem decodeFrom_last {low high value b : Nat} (hlow : low ≤ b) (hhigh : b ≤ high)
    (rest : List Nat) :
    decodeFrom (some ⟨1, low, high, value⟩) (b :: rest) =
      Char.ofNat (value * 64 + (b - 0x80)) :: decodeFrom none rest := by
  simp [decodeFrom, step, hlow, hhigh]

theorem start_two {b : Nat} (hlow : 0xC2 ≤ b) (hhigh : b < 0xE0) :
    start b = .longer ⟨1, 0x80, 0xBF, b - 0xC0⟩ := by
  have h₁ : ¬b < 0x80 := by omega
  have h₂ : ¬b < 0xC2 := by omega
  simp only [start, h₁, h₂, hhigh, if_false, if_true]

theorem start_three {b : Nat} (hlow : 0xE0 ≤ b) (hhigh : b < 0xF0) :
    start b = .longer ⟨2, if b = 0xE0 then 0xA0 else 0x80, if b = 0xED then 0x9F else 0xBF,
      b - 0xE0⟩ := by
  have h₁ : ¬b < 0x80 := by omega
  have h₂ : ¬b < 0xC2 := by omega
  have h₃ : ¬b < 0xE0 := by omega
  simp only [start, h₁, h₂, h₃, hhigh, if_false, if_true, beq_iff_eq]
  split
  · next h => simp [h]
  · split
    · next h => simp [h]
    · rfl

theorem start_four {b : Nat} (hlow : 0xF0 ≤ b) (hhigh : b ≤ 0xF4) :
    start b = .longer ⟨3, if b = 0xF0 then 0x90 else 0x80, if b = 0xF4 then 0x8F else 0xBF,
      b - 0xF0⟩ := by
  have h₁ : ¬b < 0x80 := by omega
  have h₂ : ¬b < 0xC2 := by omega
  have h₃ : ¬b < 0xE0 := by omega
  have h₄ : ¬b = 0xE0 := by omega
  have h₅ : ¬b = 0xED := by omega
  have h₆ : ¬b < 0xF0 := by omega
  simp only [start, h₁, h₂, h₃, h₄, h₅, h₆, if_false, beq_iff_eq]
  split
  · next h => simp [h]
  · split
    · next h =>
      have : ¬b = 0xF4 := by omega
      simp [this]
    · next h =>
      obtain rfl : b = 0xF4 := by omega
      rfl

/-! ### Texts found again -/

theorem toNat_octet {n : Nat} (h : n < 256) : (UInt8.ofNat n).toNat = n :=
  UInt8.toNat_ofNat_of_lt' h

/-- A character is found again in its octets. -/
theorem decodeFrom_utf8EncodeChar (c : Char) (rest : List Nat) :
    decodeFrom none ((String.utf8EncodeChar c).map UInt8.toNat ++ rest) = c :: decodeFrom none rest := by
  obtain ⟨v, hv⟩ : ∃ v, c.val.toNat = v := ⟨_, rfl⟩
  have hc : Char.ofNat v = c := hv ▸ Char.ofNat_toNat c
  -- neither a surrogate nor beyond the last code point
  have hvalid : v < 0xD800 ∨ 0xDFFF < v ∧ v < 0x110000 := hv ▸ c.valid
  unfold String.utf8EncodeChar
  simp only [hv]
  split
  · simp (disch := omega) only [List.map_cons, List.map_nil, List.cons_append, List.nil_append,
      toNat_octet]
    rw [decodeFrom_single (by omega), hc]
  · split
    · simp (disch := omega) only [List.map_cons, List.map_nil, List.cons_append, List.nil_append,
        toNat_octet]
      rw [decodeFrom_longer (start_two (by omega) (by omega)),
        decodeFrom_last (by omega) (by omega)]
      have hvalue : (v / 64 % 32 + 192 - 192) * 64 + (v % 64 + 128 - 128) = v := by omega
      rw [hvalue, hc]
    · split
      · simp (disch := omega) only [List.map_cons, List.map_nil, List.cons_append, List.nil_append,
          toNat_octet]
        rw [decodeFrom_longer (start_three (by omega) (by omega)),
          decodeFrom_more (by split <;> omega) (by split <;> omega),
          decodeFrom_last (by omega) (by omega)]
        have hvalue : ((v / 4096 % 16 + 224 - 224) * 64 + (v / 64 % 64 + 128 - 128)) * 64 +
            (v % 64 + 128 - 128) = v := by omega
        rw [hvalue, hc]
      · simp (disch := omega) only [List.map_cons, List.map_nil, List.cons_append, List.nil_append,
          toNat_octet]
        rw [decodeFrom_longer (start_four (by omega) (by omega)),
          decodeFrom_more (by split <;> omega) (by split <;> omega),
          decodeFrom_more (by omega) (by omega), decodeFrom_last (by omega) (by omega)]
        have hvalue : (((v / 262144 % 8 + 240 - 240) * 64 + (v / 4096 % 64 + 128 - 128)) * 64 +
            (v / 64 % 64 + 128 - 128)) * 64 + (v % 64 + 128 - 128) = v := by omega
        rw [hvalue, hc]

/-- **A text is found again in its octets.** -/
theorem decode_encode (text : List Char) : decode (encode text) = text := by
  unfold decode
  induction text with
  | nil => rfl
  | cons c text ih => rw [encode_cons, decodeFrom_utf8EncodeChar, ih]

/-! ### Characters of one octet -/

/-- The least value that a started character may come to. -/
def Owed.least (o : Owed) : Nat := (o.value * 64 + (o.low - 0x80)) * 64 ^ (o.count - 1)

/-- What an octet between characters is.  A character of several octets does not come to a value that
one octet has. -/
theorem begin_cases (b : Nat) :
    (b < 0x80 ∧ begin b = ([Char.ofNat b], none)) ∨
    (∃ o : Owed, 0x80 ≤ o.least ∧ begin b = ([], some o)) ∨ begin b = ([replacement], none) := by
  unfold begin
  by_cases h₁ : b < 0x80
  · exact .inl ⟨h₁, by simp [start, h₁]⟩
  by_cases h₂ : b < 0xC2
  · exact .inr (.inr (by simp [start, h₁, h₂]))
  by_cases h₃ : b < 0xE0
  · rw [start_two (by omega) h₃]
    exact .inr (.inl ⟨_, by simp only [Owed.least]; omega, rfl⟩)
  by_cases h₄ : b < 0xF0
  · rw [start_three (by omega) h₄]
    exact .inr (.inl ⟨_, by simp only [Owed.least]; split <;> omega, rfl⟩)
  by_cases h₅ : b ≤ 0xF4
  · rw [start_four (by omega) h₅]
    exact .inr (.inl ⟨_, by simp only [Owed.least]; split <;> omega, rfl⟩)
  · have hinvalid : start b = .invalid := by
      have hE0 : b ≠ 0xE0 := by omega
      have hED : b ≠ 0xED := by omega
      have hF0 : b ≠ 0xF0 := by omega
      have hF4 : b ≠ 0xF4 := by omega
      have hlt : ¬b < 0xF4 := by omega
      simp [start, h₁, h₂, h₃, h₄, hE0, hED, hF0, hF4, hlt]
    rw [hinvalid]
    exact .inr (.inr rfl)

/-- What an octet is to a started character: its end, a part of it, or the start of something else. -/
theorem step_cases (o : Owed) (b : Nat) :
    (∃ v, o.least ≤ v ∧ step (some o) b = ([Char.ofNat v], none)) ∨
    (∃ o' : Owed, o.least ≤ o'.least ∧ step (some o) b = ([], some o')) ∨
    step (some o) b = (replacement :: (begin b).1, (begin b).2) := by
  obtain ⟨count, low, high, value⟩ := o
  by_cases hb : low ≤ b ∧ b ≤ high
  · by_cases hc : count ≤ 1
    · refine .inl ⟨value * 64 + (b - 0x80), ?_, by simp [step, hb, hc]⟩
      have hcount : count - 1 = 0 := by omega
      simp only [Owed.least, hcount, Nat.pow_zero, Nat.mul_one]
      omega
    · refine .inr (.inl ⟨⟨count - 1, 0x80, 0xBF, value * 64 + (b - 0x80)⟩, ?_, by simp [step, hb, hc]⟩)
      -- the octet is at least the lowest that may come
      obtain ⟨k, rfl⟩ : ∃ k, count = k + 2 := ⟨count - 2, by omega⟩
      simp only [Owed.least, Nat.sub_self, Nat.add_zero]
      calc (value * 64 + (low - 0x80)) * 64 ^ (k + 2 - 1)
        _ ≤ (value * 64 + (b - 0x80)) * 64 ^ (k + 1) := Nat.mul_le_mul_right _ (by omega)
        _ = (value * 64 + (b - 0x80)) * 64 * 64 ^ (k + 2 - 1 - 1) := by
            rw [Nat.mul_assoc, Nat.pow_succ, Nat.mul_comm 64]
            rfl
  · exact .inr (.inr (by simp [step, hb]))

theorem ofNat_ne_lineFeed {v : Nat} (h : 0x80 ≤ v) : Char.ofNat v ≠ '\n' := by
  intro he
  unfold Char.ofNat at he
  split at he
  · have hv : (Char.ofNatAux v ‹_›).toNat = v := rfl
    rw [he] at hv
    exact absurd h (by rw [← hv]; decide)
  · exact absurd he (by decide)

/-- A started character that does not come to a value that one octet has, if there is one. -/
def Pending (owed : Option Owed) : Prop := ∀ o ∈ owed, 0x80 ≤ o.least

theorem lineFeed_not_replaced : '\n' ∉ [replacement] := by decide

/-- An octet between characters writes a line feed only if it is one. -/
theorem begin_lineFeed (b : Nat) :
    Pending (begin b).2 ∧ ('\n' ∈ (begin b).1 → b = 10) := by
  rcases begin_cases b with ⟨hb, h⟩ | ⟨o, ho, h⟩ | h <;> rw [h]
  · have hinj : ∀ b < 0x80, '\n' ∈ [Char.ofNat b] → b = 10 := by decide
    exact ⟨nofun, hinj b hb⟩
  · exact ⟨fun _ he => Option.some.inj he ▸ ho, nofun⟩
  · exact ⟨nofun, fun hm => absurd hm lineFeed_not_replaced⟩

/-- An octet writes a line feed only if it is one. -/
theorem step_lineFeed {owed : Option Owed} (h : Pending owed) (b : Nat) :
    Pending (step owed b).2 ∧ ('\n' ∈ (step owed b).1 → b = 10) := by
  cases owed with
  | none => exact begin_lineFeed b
  | some o =>
    have hl := h o rfl
    rcases step_cases o b with ⟨v, hv, hs⟩ | ⟨o', ho', hs⟩ | hs <;> rw [hs]
    · exact ⟨nofun, fun hm => absurd (List.mem_singleton.mp hm).symm
        (ofNat_ne_lineFeed (Nat.le_trans hl hv))⟩
    · exact ⟨fun _ he => Option.some.inj he ▸ Nat.le_trans hl ho', nofun⟩
    · refine ⟨(begin_lineFeed b).1, fun hm => (begin_lineFeed b).2 ?_⟩
      exact (List.mem_cons.mp hm).resolve_left (by decide)

theorem mem_of_lineFeed_mem_decodeFrom {octets : List Nat} {owed : Option Owed} (ho : Pending owed)
    (h : '\n' ∈ decodeFrom owed octets) : 10 ∈ octets := by
  induction octets generalizing owed with
  | nil =>
    cases owed with
    | none => cases h
    | some o => exact absurd h lineFeed_not_replaced
  | cons b rest ih =>
    obtain ⟨hnext, hwritten⟩ := step_lineFeed ho b
    rw [decodeFrom_cons] at h
    rcases List.mem_append.mp h with hw | hr
    · exact List.mem_cons.mpr (.inl (hwritten hw).symm)
    · exact List.mem_cons_of_mem _ (ih hnext hr)

/-- **A line feed is read from a line feed alone.** -/
theorem mem_of_lineFeed_mem_decode {octets : List Nat} (h : '\n' ∈ decode octets) : 10 ∈ octets :=
  mem_of_lineFeed_mem_decodeFrom (fun _ he => by cases he) h

/-- A line feed is written for a line feed alone. -/
theorem mem_of_lineFeed_mem_encode {text : List Char} (h : 10 ∈ encode text) : '\n' ∈ text := by
  obtain ⟨octet, hmem, hoctet⟩ := List.mem_map.mp h
  obtain ⟨c, hc, hmem⟩ := List.mem_flatMap.mp hmem
  suffices hv : c.val.toNat = 10 by
    have : c = '\n' := (Char.ofNat_toNat c).symm.trans (congrArg Char.ofNat hv)
    exact this ▸ hc
  unfold String.utf8EncodeChar at hmem
  dsimp only at hmem
  split at hmem
  · rw [List.mem_singleton.mp hmem, toNat_octet (by omega)] at hoctet
    exact hoctet
  -- every octet of a longer character is beyond the single ones
  · split at hmem
    · simp only [List.mem_cons, List.not_mem_nil, or_false] at hmem
      rcases hmem with rfl | rfl <;> rw [toNat_octet (by omega)] at hoctet <;> omega
    · split at hmem
      · simp only [List.mem_cons, List.not_mem_nil, or_false] at hmem
        rcases hmem with rfl | rfl | rfl <;> rw [toNat_octet (by omega)] at hoctet <;> omega
      · simp only [List.mem_cons, List.not_mem_nil, or_false] at hmem
        rcases hmem with rfl | rfl | rfl | rfl <;> rw [toNat_octet (by omega)] at hoctet <;> omega

/-! ### Sizes -/

theorem octetLength_eq_sum (text : List Char) : octetLength text = (text.map Char.utf8Size).sum :=
  List.sum_eq_foldl_nat.symm

@[simp] theorem octetLength_nil : octetLength [] = 0 := rfl

@[simp] theorem octetLength_cons (c : Char) (text : List Char) :
    octetLength (c :: text) = c.utf8Size + octetLength text := by
  simp [octetLength_eq_sum]

@[simp] theorem octetLength_append (s t : List Char) :
    octetLength (s ++ t) = octetLength s + octetLength t := by
  simp [octetLength_eq_sum]

theorem octetLength_eq_length (text : List Char) : octetLength text = (encode text).length := by
  induction text with
  | nil => rfl
  | cons c text ih => simp [ih]

theorem octetLength_dropEndWhile_le (p : Char → Bool) (text : List Char) :
    octetLength (dropEndWhile p text) ≤ octetLength text := by
  obtain ⟨dropped, hsplit, -⟩ := exists_dropEndWhile_append p text
  calc octetLength (dropEndWhile p text)
    _ ≤ octetLength (dropEndWhile p text ++ dropped) := by
        rw [octetLength_append]
        exact Nat.le_add_right _ _
    _ = octetLength text := by rw [← hsplit]

/-- The octets that a started character may yet take. -/
def credit : Option Owed → Nat
  | none => 0
  | some _ => 3

theorem begin_credit (b : Nat) : octetLength (begin b).1 + credit (begin b).2 ≤ 3 := by
  rcases begin_cases b with ⟨hb, h⟩ | ⟨o, -, h⟩ | h <;> rw [h]
  · have hsize : ∀ b < 0x80, octetLength [Char.ofNat b] ≤ 3 := by decide
    exact hsize b hb
  · exact Nat.le_refl 3
  · exact Nat.le_refl 3

/-- Each octet pays for three. -/
theorem step_credit (owed : Option Owed) (b : Nat) :
    octetLength (step owed b).1 + credit (step owed b).2 ≤ 3 + credit owed := by
  cases owed with
  | none => exact begin_credit b
  | some o =>
    rcases step_cases o b with ⟨v, -, h⟩ | ⟨o', -, h⟩ | h <;> rw [h]
    · have : (Char.ofNat v).utf8Size ≤ 4 := Char.utf8Size_le_four _
      simp only [octetLength_cons, octetLength_nil, credit]
      omega
    · exact Nat.le_add_left 3 3
    · have hreplacement : replacement.utf8Size = 3 := rfl
      have := begin_credit b
      simp only [octetLength_cons, hreplacement, credit] at *
      omega

theorem octetLength_decodeFrom_le (owed : Option Owed) (octets : List Nat) :
    octetLength (decodeFrom owed octets) ≤ 3 * octets.length + credit owed := by
  induction octets generalizing owed with
  | nil =>
    cases owed with
    | none => exact Nat.le_refl 0
    | some o => exact Nat.le_refl 3
  | cons b rest ih =>
    have := ih (step owed b).2
    have := step_credit owed b
    rw [decodeFrom_cons, octetLength_append, List.length_cons]
    omega

/-- **A text takes at most three times the octets that it was read from.** -/
theorem octetLength_decode_le (octets : List Nat) : octetLength (decode octets) ≤ 3 * octets.length :=
  octetLength_decodeFrom_le none octets

/-- A text takes the octets that it was read from, if those are the octets of a text. -/
theorem octetLength_decode_of_wellFormed {octets : List Nat} (h : WellFormed octets) :
    octetLength (decode octets) = octets.length := by
  obtain ⟨text, rfl⟩ := h
  rw [decode_encode, octetLength_eq_length]

theorem octetLength_replicate (n : Nat) (c : Char) :
    octetLength (List.replicate n c) = n * c.utf8Size := by
  simp [octetLength_eq_sum]

/-- Octets that are each a character of their own, or each none: three for one is reached. -/
theorem decode_replicate {b : Nat} {c : Char} (h : begin b = ([c], none)) (n : Nat) :
    decode (List.replicate n b) = List.replicate n c := by
  unfold decode
  induction n with
  | zero => rfl
  | succ n ih => rw [List.replicate_succ, decodeFrom_cons, step, h, ih, List.replicate_succ]; rfl

end VirtualPrinter.Text.Utf8
