import VirtualPrinter.Gcode.Words
import VirtualPrinter.Proofs.Decimal.Plain
import VirtualPrinter.Proofs.Text.Case

/-!
# The grammar of words

Words may be looked at by their positions, one word after the other, or as a table that one pass over
the text fills; the first value of a letter counts, and nothing of other letters.

## Main definitions

* `Gcode.HoldsAt`: a position of a text holds a value for a letter.
* `Gcode.Table`: a place for each letter, with `Table.scan`: one pass over a text.
* `Gcode.Sentence`: a text as its words, with what stands between them.

## Main results

* `wordValue_eq_some_iff`: which runs hold a value.
* `words_of_sameLetters`: words do not depend on the case of letters.
* `get?_words_eq_some_iff`: the value of a letter is the one that stands first.
* `Table.get?_scan`, `Table.has_scan`: one pass is enough.
* `words_grammar`: all of this, and what words of other letters do.
-/

namespace VirtualPrinter.Gcode

open Decimal (PlainNumeral)
open Text (SameLetters)

/-! ### Characters of numbers -/

theorem isNumberChar_of_isAlpha {c : Char} (h : c.isAlpha) : isNumberChar c = false := by
  have hletter := (Text.isAlpha_iff c).mp h
  have hdigit : c.isDigit = false := by
    rw [Bool.eq_false_iff, ne_eq, Char.isDigit_iff_toNat]
    have h9 : '9'.toNat = 57 := rfl
    omega
  have hother {d : Char} (hd : d.isAlpha = false) : (c == d) = false := by
    rw [beq_eq_false_iff_ne]
    rintro rfl
    rw [h] at hd
    cases hd
  simp [isNumberChar, hdigit, hother (d := '.') rfl, hother (d := '-') rfl, hother (d := '+') rfl]

theorem isAlpha_of_isNumberChar {c : Char} (h : isNumberChar c) : c.isAlpha = false := by
  by_contra hc
  rw [isNumberChar_of_isAlpha (by simpa using hc)] at h
  cases h

/-- Runs of number characters are written in one way. -/
theorem numberRun_of_sameLetters {s t : List Char} (h : SameLetters s t) :
    s.takeWhile isNumberChar = t.takeWhile isNumberChar := by
  have hrun : SameLetters (s.takeWhile isNumberChar) (t.takeWhile isNumberChar) :=
    h.takeWhile (Text.caseBlind_of_not_isAlpha fun _ => isNumberChar_of_isAlpha)
  have hplain (r : List Char) : ∀ c ∈ r.takeWhile isNumberChar, c.isAlpha = false := fun c hc =>
    isAlpha_of_isNumberChar (List.mem_takeWhile_imp hc)
  exact hrun.eq_of_not_isAlpha (hplain s) (hplain t)

/-- **A run holds a value if it is a numeral without an exponent, and of a finite number.** -/
theorem wordValue_eq_some_iff {run : List Char} (h : ∀ c ∈ run, isNumberChar c) {x : Float} :
    wordValue run = some x ↔ (∃ n : PlainNumeral, n.text = run ∧ n.value = x) ∧ x.isFinite := by
  rw [wordValue, Option.filter_eq_some_iff,
    Decimal.read?_eq_some_iff fun c hc => isAlpha_of_isNumberChar (h c hc)]

/-! ### Words of a text -/

/-- **Words do not depend on the case of letters.** -/
theorem words_of_sameLetters {s t : List Char} (h : SameLetters s t) : words s = words t := by
  induction s generalizing t with
  | nil =>
    cases t with
    | nil => rfl
    | cons d t => cases h
  | cons c s ih =>
    cases t with
    | nil => cases h
    | cons d t =>
      obtain ⟨hcd, hst⟩ := SameLetters.cons_iff.mp h
      have halpha : c.isAlpha = d.isAlpha := by
        rw [← Char.isAlpha_toLower_eq_isAlpha, hcd, Char.isAlpha_toLower_eq_isAlpha]
      have hupper : c.toUpper = d.toUpper := (Text.toLower_eq_iff_toUpper_eq c d).mp hcd
      rw [words, words, halpha, hupper, numberRun_of_sameLetters hst, ih hst]

/-- What is no letter belongs to no word. -/
theorem words_append_of_not_isAlpha {s : List Char} (h : ∀ c ∈ s, c.isAlpha = false)
    (t : List Char) : words (s ++ t) = words t := by
  induction s with
  | nil => rfl
  | cons c s ih =>
    obtain ⟨hc, hs⟩ := List.forall_mem_cons.mp h
    rw [List.cons_append, words, if_neg (by simp [hc]), ih hs]

theorem words_dropWhile_isNumberChar (text : List Char) :
    words (text.dropWhile isNumberChar) = words text := by
  have hrun : ∀ c ∈ text.takeWhile isNumberChar, c.isAlpha = false := fun c hc =>
    isAlpha_of_isNumberChar (List.mem_takeWhile_imp hc)
  conv_rhs => rw [← List.takeWhile_append_dropWhile (p := isNumberChar) (l := text),
    words_append_of_not_isAlpha hrun]

/-- **Every letter starts a word of its own.** -/
theorem letters_words (text : List Char) :
    (words text).map Word.letter = (text.filter Char.isAlpha).map Char.toUpper := by
  induction text with
  | nil => rfl
  | cons c text ih =>
    rw [words, List.filter_cons]
    split
    · rw [List.map_cons, List.map_cons, ih]
    · exact ih

theorem get?_cons (w : Word) (ws : Words) (letter : Char) :
    Words.get? (w :: ws) letter =
      (if w.letter = letter.toUpper then w.value else none).or (ws.get? letter) := by
  unfold Words.get?
  rw [List.findSome?_cons]
  simp only [beq_iff_eq]
  cases (if w.letter = letter.toUpper then w.value else none) <;> rfl

theorem has_cons (w : Word) (ws : Words) (letter : Char) :
    Words.has (w :: ws) letter = (w.letter == letter.toUpper || ws.has letter) := rfl

/-! ### Positions -/

/-- A position of a text holds a value for a letter: the letter stands there, in either case, and the
longest run of number characters behind it is a numeral of the value, which is finite. -/
def HoldsAt (text : List Char) (letter : Char) (i : Nat) (x : Float) : Prop :=
  (∃ c ∈ text[i]?, c = letter.toUpper ∨ c = letter.toLower) ∧
    (∃ n : PlainNumeral, n.text = (text.drop (i + 1)).takeWhile isNumberChar ∧ n.value = x) ∧
      x.isFinite

section

variable {text rest : List Char} {letter c : Char} {x : Float}

/-- What the first character of a text gives for a letter. -/
theorem holdsAt_zero_iff : HoldsAt (c :: rest) letter 0 x ↔
    (if c.toUpper = letter.toUpper then wordValue (rest.takeWhile isNumberChar) else none) =
      some x := by
  have hrun : ∀ c ∈ rest.takeWhile isNumberChar, isNumberChar c := fun c hc =>
    List.mem_takeWhile_imp hc
  rw [Option.ite_none_right_eq_some, wordValue_eq_some_iff hrun, Text.toUpper_eq_toUpper_iff]
  simp [HoldsAt]

theorem holdsAt_succ_iff {i : Nat} :
    HoldsAt (c :: rest) letter (i + 1) x ↔ HoldsAt rest letter i x := by
  simp [HoldsAt]

/-- What a text gives for a letter: what its first character gives, or else its rest. -/
theorem get?_words_cons (hletter : letter.isAlpha) (c : Char) (rest : List Char) :
    (words (c :: rest)).get? letter =
      (if c.toUpper = letter.toUpper then wordValue (rest.takeWhile isNumberChar) else none).or
        ((words rest).get? letter) := by
  rw [words]
  split
  · exact get?_cons _ _ _
  · next hc =>
    have hne : c.toUpper ≠ letter.toUpper := by
      intro heq
      rw [← Char.isAlpha_toUpper_eq_isAlpha, heq, Char.isAlpha_toUpper_eq_isAlpha] at hc
      exact hc hletter
    rw [if_neg hne, Option.none_or]

/-- **The value of a letter is the one that stands first.** -/
theorem get?_words_eq_some_iff (hletter : letter.isAlpha) :
    (words text).get? letter = some x ↔
      ∃ i, HoldsAt text letter i x ∧ ∀ j < i, ∀ y, ¬HoldsAt text letter j y := by
  induction text with
  | nil => exact iff_of_false nofun (by simp [HoldsAt])
  | cons c rest ih =>
    rw [get?_words_cons hletter]
    -- the first character holds the value, or every position counts from the rest
    cases hfirst : (if c.toUpper = letter.toUpper then wordValue (rest.takeWhile isNumberChar)
      else none) with
    | some v =>
      rw [Option.some_or, Option.some.injEq]
      constructor
      · rintro rfl
        exact ⟨0, holdsAt_zero_iff.mpr hfirst, nofun⟩
      · rintro ⟨i, hi, hbefore⟩
        cases i with
        | zero => exact Option.some.inj (hfirst.symm.trans (holdsAt_zero_iff.mp hi))
        | succ i => exact absurd (holdsAt_zero_iff.mpr hfirst) (hbefore 0 i.succ_pos v)
    | none =>
      have hzero (y : Float) : ¬HoldsAt (c :: rest) letter 0 y := by
        rw [holdsAt_zero_iff, hfirst]
        nofun
      rw [Option.none_or, ih]
      constructor
      · rintro ⟨i, hi, hbefore⟩
        refine ⟨i + 1, holdsAt_succ_iff.mpr hi, fun j hj y => ?_⟩
        cases j with
        | zero => exact hzero y
        | succ j => exact holdsAt_succ_iff.not.mpr (hbefore j (by omega) y)
      · rintro ⟨i, hi, hbefore⟩
        cases i with
        | zero => exact absurd hi (hzero x)
        | succ i =>
          refine ⟨i, holdsAt_succ_iff.mp hi, fun j hj y => ?_⟩
          exact holdsAt_succ_iff.not.mp (hbefore (j + 1) (by omega) y)

/-- A letter has no value if none stands anywhere. -/
theorem get?_words_eq_none_iff (hletter : letter.isAlpha) :
    (words text).get? letter = none ↔ ∀ i y, ¬HoldsAt text letter i y := by
  classical
  constructor
  · intro hnone i y hi
    -- of all positions that hold a value one comes first
    have hsome : ∃ i y, HoldsAt text letter i y := ⟨i, y, hi⟩
    obtain ⟨y, hy⟩ := Nat.find_spec hsome
    have hget : (words text).get? letter = some y :=
      (get?_words_eq_some_iff hletter).mpr
        ⟨_, hy, fun j hj z hz => Nat.find_min hsome hj ⟨z, hz⟩⟩
    rw [hnone] at hget
    cases hget
  · intro hno
    rw [Option.eq_none_iff_forall_ne_some]
    intro y hy
    obtain ⟨i, hi, -⟩ := (get?_words_eq_some_iff hletter).mp hy
    exact hno i y hi

/-- A letter occurs if it does in either case. -/
theorem has_words_iff (hletter : letter.isAlpha) :
    (words text).has letter ↔ ∃ c ∈ text, c = letter.toUpper ∨ c = letter.toLower := by
  have hhas (ws : Words) : ws.has letter ↔ letter.toUpper ∈ ws.map Word.letter := by
    simp [Words.has]
  rw [hhas, letters_words, List.mem_map]
  simp only [List.mem_filter, ← Text.toUpper_eq_toUpper_iff]
  constructor
  · rintro ⟨c, ⟨hc, -⟩, heq⟩
    exact ⟨c, hc, heq⟩
  · rintro ⟨c, hc, heq⟩
    refine ⟨c, ⟨hc, ?_⟩, heq⟩
    rw [← Char.isAlpha_toUpper_eq_isAlpha, heq, Char.isAlpha_toUpper_eq_isAlpha, hletter]

end

/-! ### One pass -/

theorem toNat_toUpper_of_isAlpha {c : Char} (h : c.isAlpha) :
    65 ≤ c.toUpper.toNat ∧ c.toUpper.toNat ≤ 90 := by
  have hupper : c.toUpper.isUpper := by rw [Char.isUpper_toUpper_eq_isAlpha, h]
  simp only [Char.isUpper, decide_eq_true_eq, ge_iff_le, UInt32.le_iff_toNat_le] at hupper
  exact hupper

/-- The place of a letter in the alphabet. -/
def slot? (c : Char) : Option (Fin 26) :=
  if h : c.isAlpha then
    some ⟨c.toUpper.toNat - 65, by have := toNat_toUpper_of_isAlpha h; omega⟩
  else none

/-- A place for the value of each letter, and a bit for each letter that occurs. -/
structure Table where
  values : Vector (Option Float) 26
  seen : BitVec 32

namespace Table

/-- A table without letters. -/
def empty : Table := ⟨Vector.replicate 26 none, 0⟩

/-- Notes a letter with the run behind it; a value that is there already stays. -/
def note (t : Table) (i : Fin 26) (run : List Char) : Table where
  values := if t.values[i].isNone then t.values.set i (wordValue run) else t.values
  seen := t.seen ||| 1 <<< i.val

/-- Notes the letters of a text in one pass, which goes on behind the run of each letter. -/
def scan (t : Table) : List Char → Table
  | [] => t
  | c :: rest =>
    match slot? c with
    | none => t.scan rest
    | some i => (t.note i (rest.takeWhile isNumberChar)).scan (rest.dropWhile isNumberChar)
termination_by text => text.length
decreasing_by
  · simp
  · have := List.length_dropWhile_le isNumberChar rest
    simp only [List.length_cons]
    omega

/-- The value of a letter. -/
def get? (t : Table) (letter : Char) : Option Float := (slot? letter).bind fun i => t.values[i]

/-- The letter occurs. -/
def has (t : Table) (letter : Char) : Bool := (slot? letter).any fun i => t.seen &&& 1 <<< i.val ≠ 0

end Table

theorem slot?_isSome (c : Char) : (slot? c).isSome = c.isAlpha := by
  unfold slot?
  split <;> simp [*]

/-- Letters have the same place if they are the same in capitals. -/
theorem slot?_eq_iff {c d : Char} (hc : c.isAlpha) : slot? d = slot? c ↔ c.toUpper = d.toUpper := by
  by_cases hd : d.isAlpha
  · have hcapital := toNat_toUpper_of_isAlpha hc
    have hcapital' := toNat_toUpper_of_isAlpha hd
    simp only [slot?, hc, hd, dif_pos, Option.some.injEq, Fin.mk.injEq, ← Char.toNat_inj]
    omega
  · refine iff_of_false (fun heq => hd ?_) fun heq => hd ?_
    · rw [← slot?_isSome, heq, slot?_isSome, hc]
    · rw [← Char.isAlpha_toUpper_eq_isAlpha, ← heq, Char.isAlpha_toUpper_eq_isAlpha, hc]

/-- A bit is looked up by a mask. -/
theorem and_mask_ne_zero_iff (s : BitVec 32) (i : Fin 26) :
    s &&& 1 <<< i.val ≠ 0 ↔ s.getLsbD i := by
  have hmask : (1 <<< i.val : BitVec 32) = BitVec.twoPow 32 i := rfl
  have hi := i.isLt
  rw [hmask, BitVec.and_twoPow]
  cases s.getLsbD i with
  | false => simp
  | true =>
    refine iff_of_true (fun h => ?_) rfl
    have hbit := congrArg (fun b : BitVec 32 => b.getLsbD i) h
    simp at hbit
    omega

namespace Table

@[simp] theorem get?_empty (letter : Char) : empty.get? letter = none := by
  unfold get? empty
  cases slot? letter <;> simp

@[simp] theorem has_empty (letter : Char) : empty.has letter = false := by
  unfold has empty
  cases slot? letter <;> simp

variable (t : Table) {i : Fin 26} {run : List Char}

theorem get?_note (letter : Char) : (t.note i run).get? letter =
    (t.get? letter).or (if slot? letter = some i then wordValue run else none) := by
  unfold get? note
  cases slot? letter with
  | none => rfl
  | some j =>
    simp only [Option.bind_some, Option.some.injEq]
    by_cases hji : j = i
    · -- the place is written if nothing is in it
      subst hji
      cases hv : t.values[j] <;> simp [hv]
    · have hne : i.val ≠ j.val := fun h => hji (Fin.ext h.symm)
      rw [if_neg hji, Option.or_none]
      split <;> simp [hne]

theorem has_note (letter : Char) :
    (t.note i run).has letter = (t.has letter || slot? letter == some i) := by
  unfold has note
  cases slot? letter with
  | none => rfl
  | some j =>
    have hmask : (1 <<< i.val : BitVec 32) = BitVec.twoPow 32 i := rfl
    have hi : i.val < 32 := by omega
    rw [Bool.eq_iff_iff]
    simp only [Option.any_some, and_mask_ne_zero_iff, hmask, BitVec.getLsbD_or,
      BitVec.getLsbD_twoPow, hi, Bool.or_eq_true, Bool.and_eq_true, decide_eq_true_eq, true_and,
      beq_iff_eq, Option.some.injEq, Fin.ext_iff]
    exact or_congr_right eq_comm

/-- **One pass finds the values of all letters.** -/
theorem get?_scan (text : List Char) (letter : Char) :
    (t.scan text).get? letter = (t.get? letter).or ((words text).get? letter) := by
  fun_induction t.scan text with
  | case1 t => simp [words, Words.get?]
  | case2 t c rest hc ih =>
    have halpha : c.isAlpha = false := by rw [← slot?_isSome, hc]; rfl
    rw [ih, words, if_neg (by simp [halpha])]
  | case3 t c rest i hc ih =>
    have halpha : c.isAlpha := by rw [← slot?_isSome, hc]; rfl
    -- the run that is skipped has no letters, and a value that was noted before stays
    rw [ih, words_dropWhile_isNumberChar, get?_note, Option.or_assoc, words, if_pos halpha, get?_cons,
      ← hc]
    simp only [slot?_eq_iff halpha]

/-- **It finds all letters.** -/
theorem has_scan (text : List Char) (letter : Char) :
    (t.scan text).has letter = (t.has letter || (words text).has letter) := by
  fun_induction t.scan text with
  | case1 t => simp [words, Words.has]
  | case2 t c rest hc ih =>
    have halpha : c.isAlpha = false := by rw [← slot?_isSome, hc]; rfl
    rw [ih, words, if_neg (by simp [halpha])]
  | case3 t c rest i hc ih =>
    have halpha : c.isAlpha := by rw [← slot?_isSome, hc]; rfl
    have hplace : (slot? letter == some i) = (c.toUpper == letter.toUpper) := by
      rw [Bool.eq_iff_iff, beq_iff_eq, beq_iff_eq, ← hc, slot?_eq_iff halpha]
    rw [ih, words_dropWhile_isNumberChar, has_note, hplace, words, if_pos halpha, has_cons,
      Bool.or_assoc]

end Table

/-! ### Words of other letters -/

/-- A word as it is written: a letter, the run of number characters behind it, and what stands between
the run and the next word. -/
structure Phrase where
  letter : Char
  run : List Char
  gap : List Char
  letter_isAlpha : letter.isAlpha
  run_isNumberChar : ∀ c ∈ run, isNumberChar c
  gap_not_isAlpha : ∀ c ∈ gap, c.isAlpha = false
  gap_head : ∀ c ∈ gap.head?, isNumberChar c = false

/-- The text of a word and of what stands behind it. -/
def Phrase.text (p : Phrase) : List Char := p.letter :: (p.run ++ p.gap)

/-- The word. -/
def Phrase.word (p : Phrase) : Word := ⟨p.letter.toUpper, wordValue p.run⟩

/-- A text as its words, behind what stands in front of the first. -/
structure Sentence where
  lead : List Char
  phrases : List Phrase
  lead_not_isAlpha : ∀ c ∈ lead, c.isAlpha = false

namespace Sentence

/-- The text of words. -/
def text (s : Sentence) : List Char := s.lead ++ s.phrases.flatMap Phrase.text

/-- The runs behind a letter, in order. -/
def runs (s : Sentence) (letter : Char) : List (List Char) :=
  (s.phrases.filter fun p => p.letter.toUpper == letter.toUpper).map Phrase.run

end Sentence

/-- No run goes on in what follows it. -/
theorem takeWhile_gap (p : Phrase) (phrases : List Phrase) :
    (p.gap ++ phrases.flatMap Phrase.text).takeWhile isNumberChar = [] := by
  cases hgap : p.gap with
  | cons c gap => simp [p.gap_head c (by rw [hgap]; rfl)]
  | nil =>
    cases phrases with
    | nil => rfl
    | cons q phrases =>
      have hq := isNumberChar_of_isAlpha q.letter_isAlpha
      simp [Phrase.text, hq]

theorem words_flatMap_text (phrases : List Phrase) :
    words (phrases.flatMap Phrase.text) = phrases.map Phrase.word := by
  induction phrases with
  | nil => rfl
  | cons p phrases ih =>
    have hrun : ∀ c ∈ p.run, c.isAlpha = false := fun c hc =>
      isAlpha_of_isNumberChar (p.run_isNumberChar c hc)
    rw [List.flatMap_cons, Phrase.text, List.cons_append, List.append_assoc, words,
      if_pos p.letter_isAlpha, List.takeWhile_append_of_pos p.run_isNumberChar, takeWhile_gap,
      List.append_nil, words_append_of_not_isAlpha hrun,
      words_append_of_not_isAlpha p.gap_not_isAlpha, ih]
    rfl

theorem words_text (s : Sentence) : words s.text = s.phrases.map Phrase.word := by
  rw [Sentence.text, words_append_of_not_isAlpha s.lead_not_isAlpha, words_flatMap_text]

/-- Every text consists of words. -/
theorem exists_sentence (text : List Char) : ∃ s : Sentence, s.text = text := by
  induction text with
  | nil => exact ⟨⟨[], [], nofun⟩, rfl⟩
  | cons c rest ih =>
    obtain ⟨s, rfl⟩ := ih
    cases hc : c.isAlpha with
    | false =>
      exact ⟨⟨c :: s.lead, s.phrases, List.forall_mem_cons.mpr ⟨hc, s.lead_not_isAlpha⟩⟩, rfl⟩
    | true =>
      -- what stood in front becomes the run of the letter and the gap behind it
      let p : Phrase :=
        { letter := c
          run := s.lead.takeWhile isNumberChar
          gap := s.lead.dropWhile isNumberChar
          letter_isAlpha := hc
          run_isNumberChar := fun c hc => List.mem_takeWhile_imp hc
          gap_not_isAlpha := fun c hc => s.lead_not_isAlpha c ((List.dropWhile_suffix _).subset hc)
          gap_head := fun c hc => by
            have hhead := List.head?_dropWhile_not isNumberChar s.lead
            rwa [show (s.lead.dropWhile isNumberChar).head? = some c from hc] at hhead }
      refine ⟨⟨[], p :: s.phrases, nofun⟩, ?_⟩
      simp [Sentence.text, Phrase.text, p]

variable (s : Sentence)

theorem runs_cons (lead : List Char) (h : ∀ c ∈ lead, c.isAlpha = false) (p : Phrase)
    (phrases : List Phrase) (letter : Char) :
    Sentence.runs ⟨lead, p :: phrases, h⟩ letter =
      (if p.letter.toUpper = letter.toUpper then [p.run] else []) ++
        Sentence.runs ⟨lead, phrases, h⟩ letter := by
  simp only [Sentence.runs, List.filter_cons, beq_iff_eq]
  split <;> rfl

/-- **The value of a letter is the first that its own runs hold**, and it occurs if it has any. -/
theorem get?_words_text (letter : Char) :
    (words s.text).get? letter = (s.runs letter).findSome? wordValue ∧
      (words s.text).has letter = !(s.runs letter).isEmpty := by
  rw [words_text]
  obtain ⟨lead, phrases, h⟩ := s
  induction phrases with
  | nil => exact ⟨rfl, rfl⟩
  | cons p phrases ih =>
    obtain ⟨hget, hhas⟩ := ih
    rw [runs_cons]
    dsimp only at hget hhas ⊢
    rw [List.map_cons, get?_cons, has_cons, hget, hhas, Phrase.word]
    by_cases hp : p.letter.toUpper = letter.toUpper
    · simp only [hp, if_true, List.singleton_append, List.findSome?_cons, beq_self_eq_true,
        Bool.true_or, List.isEmpty_cons, Bool.not_false, and_true]
      cases wordValue p.run <;> rfl
    · simp [hp]

/-- Words of distinct letters may be written in any order. -/
theorem runs_of_perm {s s' : Sentence} (h : s'.phrases.Perm s.phrases)
    (hdistinct : (s.phrases.map fun p => p.letter.toUpper).Nodup) (letter : Char) :
    s'.runs letter = s.runs letter := by
  have hone : (s.runs letter).length ≤ 1 := by
    have hcount := List.nodup_iff_count_le_one.mp hdistinct letter.toUpper
    rw [List.count, List.countP_map, List.countP_eq_length_filter] at hcount
    rw [Sentence.runs, List.length_map]
    exact hcount
  have hperm : (s'.runs letter).Perm (s.runs letter) := (h.filter _).map _
  -- a list of one run has one order
  match hruns : s.runs letter, hone with
  | [], _ => exact List.perm_nil.mp (hruns ▸ hperm)
  | [run], _ => exact List.perm_singleton.mp (hruns ▸ hperm)

/-- **The words of a text.**  A letter occurs if it stands anywhere, in either case; its value is the
one that stands first, and it has none if none stands anywhere; one pass over the text finds all of
them.  Every letter starts a word of its own; the words of other letters may be exchanged for any
others, and words of distinct letters may be put in any order. -/
theorem words_grammar (text : List Char) :
    (∀ letter : Char, letter.isAlpha →
      ((words text).has letter ↔ ∃ c ∈ text, c = letter.toUpper ∨ c = letter.toLower) ∧
      (∀ x, (words text).get? letter = some x ↔
        ∃ i, HoldsAt text letter i x ∧ ∀ j < i, ∀ y, ¬HoldsAt text letter j y) ∧
      ((words text).get? letter = none ↔ ∀ i x, ¬HoldsAt text letter i x)) ∧
    (∀ letter, (Table.empty.scan text).get? letter = (words text).get? letter ∧
      (Table.empty.scan text).has letter = (words text).has letter) ∧
    (words text).map Word.letter = (text.filter Char.isAlpha).map Char.toUpper ∧
    (∃ s : Sentence, s.text = text) ∧
    ∀ s s' : Sentence, s.text = text →
      (∀ letter, s'.runs letter = s.runs letter →
        (words s'.text).get? letter = (words text).get? letter ∧
          (words s'.text).has letter = (words text).has letter) ∧
      (s'.phrases.Perm s.phrases → (s.phrases.map fun p => p.letter.toUpper).Nodup →
        ∀ letter, (words s'.text).get? letter = (words text).get? letter ∧
          (words s'.text).has letter = (words text).has letter) := by
  have hruns {s s' : Sentence} {letter : Char} (h : s'.runs letter = s.runs letter) :
      (words s'.text).get? letter = (words s.text).get? letter ∧
        (words s'.text).has letter = (words s.text).has letter := by
    obtain ⟨hget, hhas⟩ := get?_words_text s letter
    obtain ⟨hget', hhas'⟩ := get?_words_text s' letter
    rw [hget, hget', hhas, hhas', h]
    exact ⟨rfl, rfl⟩
  refine ⟨fun letter hletter => ⟨has_words_iff hletter, fun x => get?_words_eq_some_iff hletter,
    get?_words_eq_none_iff hletter⟩, fun letter => ?_, letters_words text, exists_sentence text, ?_⟩
  · simp [Table.get?_scan, Table.has_scan]
  · rintro s s' rfl
    exact ⟨fun letter h => hruns h, fun h hdistinct letter => hruns (runs_of_perm h hdistinct letter)⟩

/-- Two words in either order; the first `X` has a run that is no numeral. -/
theorem words_grammar_swapped :
    let malformed : Phrase :=
      ⟨'X', "1.2.3".toList, [], by decide, by simp [isNumberChar], nofun, nofun⟩
    let x : Phrase :=
      ⟨'x', ['5'], [' '], by decide, by simp [isNumberChar], by simp, by simp [isNumberChar]⟩
    let y : Phrase := ⟨'Y', "-7".toList, [], by decide, by simp [isNumberChar], nofun, nofun⟩
    let s : Sentence := ⟨[], [malformed, x, y], nofun⟩
    let s' : Sentence := ⟨[], [malformed, y, x], nofun⟩
    s.text = "X1.2.3x5 Y-7".toList ∧ s'.runs 'X' = s.runs 'X' ∧ 'X'.isAlpha ∧
      (words s.text).get? 'X' = some 5 ∧ (words s'.text).get? 'X' = (words s.text).get? 'X' ∧
      (∃ i, HoldsAt s.text 'X' i 5 ∧ ∀ j < i, ∀ y, ¬HoldsAt s.text 'X' j y) ∧
      Sentence.text ⟨[], [y, x], nofun⟩ = "Y-7x5 ".toList ∧
      (words "Y-7x5 ".toList).get? 'Y' = (words "x5 Y-7".toList).get? 'Y' := by
  intro malformed x y s s'
  have hvalue : (words s.text).get? 'X' = some 5 := by decide +kernel
  obtain ⟨hletters, -, -, -, hother⟩ := words_grammar s.text
  obtain ⟨-, -, -, -, hswapped⟩ := words_grammar "x5 Y-7".toList
  obtain ⟨-, hfirst, -⟩ := hletters 'X' rfl
  obtain ⟨-, horder⟩ := hswapped ⟨[], [x, y], nofun⟩ ⟨[], [y, x], nofun⟩ rfl
  have hruns : s'.runs 'X' = s.runs 'X' := by decide +kernel
  exact ⟨rfl, hruns, rfl, hvalue, ((hother s s' rfl).1 'X' hruns).1, (hfirst 5).mp hvalue, rfl,
    (horder (.swap x y []) (by decide) 'Y').1⟩

end VirtualPrinter.Gcode
