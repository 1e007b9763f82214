import VirtualPrinter.Proofs.Decimal.Rereading
import VirtualPrinter.Proofs.Gcode.Spelling

/-!
# Lines that are written by a printer

A printer writes an instruction by the short code of the operation and, behind a blank, a letter with
its number or the letters of motors.  What it writes is read as what it meant.

## Main results

* `parse?_code`: the command of a code and what stands behind it.
* `parse?_word`: the command of a code and a word.
* `wordValue_le`, `wordValue_nonneg`: the number of a word that was written with two places.
-/

namespace VirtualPrinter.Gcode

open Decimal (places)
open Text (isBlank trimEnd)

/-- The short code of an operation is one of its codes. -/
theorem shortCode_mem (op : Opcode) : (op.shortCode, op) ∈ registry := by
  cases op <;> decide

/-- **The command of a code and what stands behind it**, without a comment and blanks at the end. -/
theorem parse?_code (op : Opcode) {rest : List Char} (hrest : token rest = []) :
    Command.parse? (stripComment (op.shortCode.toList ++ rest)) =
      some (.ofWords op (words (trimEnd (rest.takeWhile (· != ';'))))) := by
  have hmem := shortCode_mem op
  have hsolid : ∀ c ∈ op.shortCode.toList, endsToken c = false := fun c hc =>
    (registry_solid hmem c hc).2
  obtain ⟨behind, hline, hbehind, rfl⟩ :
      ∃ behind, stripComment (op.shortCode.toList ++ rest) = op.shortCode.toList ++ behind ∧
        token behind = [] ∧ behind = trimEnd (rest.takeWhile (· != ';')) :=
    stripComment_solid (registry_ne_nil hmem) hsolid hrest
  obtain ⟨htoken, hcut⟩ := token_append hsolid hbehind
  rw [hline, Command.parse?, resolve?_eq_some_iff.mpr ⟨⟨_, hmem, congrArg _ htoken⟩, hcut.symm⟩]
  rfl

theorem not_endsToken_of_isNumberChar {c : Char} (h : isNumberChar c) : endsToken c = false := by
  have hsmall : c.toNat < 58 := by
    simp only [isNumberChar, Bool.or_eq_true, beq_iff_eq] at h
    rcases h with ((hdigit | rfl) | rfl) | rfl
    · exact Nat.lt_succ_of_le (Char.isDigit_iff_toNat.mp hdigit).2
    all_goals decide
  have hall : ∀ n < 58, isNumberChar (Char.ofNat n) → endsToken (Char.ofNat n) = false := by decide
  have hends := hall c.toNat hsmall
  rw [Char.ofNat_toNat] at hends
  exact hends h

/-- The words of a letter and a run of number characters. -/
theorem words_word {letter : Char} {run : List Char} (hletter : letter.isAlpha)
    (hrun : ∀ c ∈ run, isNumberChar c) :
    words (' ' :: letter :: run) = [⟨letter.toUpper, wordValue run⟩] := by
  have hplain : ∀ c ∈ run, c.isAlpha = false := fun c hc => isAlpha_of_isNumberChar (hrun c hc)
  have hnone : words run = [] := by
    rw [← List.append_nil run, words_append_of_not_isAlpha hplain, words]
  rw [words, if_neg (by decide), words, if_pos hletter, hnone, List.takeWhile_eq_self_iff.mpr hrun]

/-- **The command of a code and a word.** -/
theorem parse?_word (op : Opcode) {letter : Char} {run : List Char} (hletter : letter.isAlpha)
    (hrun : ∀ c ∈ run, isNumberChar c) :
    Command.parse? (stripComment (op.shortCode.toList ++ ' ' :: letter :: run)) =
      some (.ofWords op [⟨letter.toUpper, wordValue run⟩]) := by
  have hsolid : ∀ c ∈ letter :: run, endsToken c = false := by
    refine List.forall_mem_cons.mpr ⟨?_, fun c hc => not_endsToken_of_isNumberChar (hrun c hc)⟩
    rw [endsToken, Text.isBlank_of_isAlpha hletter, Bool.false_or, beq_eq_false_iff_ne]
    rintro rfl
    cases hletter
  have hparts : ∀ c ∈ letter :: run, isBlank c = false ∧ (c != ';') = true := fun c hc => by
    simpa [endsToken] using hsolid c hc
  -- there is no comment behind the word, and no blank
  have hwhole : (' ' :: letter :: run).takeWhile (· != ';') = ' ' :: letter :: run :=
    List.takeWhile_eq_self_iff.mpr
      (List.forall_mem_cons.mpr ⟨by decide, fun c hc => (hparts c hc).2⟩)
  have htrim : trimEnd (' ' :: letter :: run) = ' ' :: letter :: run := by
    refine List.rdropWhile_eq_self_iff.mpr fun hne => ?_
    rw [List.getLast_cons (List.cons_ne_nil _ _), (hparts _ (List.getLast_mem _)).1]
    exact Bool.false_ne_true
  rw [parse?_code op rfl, hwhole, htrim, words_word hletter hrun]

/-! ### Numbers with two places -/

variable {x : Float}

/-- A finite float is written in number characters. -/
theorem isNumberChar_places (hx : x.isFinite) : ∀ c ∈ places 2 x, isNumberChar c := by
  obtain ⟨s, units, hplaces⟩ := Decimal.exists_units hx 2
  obtain ⟨fraction, hpointed, hfraction, -⟩ := Decimal.exists_pointed 2 units
  have hdigit {c : Char} (hc : c.isDigit) : isNumberChar c := by simp [isNumberChar, hc]
  intro c hc
  rw [hplaces, hpointed] at hc
  simp only [List.mem_append, List.mem_cons] at hc
  rcases hc with hc | hc | rfl | hc
  · cases s with
    | positive => cases hc
    | negative =>
      obtain rfl := List.mem_singleton.mp hc
      rfl
  · exact hdigit ((Json.digitsOf_digits _).2 c hc)
  · rfl
  · exact hdigit (hfraction c hc)

/-- What does not pass a small whole number is read as a number that does not, either. -/
theorem wordValue_le {M : Nat} (hM : 0 < M) (hsmall : M * 100 < 2 ^ 53) (hx : 0 ≤ x)
    (hle : x ≤ Float.ofNat M) :
    ∃ y, wordValue (places 2 x) = some y ∧ 0 ≤ y ∧ y ≤ Float.ofNat M := by
  obtain ⟨y, hread, hy, hyle⟩ := Decimal.reread_le hM hsmall hx hle
  have hfinite : y.isFinite := Decimal.isFinite_of_between hM (by omega) hy hyle
  exact ⟨y, by rw [wordValue, hread, Option.filter_some, if_pos hfinite], hy, hyle⟩

/-- What is finite and not negative is read as such a number, if as any. -/
theorem wordValue_nonneg (hx : x.isFinite) (h : 0 ≤ x) {y : Float}
    (hy : wordValue (places 2 x) = some y) : y.isFinite ∧ 0 ≤ y := by
  obtain ⟨y', hread, hnonneg⟩ := Decimal.reread_nonneg hx h
  rw [wordValue, hread, Option.filter_eq_some_iff] at hy
  obtain ⟨heq, hfinite⟩ := hy
  obtain rfl := Option.some.inj heq
  exact ⟨hfinite, hnonneg hfinite⟩

end VirtualPrinter.Gcode
