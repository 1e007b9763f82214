import VirtualPrinter.Gcode.Command
import VirtualPrinter.Proofs.Decimal.Nearest
import VirtualPrinter.Proofs.Gcode.Words
import VirtualPrinter.Proofs.Number.Value
import VirtualPrinter.Proofs.Time.Span

/-!
# Intervals that words ask for

A number of seconds is rounded to nanoseconds, so that an interval may come out as none although the
number is not zero: what is no longer than half a nanosecond is nothing.  Numbers that make no interval
ask for the default one, as if there were none.

## Main definitions

* `Gcode.AsksFor`: the interval that a word asks for.

## Main results

* `Span.ofSecondsFloat?_nearest`, `Span.ofSecondsFloat?_of_le`: spans from seconds.
* `telemetryInterval_asksFor`: the interval of the words of a line.
* `AsksFor.isZero_iff`: which words ask for no interval.
* `AsksFor.zero_alone_iff`: when zero is the only number that does.
-/

namespace VirtualPrinter.Time.Span

open Decimal (Nearest)
open Number (value)

variable {x : Float} {m : Nat} {e : Int} {hm : 0 < m}

/-- A positive float lies below a whole number if its fraction does. -/
theorem fraction_lt_iff (m : Nat) (e : Int) (M : Nat) :
    m * Nat.pow 2 e.toNat < M * Nat.pow 2 (-e).toNat ↔ (m : ℚ) * 2 ^ e < M := by
  have hfraction := Decimal.scaled_fraction m e 1
  rw [Nat.mul_one, Nat.cast_one, mul_one] at hfraction
  rw [← hfraction, div_lt_iff₀ (by positivity)]
  exact_mod_cast Iff.rfl

/-- **A number of seconds becomes the nearest number of nanoseconds.** -/
theorem ofSecondsFloat?_nearest (hx : x.isFinite) (h : 0 ≤ value x) (hlt : value x < 2 ^ 64) :
    ∃ s, ofSecondsFloat? x = some s ∧ Nearest s.nanos (value x * 10 ^ 9) := by
  rcases Decimal.unpack_of_nonneg hx ((Number.value_nonneg_iff hx).mp h) with
    ⟨s, hu⟩ | ⟨m, e, hm, hu⟩
  · refine ⟨zero, by rw [ofSecondsFloat?, hu], ?_⟩
    rw [Number.value_of_zero hu, zero_mul]
    exact Decimal.nearest_zero_iff.mpr (by norm_num)
  · rw [Number.value_of_positive hu] at hlt ⊢
    have hfits : m * Nat.pow 2 e.toNat < Nat.pow 2 64 * Nat.pow 2 (-e).toNat :=
      (fraction_lt_iff m e (2 ^ 64)).mpr (by exact_mod_cast hlt)
    refine ⟨_, by rw [ofSecondsFloat?, hu]; exact if_pos hfits, ?_⟩
    have hround := Decimal.roundDiv_nearest (m * 2 ^ e.toNat * 10 ^ 9) (Nat.two_pow_pos (-e).toNat)
    rw [Decimal.scaled_fraction] at hround
    push_cast at hround
    exact hround

/-- What reaches the longest span makes none. -/
theorem ofSecondsFloat?_of_le (hx : x.isFinite) (h : 2 ^ 64 ≤ value x) : ofSecondsFloat? x = none := by
  have hpos : 0 < value x := lt_of_lt_of_le (by norm_num) h
  rcases Decimal.unpack_of_nonneg hx ((Number.value_nonneg_iff hx).mp hpos.le) with
    ⟨s, hu⟩ | ⟨m, e, hm, hu⟩
  · rw [Number.value_of_zero hu] at hpos
    exact absurd hpos (lt_irrefl 0)
  · rw [Number.value_of_positive hu] at h
    have hlong : ¬ m * Nat.pow 2 e.toNat < Nat.pow 2 64 * Nat.pow 2 (-e).toNat := fun hlt =>
      absurd ((fraction_lt_iff m e (2 ^ 64)).mp hlt) (not_lt.mpr (by exact_mod_cast h))
    rw [ofSecondsFloat?, hu]
    exact if_neg hlong

end VirtualPrinter.Time.Span

namespace VirtualPrinter.Gcode

open Decimal (Nearest)
open Number (value)
open Time (Span)

/-- The interval that the value of a word asks for, if the word has one: the nearest number of
nanoseconds, or the default interval where there is no value, or none that a span can have. -/
inductive AsksFor : Option Float → Span → Prop
  | nothing : AsksFor none defaultInterval
  | negative {x : Float} (h : value x < 0) : AsksFor (some x) defaultInterval
  | tooLong {x : Float} (h : 2 ^ 64 ≤ value x) : AsksFor (some x) defaultInterval
  | seconds {x : Float} {s : Span} (h : 0 ≤ value x) (hlt : value x < 2 ^ 64)
    (hs : Nearest s.nanos (value x * 10 ^ 9)) : AsksFor (some x) s

/-- The value of a letter is finite. -/
theorem isFinite_of_get? {text : List Char} {letter : Char} (hletter : letter.isAlpha) {x : Float}
    (h : (words text).get? letter = some x) : x.isFinite := by
  obtain ⟨i, ⟨-, -, hx⟩, -⟩ := (get?_words_eq_some_iff hletter).mp h
  exact hx

/-- **The interval of a line is the one that its `S` asks for.** -/
theorem telemetryInterval_asksFor (text : List Char) :
    AsksFor ((words text).get? 'S') (telemetryInterval (words text)) := by
  unfold telemetryInterval
  cases hs : (words text).get? 'S' with
  | none => exact .nothing
  | some x =>
    have hx : x.isFinite := isFinite_of_get? rfl hs
    dsimp only
    split
    · next hzero =>
      have hvalue : value x = 0 := (Number.value_eq_zero_iff hx).mpr hzero
      refine .seconds hvalue.ge (by rw [hvalue]; norm_num) ?_
      rw [hvalue, zero_mul]
      exact Decimal.nearest_zero_iff.mpr (by norm_num)
    · next hzero =>
      split
      · next hpos =>
        have hvalue : 0 < value x := (Number.value_pos_iff hx).mpr hpos
        rcases lt_or_ge (value x) (2 ^ 64) with hlt | hge
        · obtain ⟨s, hspan, hnear⟩ := Span.ofSecondsFloat?_nearest hx hvalue.le hlt
          rw [hspan]
          exact .seconds hvalue.le hlt hnear
        · rw [Span.ofSecondsFloat?_of_le hx hge]
          exact .tooLong hge
      · next hpos =>
        refine .negative (lt_of_le_of_ne ?_ (mt (Number.value_eq_zero_iff hx).mp hzero))
        exact not_lt.mp (mt (Number.value_pos_iff hx).mp hpos)

/-- **Which words ask for no interval**: those of half a nanosecond at most. -/
theorem AsksFor.isZero_iff {v : Option Float} {s : Span} (h : AsksFor v s) :
    s.isZero ↔ ∃ x, v = some x ∧ 0 ≤ value x ∧ value x * 10 ^ 9 ≤ 1 / 2 := by
  have hdefault : ¬ defaultInterval.isZero = true := by decide
  cases h with
  | nothing => exact iff_of_false hdefault nofun
  | negative hneg =>
    refine iff_of_false hdefault ?_
    rintro ⟨_, ⟨⟩, hx, -⟩
    exact absurd hx (not_le.mpr hneg)
  | tooLong hlong =>
    refine iff_of_false hdefault ?_
    rintro ⟨_, ⟨⟩, -, hx⟩
    linarith
  | @seconds x s hx hlt hs =>
    have hzero : s.isZero ↔ Nearest 0 (value x * 10 ^ 9) := by
      rw [Span.isZero, beq_iff_eq]
      exact ⟨fun hn => hn ▸ hs, fun hn => hs.unique hn⟩
    have hnonneg : 0 ≤ value x * 10 ^ 9 := by positivity
    rw [hzero, Decimal.nearest_zero_iff, abs_of_nonneg hnonneg]
    simp [hx]

/-- **When zero alone asks for none**: unless a positive number as short as that does. -/
theorem AsksFor.zero_alone_iff {v : Option Float} {s : Span} (h : AsksFor v s) :
    (s.isZero ↔ ∃ x, v = some x ∧ value x = 0) ↔
      ∀ x, v = some x → 0 < value x → 1 / 2 < value x * 10 ^ 9 := by
  rw [h.isZero_iff]
  constructor
  · intro hiff x hv hpos
    by_contra hshort
    obtain ⟨y, hy, hzero⟩ := hiff.mp ⟨x, hv, hpos.le, not_lt.mp hshort⟩
    obtain rfl : x = y := Option.some.inj (hv.symm.trans hy)
    exact hpos.ne' hzero
  · intro hlong
    refine ⟨fun ⟨x, hv, hx, hshort⟩ => ⟨x, hv, ?_⟩, fun ⟨x, hv, hzero⟩ => ⟨x, hv, hzero.ge, ?_⟩⟩
    · refine le_antisymm (not_lt.mp fun hpos => ?_) hx
      exact absurd hshort (not_le.mpr (hlong x hv hpos))
    · rw [hzero]
      norm_num

end VirtualPrinter.Gcode
