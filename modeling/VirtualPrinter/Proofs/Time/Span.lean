import VirtualPrinter.Time.Span

/-!
# Spans by their nanoseconds

Spans are compared, added and rounded by their nanoseconds.

## Main results

* `le_nextMilli`, `nextMilli_lt`: rounding up to a millisecond adds less than one.
-/

namespace VirtualPrinter.Time.Span

variable {a b : Span}

theorem le_def : a ≤ b ↔ a.nanos ≤ b.nanos := Iff.rfl

theorem lt_def : a < b ↔ a.nanos < b.nanos := Iff.rfl

@[simp] theorem nanos_add (a b : Span) : (a + b).nanos = a.nanos + b.nanos := rfl

@[simp] theorem nanos_sub (a b : Span) : (a - b).nanos = a.nanos - b.nanos := rfl

/-- What is left of a span after another, behind the other: the longer of the two. -/
theorem add_sub_eq (a b : Span) : a + (b - a) = if b ≤ a then a else b := by
  change Span.mk (a.nanos + (b.nanos - a.nanos)) = _
  split
  · next h => rw [Nat.sub_eq_zero_of_le h, Nat.add_zero]
  · next h => rw [Nat.add_sub_of_le (Nat.le_of_not_le h)]

theorem isZero_eq_false_iff : a.isZero = false ↔ 0 < a.nanos := by
  simp [isZero, Nat.pos_iff_ne_zero]

theorem le_nextMilli (a : Span) : a ≤ a.nextMilli := by
  simp only [le_def, nextMilli, ofMillis, perMilli]
  omega

theorem nextMilli_lt (a : Span) : a.nextMilli.nanos < a.nanos + perMilli := by
  simp only [nextMilli, ofMillis, perMilli]
  omega

end VirtualPrinter.Time.Span
