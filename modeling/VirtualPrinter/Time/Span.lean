import VirtualPrinter.Decimal.Places

/-!
# Spans of time

A span is a number of nanoseconds.  The longest one is just short of `2 ^ 64` seconds, and
arithmetic stops there.

## Main definitions

* `Time.Span`, and its units `ofSeconds` and `ofMillis`.
* `Span.scaledBy`: a multiple of a span, or the longest span.
* `Span.alarm`: when an alarm rings that is set for a time ahead.
* `Span.ofSecondsFloat?`: the span nearest to a float of seconds.
-/

namespace VirtualPrinter.Time

/-- A length of time in nanoseconds. -/
structure Span where
  nanos : Nat
deriving DecidableEq, Repr

namespace Span

/-- No time at all. -/
def zero : Span := ⟨0⟩

/-- Nanoseconds in a second. -/
def perSecond : Nat := 1000000000

/-- Nanoseconds in a millisecond. -/
def perMilli : Nat := 1000000

/-- The longest span. -/
def longest : Span := ⟨Nat.pow 2 64 * perSecond - 1⟩

/-- A number of seconds. -/
def ofSeconds (n : Nat) : Span := ⟨n * perSecond⟩

/-- A number of milliseconds. -/
def ofMillis (n : Nat) : Span := ⟨n * perMilli⟩

/-- The whole milliseconds of a span. -/
def millis (s : Span) : Nat := s.nanos / perMilli

/-- No time at all. -/
def isZero (s : Span) : Bool := s.nanos == 0

/-- A multiple of a span, or the longest span. -/
def scaledBy (s : Span) (n : Nat) : Span := ⟨min (s.nanos * n) longest.nanos⟩

/-- One span after another. -/
instance : Add Span := ⟨fun a b => ⟨a.nanos + b.nanos⟩⟩

/-- What is left of a span after another; none if the other is as long. -/
instance : Sub Span := ⟨fun a b => ⟨a.nanos - b.nanos⟩⟩

instance : LE Span := ⟨fun a b => a.nanos ≤ b.nanos⟩

instance : LT Span := ⟨fun a b => a.nanos < b.nanos⟩

instance (a b : Span) : Decidable (a ≤ b) := inferInstanceAs (Decidable (a.nanos ≤ b.nanos))

instance (a b : Span) : Decidable (a < b) := inferInstanceAs (Decidable (a.nanos < b.nanos))

/-- The first whole millisecond that is not shorter. -/
def nextMilli (s : Span) : Span := .ofMillis ((s.nanos + (perMilli - 1)) / perMilli)

/-- The shorter of two spans. -/
def atMost (s limit : Span) : Span := ⟨min s.nanos limit.nanos⟩

/-- The longest that an alarm is set ahead: thirty years of 365 days. -/
def farthest : Span := .ofSeconds (30 * 365 * 86400)

/-- The instant at which an alarm rings that is set at an instant for a time ahead.  Alarms ring at
whole milliseconds, and no more than thirty years ahead. -/
def alarm (now ahead : Span) : Span := (now + ahead.atMost farthest).nextMilli

/-- The span nearest to a positive float of seconds, a half going to the even nanosecond.  There is
none for `2 ^ 64` seconds and more, nor for a value that is not a positive number. -/
def ofSecondsFloat? (x : Float) : Option Span :=
  match x.toModel.unpack with
  | .finite .positive m e _ =>
    let nanos := Decimal.roundDiv (m * Nat.pow 2 e.toNat * perSecond) (Nat.pow 2 (-e).toNat)
    if m * Nat.pow 2 e.toNat < Nat.pow 2 64 * Nat.pow 2 (-e).toNat then some ⟨nanos⟩ else none
  | .zero _ => some zero
  | _ => none

end Span

end VirtualPrinter.Time
