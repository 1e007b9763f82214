import VirtualPrinter.Json.Value
import VirtualPrinter.Decimal.Reading

/-!
# The value of a JSON number as written

An integer without fraction and exponent stays an integer as long as it fits sixty-four bits,
signed below zero; minus zero is a float.  Every other number is a float, read in two roundings:
the leading digits that fit an unsigned sixty-four bit count are rounded to a float, and that is
multiplied or divided by a power of ten.  A product beyond the largest float is refused.

## Main definitions

* `Json.Fault`: why a text is not read.
* `Json.Numeral`: the parts of a number as written.
* `Numeral.value`: its value.
-/

namespace VirtualPrinter.Json

/-- Why a text is not read: it is not JSON, it ends too early, or it holds something else than was
asked for. -/
inductive Fault where
  | malformed
  | truncated
  | mismatched
deriving DecidableEq, Repr

/-- The parts of a number as written; an exponent has its sign and its digits. -/
structure Numeral where
  negative : Bool
  whole : List Char
  fraction : Option (List Char)
  exponent : Option (Bool × List Char)

namespace Numeral

/-- Appends digits to a count while it stays below `2 ^ 64`: the count, and the digits left. -/
def collect (n : Nat) : List Char → Nat × List Char
  | [] => (n, [])
  | c :: rest =>
    let m := 10 * n + (c.toNat - '0'.toNat)
    if m < Nat.pow 2 64 then collect m rest else (n, c :: rest)

/-- A power of ten as a float. -/
def powerOfTen (k : Nat) : Float :=
  Float.ofScientific 1 false k

/-- The largest power of ten that a float holds. -/
def maxPower : Nat := 308

/-- Division by a power of ten, in steps of the largest one that a float holds. -/
def dividedBy (x : Float) (k : Nat) : Float :=
  if k ≤ maxPower then x / powerOfTen k
  else if x == 0 then x
  else dividedBy (x / powerOfTen maxPower) (k - maxPower)
termination_by k
decreasing_by simp [maxPower] at *; omega

/-- A float moved by a power of ten; a value beyond the largest float is refused. -/
def scaled (x : Float) (exponent : Int) : Except Fault Float :=
  if exponent < 0 then .ok (dividedBy x exponent.natAbs)
  else if exponent.natAbs ≤ maxPower then
    let y := x * powerOfTen exponent.natAbs
    if y.isInf then .error .malformed else .ok y
  else if x == 0 then .ok x
  else .error .malformed

/-- An exponent's digits that fit thirty-one bits, or nothing. -/
def exponentDigits? (digits : List Char) : Option Nat :=
  let n := Decimal.ofDigits digits
  if n < Nat.pow 2 31 then some n else none

/-- The float of a count of leading digits, moved by the exponent as written. -/
def float (count : Nat) (shift : Int) : Option (Bool × List Char) → Except Fault Float
  | none => scaled count.toUInt64.toFloat shift
  | some (below, digits) =>
    match exponentDigits? digits with
    | some e => scaled count.toUInt64.toFloat (if below then shift - e else shift + e)
    | none => if count != 0 && !below then .error .malformed else .ok 0

/-- An integer that fits sixty-four bits; minus zero and integers further down are floats. -/
def integer (negative : Bool) (n : Nat) : Number :=
  if negative then
    if n = 0 ∨ Nat.pow 2 63 < n then .real (-n.toUInt64.toFloat) else .int (-n)
  else .int n

/-- The value of a number as written. -/
def value (n : Numeral) : Except Fault Number :=
  let (count, left) := collect 0 n.whole
  match n.fraction, n.exponent, left with
  | none, none, [] => .ok (integer n.negative count)
  | _, _, _ =>
    let fraction := n.fraction.getD []
    let (count, unread) := collect count fraction
    let shift : Int := left.length - (fraction.length - unread.length : Nat)
    (float count shift n.exponent).map fun x => .real (Decimal.signed n.negative x)

end Numeral

end VirtualPrinter.Json
