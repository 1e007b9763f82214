/-!
# The shortest decimal that reads back

A positive binary64 number is `mantissa * 2 ^ exponent`.  The reals that round to it form an
interval; among the decimals in that interval this module picks one with the fewest digits, and of
those one nearest to the number.

## Main definitions

* `Decimal.Binary`: a positive binary64 number as an exact product.
* `Decimal.Scientific`: a decimal `digits * 10 ^ exponent`.
* `Binary.readsBack`: a decimal lies in the interval of a number.
* `Binary.shortest`: the search over the grids of one, two, ... seventeen digits.
-/

namespace VirtualPrinter.Decimal

/-- A positive binary64 number, `mantissa * 2 ^ exponent`. -/
structure Binary where
  mantissa : Nat
  exponent : Int
deriving Repr, DecidableEq

/-- A decimal, `digits * 10 ^ exponent`. -/
structure Scientific where
  digits : Nat
  exponent : Int
deriving Repr, DecidableEq

/-- Which of two equally near neighbours a number is rounded to. -/
inductive Tie where
  | toEven
  | awayFromZero
deriving Repr, DecidableEq

/-- Compares `a * 10 ^ i` with `n * 2 ^ j` exactly, without dividing. -/
def compareScaled (a : Nat) (i : Int) (n : Nat) (j : Int) : Ordering :=
  compare (a * Nat.pow 10 i.toNat * Nat.pow 2 (-j).toNat)
    (n * Nat.pow 2 j.toNat * Nat.pow 10 (-i).toNat)

namespace Binary

/-- Below a power of two the neighbour is half as far away as above it, unless the numbers there
are already on the finest grid. -/
def narrowBelow (x : Binary) : Bool :=
  x.mantissa == Nat.pow 2 52 && x.exponent > -1074

/-- A decimal rounds to the number: it lies between the halfway points to both neighbours, and on
a halfway point only if the mantissa is even. -/
def readsBack (x : Binary) (d : Scientific) : Bool :=
  let low := if x.narrowBelow then 4 * x.mantissa - 1 else 4 * x.mantissa - 2
  let high := 4 * x.mantissa + 2
  let ends := x.mantissa % 2 == 0
  let toLow := compareScaled d.digits d.exponent low (x.exponent - 2)
  let toHigh := compareScaled d.digits d.exponent high (x.exponent - 2)
  (toLow == .gt || (ends && toLow == .eq)) && (toHigh == .lt || (ends && toHigh == .eq))

/-- The least `k` at or above the start with `x < 10 ^ k`, tried at most `tries` times. -/
def scaleFrom (x : Binary) : Nat → Int → Int
  | 0, k => k
  | tries + 1, k =>
    if compareScaled 1 k x.mantissa x.exponent == .gt then k else scaleFrom x tries (k + 1)

/-- The least `k` with `x < 10 ^ k`: the position before the leading digit. -/
def scale (x : Binary) : Int :=
  let log2 : Int := x.mantissa.log2 + x.exponent
  scaleFrom x 4 ((log2 * 30103).fdiv 100000 - 1)

/-- The largest multiple of `10 ^ e` that is not above the number, as a count of such units. -/
def floorAt (x : Binary) (e : Int) : Nat :=
  (x.mantissa * Nat.pow 2 x.exponent.toNat * Nat.pow 10 (-e).toNat) /
    (Nat.pow 2 (-x.exponent).toNat * Nat.pow 10 e.toNat)

/-- The neighbour of the number on the grid `10 ^ e` that reads back, if one does; the nearer of
two, and by `tie` when both are equally near. -/
def onGrid (x : Binary) (tie : Tie) (e : Int) : Option Scientific :=
  let n := x.floorAt e
  let below : Scientific := ⟨n, e⟩
  let above : Scientific := ⟨n + 1, e⟩
  match x.readsBack below && n != 0, x.readsBack above with
  | true, true =>
    match compareScaled (2 * n + 1) e x.mantissa (x.exponent + 1), tie with
    | .gt, _ => some below
    | .lt, _ => some above
    | .eq, .awayFromZero => some above
    | .eq, .toEven => some (if n % 2 == 0 then below else above)
  | true, false => some below
  | false, true => some above
  | false, false => none

/-- The number itself as a decimal: two divides ten, so every binary fraction is a decimal one. -/
def exact (x : Binary) : Scientific :=
  ⟨x.mantissa * Nat.pow 2 x.exponent.toNat * Nat.pow 5 (-x.exponent).toNat, min x.exponent 0⟩

/-- The first grid, from one digit to seventeen, with a neighbour that reads back. -/
def shortest (x : Binary) (tie : Tie) : Scientific :=
  let k := x.scale
  ((List.range 17).findSome? fun (n : Nat) => x.onGrid tie (k - (n : Int) - 1)).getD x.exact

end Binary

/-- Moves trailing zeros of the digits into the exponent, at most `tries` of them. -/
def Scientific.stripZeros : Nat → Scientific → Scientific
  | 0, d => d
  | tries + 1, d =>
    if d.digits % 10 == 0 && d.digits != 0 then stripZeros tries ⟨d.digits / 10, d.exponent + 1⟩
    else d

end VirtualPrinter.Decimal
