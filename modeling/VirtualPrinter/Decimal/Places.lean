import VirtualPrinter.Decimal.Layout

/-!
# A fixed number of decimal places

A float is rounded exactly, as the binary fraction it is, to a number of decimal places; a half
goes to the even neighbour.  The sign is kept even when nothing else is left of the value.

## Main definitions

* `Decimal.roundDiv`: a quotient rounded to the nearest integer, a half to the even one.
* `Decimal.places`: the text with so many digits behind the point.
* `Decimal.twoPlaces`: the form in which responses show coordinates and temperatures.
* `Decimal.padLeft`: blanks in front, up to a width.
-/

namespace VirtualPrinter.Decimal

/-- `num / den` rounded to the nearest integer, a half to the even one. -/
def roundDiv (num den : Nat) : Nat :=
  let q := num / den
  match compare (2 * (num % den)) den with
  | .lt => q
  | .gt => q + 1
  | .eq => if q % 2 == 0 then q else q + 1

/-- The nearest integer to `x * 10 ^ n`. -/
def Binary.inUnits (x : Binary) (n : Nat) : Nat :=
  roundDiv (x.mantissa * Nat.pow 2 x.exponent.toNat * Nat.pow 10 n)
    (Nat.pow 2 (-x.exponent).toNat)

/-- A count of units of `10 ^ -n`, with the point before the last `n` digits. -/
def pointed (n units : Nat) : List Char :=
  let digits := digitsOf units
  let padded := zeros (n + 1 - digits.length) ++ digits
  padded.take (padded.length - n) ++ '.' :: padded.drop (padded.length - n)

/-- The text of a float with `n` digits behind the point, `n` at least one. -/
def places (n : Nat) (x : Float) : List Char :=
  match x.toModel.unpack with
  | .notANumber => ['N', 'a', 'N']
  | .infinity s => signText s ++ ['i', 'n', 'f']
  | .zero s => signText s ++ pointed n 0
  | .finite s m e _ => signText s ++ pointed n (Binary.inUnits ⟨m, e⟩ n)

/-- Two digits behind the point. -/
def twoPlaces (x : Float) : String :=
  String.ofList (places 2 x)

/-- Blanks in front of a text, up to a width. -/
def padLeft (width : Nat) (text : List Char) : List Char :=
  List.replicate (width - text.length) ' ' ++ text

end VirtualPrinter.Decimal
