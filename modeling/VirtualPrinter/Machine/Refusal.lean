import VirtualPrinter.Decimal.Places

/-!
# Why a printer refuses

A setting outside of its range, a move out of the travel volume, a negative magnitude, and any move
while paused.

## Main definitions

* `Machine.Refusal`, and its text `Refusal.message`.
-/

namespace VirtualPrinter.Machine

/-- Why a printer refuses a change. -/
inductive Refusal where
  | outOfRange (quantity : String) (value min max : Float)
  | outOfBounds (axis : Char) (value max : Float)
  | negative (quantity : String) (value : Float)
  | paused
deriving DecidableEq

/-- The name of the kind of refusal. -/
def Refusal.name : Refusal → String
  | .outOfRange .. => "OutOfRange"
  | .outOfBounds .. => "OutOfBounds"
  | .negative .. => "Negative"
  | .paused => "Paused"

/-- A limit: as many places as it has. -/
def limitText (x : Float) : String :=
  String.ofList (Decimal.Style.plain.write x)

/-- The text of a refusal. -/
def Refusal.message : Refusal → String
  | .outOfRange quantity value min max =>
    "invalid " ++ quantity ++ " " ++ Decimal.twoPlaces value ++ ". Valid range: " ++
      limitText min ++ " to " ++ limitText max
  | .outOfBounds axis value max =>
    "move out of bounds: " ++ axis.toString ++ " " ++ Decimal.twoPlaces value ++
      " not within 0 to " ++ Decimal.twoPlaces max
  | .negative quantity value =>
    quantity ++ " must not be negative (got " ++ Decimal.twoPlaces value ++ ")"
  | .paused => "printer is paused"

end VirtualPrinter.Machine
