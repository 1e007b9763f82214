import VirtualPrinter.Machine.State

/-!
# The status line

Temperatures and targets of hotend and bed, each with two places in six columns.

## Main definitions

* `State.statusLine`.
-/

namespace VirtualPrinter.Machine

/-- A temperature with two places, in six columns. -/
def column (x : Float) : List Char :=
  Decimal.padLeft 6 (Decimal.places 2 x)

/-- Temperatures and targets of hotend and bed. -/
def State.statusLine (s : State) : String :=
  "T:" ++ String.ofList (column s.extruder.temperature) ++
    " /" ++ String.ofList (column s.extruder.targetTemperature) ++
    " B:" ++ String.ofList (column s.heatbed.temperature) ++
    " /" ++ String.ofList (column s.heatbed.targetTemperature) ++ " @:0 B@:0"

end VirtualPrinter.Machine
