import VirtualPrinter.Gcode.Command

/-!
# The arguments of commands

Diagnostics show what a command carries under short names: coordinates and rates by the letters of
their words, everything else by what it is.

## Main definitions

* `Gcode.Argument`, and `Command.arguments`.
-/

namespace VirtualPrinter.Gcode

/-- What a command carries under a name. -/
inductive Argument where
  /-- The value of a word that may be left out. -/
  | word (x : Option Float)
  | name (s : String)
  | span (s : Time.Span)
  | flag (b : Bool)
  | count (n : Nat)

/-- A value that is always there. -/
def Argument.number (x : Float) : Argument := .word (some x)

/-- What a command carries, by name. -/
def Command.arguments : Command → List (String × Argument)
  | .moveLinear x y z f => [("x", .word x), ("y", .word y), ("z", .word z), ("f", .word f)]
  | .moveArc direction r z f =>
    [("direction", .name direction.name), ("r", .number r), ("z", .word z), ("f", .word f)]
  | .dwell span | .periodicTelemetry span => [("ns", .span span)]
  | .setPositioning mode | .setExtruderPositioning mode => [("mode", .name mode.name)]
  | .setUnits units => [("units", .name units.name), ("scale", .number units.scale)]
  | .setPosition x y z => [("x", .word x), ("y", .word y), ("z", .word z)]
  | .setHotendTemp target | .waitHotendTemp target | .setBedTemp target | .waitBedTemp target
  | .setAuxTemp target => [("target", .word target)]
  | .coldExtrusion allowed => [("allowed", .flag allowed)]
  | .setFan speed => [("speed", .number speed)]
  | .motorEnable motors | .motorDisable motors =>
    [("axes", .name motors.text), ("bits", .count motors.bits.toNat)]
  | .setAccel acceleration => [("acceleration", .number acceleration)]
  | .setLinearAdvance factor => [("k", .number factor)]
  | .setProgress percent minutes =>
    [("percent", .number percent), ("minutes", .count minutes.toNat)]
  | _ => []

end VirtualPrinter.Gcode
