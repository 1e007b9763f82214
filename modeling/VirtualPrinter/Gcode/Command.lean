import VirtualPrinter.Gcode.Opcode
import VirtualPrinter.Gcode.Words
import VirtualPrinter.Machine.State
import VirtualPrinter.Time.Span

/-!
# Commands

A command is an operation with the parameters it takes from its words.  Defaults that do not depend
on the printer are filled in here; words that the printer completes, such as the coordinates that a
move leaves out, stay open.

## Main definitions

* `Gcode.Command`.
* `Gcode.stripComment`: an instruction line without its comment.
* `Command.parse?`: the command of a line.
* `Command.opcode`: the operation of a command.
-/

namespace VirtualPrinter.Gcode

open Machine (Positioning Units Motors)
open Time (Span)

/-- The side to which an arc ends. -/
inductive ArcDirection where
  | clockwise
  | counterClockwise
deriving DecidableEq, Repr

/-- The name of a direction. -/
def ArcDirection.name : ArcDirection → String
  | .clockwise => "Clockwise"
  | .counterClockwise => "CounterClockwise"

/-- An operation with its parameters. -/
inductive Command where
  | home
  | moveLinear (x y z feedRate : Option Float)
  | moveArc (direction : ArcDirection) (radius : Float) (z feedRate : Option Float)
  | dwell (duration : Span)
  | setPositioning (mode : Positioning)
  | setExtruderPositioning (mode : Positioning)
  | setUnits (units : Units)
  | setPosition (x y z : Option Float)
  | setHotendTemp (target : Option Float)
  | waitHotendTemp (target : Option Float)
  | setBedTemp (target : Option Float)
  | waitBedTemp (target : Option Float)
  | setAuxTemp (target : Option Float)
  | coldExtrusion (allowed : Bool)
  | setFan (speed : Float)
  | fanOff
  | motorEnable (motors : Motors)
  | motorDisable (motors : Motors)
  | setAccel (acceleration : Float)
  | setLinearAdvance (factor : Float)
  | reportPosition
  | reportFirmware
  | reportSettings
  | reportProgress
  | reportMachine
  | setProgress (percent : Float) (remainingMinutes : UInt32)
  /-- Temperature reports at an interval; an interval of zero ends them. -/
  | periodicTelemetry (interval : Span)
  | emergencyStop
  | pause
  | resume
  | keepalive
deriving DecidableEq

/-- A line up to its comment, without blanks on either side. -/
def stripComment (line : List Char) : List Char :=
  Text.trim (line.takeWhile (· != ';'))

/-- The motors whose letters occur; all of them if none does. -/
def namedMotors (ws : Words) : Motors :=
  let named := (Motors.named.filter fun m => ws.has m.1).foldl (fun set m => set.union m.2) .none
  if named = .none then .all else named

/-- How long to dwell: `P` in milliseconds, or else `S` in seconds, in whole milliseconds; a
negative time is none. -/
def dwellTime (ws : Words) : Span :=
  let millis := (ws.get? 'P').getD (((ws.get? 'S').map (· * 1000)).getD 0)
  .ofMillis millis.toUInt64.toNat

/-- The interval of reports without a word for it. -/
def defaultInterval : Span := .ofSeconds 1

/-- The interval of reports: `S` in seconds, where zero is kept.  A negative interval, or one that
is too long, is the default one. -/
def telemetryInterval (ws : Words) : Span :=
  match ws.get? 'S' with
  | some seconds =>
    if seconds == 0 then .zero
    else if 0 < seconds then (Span.ofSecondsFloat? seconds).getD defaultInterval
    else defaultInterval
  | none => defaultInterval

namespace Command

/-- The command of an operation and its words. -/
def ofWords (op : Opcode) (ws : Words) : Command :=
  match op with
  | .home => .home
  | .moveLinear => .moveLinear (ws.get? 'X') (ws.get? 'Y') (ws.get? 'Z') (ws.get? 'F')
  | .moveArc => .moveArc .clockwise (ws.getD 'R' 0) (ws.get? 'Z') (ws.get? 'F')
  | .moveArcCcw => .moveArc .counterClockwise (ws.getD 'R' 0) (ws.get? 'Z') (ws.get? 'F')
  | .dwell => .dwell (dwellTime ws)
  | .setAbsolute => .setPositioning .absolute
  | .setRelative => .setPositioning .relative
  | .setPosition => .setPosition (ws.get? 'X') (ws.get? 'Y') (ws.get? 'Z')
  | .extruderAbsolute => .setExtruderPositioning .absolute
  | .extruderRelative => .setExtruderPositioning .relative
  | .unitsInch => .setUnits .inches
  | .unitsMm => .setUnits .millimeters
  | .setHotendTemp => .setHotendTemp (ws.get? 'S')
  | .waitHotendTemp => .waitHotendTemp (ws.get? 'S')
  | .setBedTemp => .setBedTemp (ws.get? 'S')
  | .waitBedTemp => .waitBedTemp (ws.get? 'S')
  | .setAuxTemp => .setAuxTemp (ws.get? 'S')
  | .coldExtrusion => .coldExtrusion ((ws.get? 'P').any (· == 1))
  | .setFan => .setFan (ws.getD 'S' 255)
  | .fanOff => .fanOff
  | .motorEnable => .motorEnable (namedMotors ws)
  | .motorDisable => .motorDisable (namedMotors ws)
  | .setAccel => .setAccel (ws.getD 'S' 0)
  | .setLinearAdvance => .setLinearAdvance (ws.getD 'K' 0)
  | .reportPosition => .reportPosition
  | .reportFirmware => .reportFirmware
  | .reportSettings => .reportSettings
  | .reportProgress => .reportProgress
  | .reportMachine => .reportMachine
  | .setProgress =>
    .setProgress ((ws.get? 'S').getD (ws.getD 'P' 0)) (ws.getD 'R' 0).toUInt32
  | .periodicTelemetry => .periodicTelemetry (telemetryInterval ws)
  | .emergencyStop => .emergencyStop
  | .pause => .pause
  | .resume => .resume
  | .keepalive => .keepalive

/-- The command of a line without comment and outer blanks, if the line names an operation. -/
def parse? (line : List Char) : Option Command :=
  (resolve? line).map fun (op, rest) => ofWords op (words rest)

/-- The operation of a command. -/
def opcode : Command → Opcode
  | .home => .home
  | .moveLinear .. => .moveLinear
  | .moveArc .clockwise .. => .moveArc
  | .moveArc .counterClockwise .. => .moveArcCcw
  | .dwell _ => .dwell
  | .setPositioning .absolute => .setAbsolute
  | .setPositioning .relative => .setRelative
  | .setExtruderPositioning .absolute => .extruderAbsolute
  | .setExtruderPositioning .relative => .extruderRelative
  | .setUnits .inches => .unitsInch
  | .setUnits .millimeters => .unitsMm
  | .setPosition .. => .setPosition
  | .setHotendTemp _ => .setHotendTemp
  | .waitHotendTemp _ => .waitHotendTemp
  | .setBedTemp _ => .setBedTemp
  | .waitBedTemp _ => .waitBedTemp
  | .setAuxTemp _ => .setAuxTemp
  | .coldExtrusion _ => .coldExtrusion
  | .setFan _ => .setFan
  | .fanOff => .fanOff
  | .motorEnable _ => .motorEnable
  | .motorDisable _ => .motorDisable
  | .setAccel _ => .setAccel
  | .setLinearAdvance _ => .setLinearAdvance
  | .reportPosition => .reportPosition
  | .reportFirmware => .reportFirmware
  | .reportSettings => .reportSettings
  | .reportProgress => .reportProgress
  | .reportMachine => .reportMachine
  | .setProgress .. => .setProgress
  | .periodicTelemetry _ => .periodicTelemetry
  | .emergencyStop => .emergencyStop
  | .pause => .pause
  | .resume => .resume
  | .keepalive => .keepalive

/-- The operation of a command is the one it was made for. -/
theorem opcode_ofWords (op : Opcode) (ws : Words) : (ofWords op ws).opcode = op := by
  cases op <;> rfl

end Command

end VirtualPrinter.Gcode
