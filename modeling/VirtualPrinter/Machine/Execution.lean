import VirtualPrinter.Gcode.Command

/-!
# What commands do

A command changes the state of a printer and answers with text of one or more lines, or it is
refused and changes nothing.  Words that a move leaves out keep the coordinate; relative words are
offsets; the unit of lengths scales every coordinate, radius and feed rate.

## Main definitions

* `Machine.execute`: a command that concerns the state alone.
* `Machine.report`: the settings as instructions that would restore them.
-/

namespace VirtualPrinter.Machine

open Gcode (Command Opcode ArcDirection)

/-- The plain acknowledgement. -/
def okay : String := "ok\n"

/-- The answer to a line that names no operation. -/
def unknownCommand : String := "Unknown command\n"

/-- What the printer reports as its firmware. -/
def firmwareName : String := "TotallyRealMarlin 2.1.2.5"

/-- The coordinate that a word of a move asks for. -/
def axisTarget (s : State) (word : Option Float) (current : Float) : Float :=
  match word with
  | none => current
  | some value =>
    match s.positioning with
    | .absolute => value * s.units.scale
    | .relative => current + value * s.units.scale

/-- The point that the words of a move ask for. -/
def moveTarget (s : State) (x y z : Option Float) : Point :=
  ⟨axisTarget s x s.position.x, axisTarget s y s.position.y, axisTarget s z s.position.z⟩

/-- The point where an arc ends: half a turn, so that it lies one radius along the first axis. -/
def arcTarget (s : State) (direction : ArcDirection) (radius : Float) (z : Option Float) : Point :=
  let length := radius * s.units.scale
  let x := match direction with
    | .clockwise => s.position.x - length
    | .counterClockwise => s.position.x + length
  ⟨x, s.position.y, axisTarget s z s.position.z⟩

/-- The state with the feed rate of a move.  A rate that is not positive is passed over, and so is
one that becomes infinite by its unit. -/
def withFeedRate (s : State) (rate : Option Float) : State :=
  match rate with
  | some r =>
    if 0 < r then
      match s.setFeedRate (r * s.units.scale) with
      | .ok s => s
      | .error _ => s
    else s
  | none => s

/-- An instruction with one parameter of two places. -/
def setting (op : Opcode) (letter : String) (value : Float) : String :=
  op.shortCode ++ " " ++ letter ++ Decimal.twoPlaces value ++ "\n"

/-- The settings of a printer as instructions. -/
def report (s : State) : String :=
  let units : Opcode := match s.units with
    | .millimeters => .unitsMm
    | .inches => .unitsInch
  let positioning : Opcode := match s.positioning with
    | .absolute => .setAbsolute
    | .relative => .setRelative
  let extruder : Opcode := match s.extruder.positioning with
    | .absolute => .extruderAbsolute
    | .relative => .extruderRelative
  "; " ++ s.info.name ++ " (" ++ s.info.device ++ ")\n" ++
    units.shortCode ++ "\n" ++
    positioning.shortCode ++ "\n" ++
    extruder.shortCode ++ "\n" ++
    setting .setAccel "S" s.acceleration ++
    setting .setLinearAdvance "K" s.linearAdvance ++
    Opcode.coldExtrusion.shortCode ++ " P" ++ (if s.coldExtrusion then "1" else "0") ++ "\n" ++
    setting .setHotendTemp "S" s.extruder.targetTemperature ++
    setting .setBedTemp "S" s.heatbed.targetTemperature ++
    setting .setAuxTemp "S" s.auxTargetTemperature ++
    setting .setFan "S" s.extruder.fanSpeed ++
    Opcode.motorEnable.shortCode ++ " " ++ s.enabledMotors.text ++ "\n" ++
    okay

/-- The state with a target that may be left out. -/
def withTarget (s : State) (set : State → Float → Except Refusal State) :
    Option Float → Except Refusal State
  | some target => set s target
  | none => .ok s

/-- The share done and the time left. -/
def progressText (s : State) : String :=
  toString s.progress.toNat ++ "%, " ++ toString s.remainingMinutes.toNat ++
    " minutes remaining\nok\n"

/-- A heater on its way: measured temperature and target. -/
def heatingText (heater : String) (temperature target : Float) : String :=
  heater ++ ":" ++ Decimal.twoPlaces temperature ++ " / " ++ Decimal.twoPlaces target ++ "\n"

/-- What a command does to the state, and its answer.  Reports at an interval concern the connection
and change nothing here. -/
def execute (now : Time.Timestamp) (s : State) : Command → Except Refusal (State × String)
  | .home => do
    let s ← s.moveTo .origin
    return (s, "ok\n" ++ s.position.text ++ "\nok\n")
  | .moveLinear x y z feedRate => do
    let target := moveTarget s x y z
    let s ← s.moveTo target
    return (withFeedRate s feedRate, "Moved to " ++ target.text ++ "\n")
  | .moveArc direction radius z feedRate => do
    let target := arcTarget s direction radius z
    let s ← s.moveTo target
    return (withFeedRate s feedRate, "Arc move to " ++ target.text ++ "\n")
  | .dwell duration => .ok (s, "Dwelling for " ++ toString duration.millis ++ " ms\n")
  | .setPositioning mode =>
    .ok (s.setPositioning mode, match mode with
      | .absolute => "Set to Absolute Positioning\n"
      | .relative => "Set to Relative Positioning\n")
  | .setExtruderPositioning mode =>
    .ok (s.setExtruderPositioning mode, match mode with
      | .absolute => "Extruder set to absolute positioning\n"
      | .relative => "Extruder set to relative positioning\n")
  | .setUnits units =>
    .ok (s.setUnits units, match units with
      | .inches => "Units set to inches\n"
      | .millimeters => "Units set to millimeters\n")
  | .setPosition x y z => do
    let scale := s.units.scale
    let p : Point := ⟨x.getD 0 * scale, y.getD 0 * scale, z.getD 0 * scale⟩
    let s ← s.setPosition p
    return (s, "Position set to " ++ p.text ++ "\n")
  | .setHotendTemp target => do
    let s ← withTarget s State.setHotendTarget target
    return (s, okay)
  | .waitHotendTemp target => do
    let s ← withTarget s State.setHotendTarget target
    if s.extruder.temperature < s.extruder.targetTemperature then
      return (s, heatingText "T" s.extruder.temperature s.extruder.targetTemperature)
    else return (s, okay)
  | .setBedTemp target => do
    let s ← withTarget s State.setBedTarget target
    return (s, okay)
  | .waitBedTemp target => do
    let s ← withTarget s State.setBedTarget target
    if s.heatbed.temperature < s.heatbed.targetTemperature then
      return (s, heatingText "B" s.heatbed.temperature s.heatbed.targetTemperature)
    else return (s.setBedHeating false, okay)
  | .setAuxTemp target => do
    let s ← withTarget s State.setAuxTarget target
    return (s, "Auxiliary target temperature set to " ++
      Decimal.twoPlaces s.auxTargetTemperature ++ "\n")
  | .coldExtrusion allowed =>
    .ok (s.setColdExtrusion allowed,
      if allowed then "Cold extrusion allowed\n" else "Cold extrusion not allowed\n")
  | .setFan speed => do
    let s ← s.setFanSpeed speed
    return (s, "Fan speed set to " ++ Decimal.twoPlaces speed ++ "\n")
  | .fanOff => do
    let s ← s.setFanSpeed 0
    return (s, "Fan turned off\n")
  | .motorEnable motors =>
    .ok (s.enableMotors motors, "Motors " ++ motors.text ++ " enabled\n")
  | .motorDisable motors =>
    .ok (s.disableMotors motors, "Motors " ++ motors.text ++ " disabled\n")
  | .setAccel acceleration => do
    let s ← s.setAcceleration acceleration
    return (s, "Acceleration set to " ++ Decimal.twoPlaces acceleration ++ "\n")
  | .setLinearAdvance factor => do
    let s ← s.setLinearAdvance factor
    return (s, "Linear Advance factor set to " ++ Decimal.twoPlaces factor ++ "\n")
  | .reportPosition => .ok (s, s.position.text ++ "\nok\n")
  | .reportFirmware => .ok (s, "Firmware: " ++ firmwareName ++ "\n")
  | .reportSettings => .ok (s, report s)
  | .reportProgress => .ok (s, "Progress: " ++ progressText s)
  | .reportMachine => .ok (s, "Machine name: " ++ s.info.device ++ "\n")
  | .setProgress percent minutes => do
    let s ← s.setProgress percent minutes
    return (s, "Progress set to " ++ progressText s)
  | .periodicTelemetry _ => .ok (s, okay)
  | .emergencyStop => .ok (s.pause, "Emergency stop activated, printer paused\n")
  | .pause =>
    .ok (s.pause, if s.paused then "Printer already paused\n" else "Printer paused\n")
  | .resume =>
    .ok (s.resume, if s.paused then "Printer resumed\n" else "Printer is not paused\n")
  | .keepalive => .ok (s.touchKeepalive now, "Keepalive signal sent\n")

end VirtualPrinter.Machine
