import VirtualPrinter.Text.Blank

/-!
# Instruction codes

Every operation has a textual name and may have codes of a letter and a number.  A line names an
operation by starting with one of its codes, in any case of letters, and the code ends where a
blank, a comment or the line's end follows; among the codes that fit the longest counts.

## Main definitions

* `Gcode.Opcode`: the operations.
* `Gcode.registry`: the codes, textual names first.
* `Opcode.name`, `Opcode.gcodes`: the codes of an operation.
* `Gcode.resolve?`: the operation that a line names, and the text behind the code.
-/

namespace VirtualPrinter.Gcode

/-- The operations. -/
inductive Opcode where
  | home
  | moveLinear
  | moveArc
  | moveArcCcw
  | dwell
  | setAbsolute
  | setRelative
  | setPosition
  | extruderAbsolute
  | extruderRelative
  | unitsInch
  | unitsMm
  | setHotendTemp
  | waitHotendTemp
  | setBedTemp
  | waitBedTemp
  | setAuxTemp
  | coldExtrusion
  | setFan
  | fanOff
  | motorEnable
  | motorDisable
  | setAccel
  | setLinearAdvance
  | reportPosition
  | reportFirmware
  | reportSettings
  | reportProgress
  | reportMachine
  | setProgress
  | periodicTelemetry
  | emergencyStop
  | pause
  | resume
  | keepalive
deriving DecidableEq, Repr

/-- The codes and their operations, textual names first. -/
def registry : List (String × Opcode) := [
  ("HOME", .home),
  ("MOVE-LINEAR", .moveLinear),
  ("MOVE-ARC", .moveArc),
  ("MOVE-ARC-CCW", .moveArcCcw),
  ("DWELL", .dwell),
  ("SET-ABSOLUTE", .setAbsolute),
  ("SET-RELATIVE", .setRelative),
  ("SET-POSITION", .setPosition),
  ("EXTRUDER-ABSOLUTE", .extruderAbsolute),
  ("EXTRUDER-RELATIVE", .extruderRelative),
  ("UNITS-INCH", .unitsInch),
  ("UNITS-MM", .unitsMm),
  ("SET-HOTEND-TEMP", .setHotendTemp),
  ("WAIT-HOTEND-TEMP", .waitHotendTemp),
  ("SET-BED-TEMP", .setBedTemp),
  ("WAIT-BED-TEMP", .waitBedTemp),
  ("SET-AUX-TEMP", .setAuxTemp),
  ("COLD-EXTRUSION", .coldExtrusion),
  ("SET-FAN", .setFan),
  ("FAN-OFF", .fanOff),
  ("MOTOR-ENABLE", .motorEnable),
  ("MOTOR-DISABLE", .motorDisable),
  ("SET-ACCEL", .setAccel),
  ("SET-LINEAR-ADVANCE", .setLinearAdvance),
  ("REPORT-POSITION", .reportPosition),
  ("REPORT-FIRMWARE", .reportFirmware),
  ("REPORT-SETTINGS", .reportSettings),
  ("REPORT-PROGRESS", .reportProgress),
  ("REPORT-MACHINE", .reportMachine),
  ("SET-PROGRESS", .setProgress),
  ("PERIODIC-TELEMETRY", .periodicTelemetry),
  ("EMERGENCY-STOP", .emergencyStop),
  ("PAUSE", .pause),
  ("RESUME", .resume),
  ("KEEPALIVE", .keepalive),
  ("G0", .moveLinear),
  ("G1", .moveLinear),
  ("G2", .moveArc),
  ("G3", .moveArcCcw),
  ("G4", .dwell),
  ("G20", .unitsInch),
  ("G21", .unitsMm),
  ("G28", .home),
  ("G90", .setAbsolute),
  ("G91", .setRelative),
  ("G92", .setPosition),
  ("M17", .motorEnable),
  ("M18", .motorDisable),
  ("M27", .reportProgress),
  ("M73", .setProgress),
  ("M82", .extruderAbsolute),
  ("M83", .extruderRelative),
  ("M84", .motorDisable),
  ("M104", .setHotendTemp),
  ("M106", .setFan),
  ("M107", .fanOff),
  ("M109", .waitHotendTemp),
  ("M112", .emergencyStop),
  ("M113", .keepalive),
  ("M114", .reportPosition),
  ("M115", .reportFirmware),
  ("M140", .setBedTemp),
  ("M142", .setAuxTemp),
  ("M155", .periodicTelemetry),
  ("M190", .waitBedTemp),
  ("M204", .setAccel),
  ("M302", .coldExtrusion),
  ("M503", .reportSettings),
  ("M601", .pause),
  ("M602", .resume),
  ("M900", .setLinearAdvance),
  ("M997", .reportMachine)]

namespace Opcode

/-- The textual name. -/
def name (op : Opcode) : String :=
  match registry.find? fun entry => entry.2 = op with
  | some (code, _) => code
  | none => "UNKNOWN"

/-- A code of the letter `G` or `M` and a number. -/
def isGcode (code : String) : Bool :=
  match code.toList with
  | c :: digits => (c == 'G' || c == 'M') && digits.all Char.isDigit
  | [] => false

/-- The codes of a letter and a number. -/
def gcodes (op : Opcode) : List String :=
  registry.filterMap fun (code, o) => if o = op ∧ isGcode code then some code else none

/-- The first code of a letter and a number, or else the textual name. -/
def shortCode (op : Opcode) : String :=
  op.gcodes.headD op.name

/-- The operations that move the head; a paused printer refuses them. -/
def isMotion : Opcode → Bool
  | .home | .moveLinear | .moveArc | .moveArcCcw => true
  | _ => false

end Opcode

/-- A code ends before a blank, a comment or the end of the line. -/
def endsCode : List Char → Bool
  | [] => true
  | c :: _ => Text.isBlank c || c == ';'

/-- The text behind a code at the start of a line; the code is given in capitals. -/
def behindCode? : List Char → List Char → Option (List Char)
  | [], rest => if endsCode rest then some rest else none
  | _ :: _, [] => none
  | c :: code, d :: rest => if d.toUpper == c then behindCode? code rest else none

/-- The codes that fit a line, each with its operation and the text behind it. -/
def fitting (line : List Char) : List (String × Opcode × List Char) :=
  registry.filterMap fun (code, op) =>
    (behindCode? code.toList line).map fun rest => (code, op, rest)

/-- The longer of two fitting codes; the later one if they are equally long. -/
def longer (best : Option (String × Opcode × List Char)) (next : String × Opcode × List Char) :
    Option (String × Opcode × List Char) :=
  match best with
  | some b => if next.1.length < b.1.length then some b else some next
  | none => some next

/-- The operation that a line names, and the text behind its code. -/
def resolve? (line : List Char) : Option (Opcode × List Char) :=
  ((fitting line).foldl longer none).map fun entry => entry.2

end VirtualPrinter.Gcode
