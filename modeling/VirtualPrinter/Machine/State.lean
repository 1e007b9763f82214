import VirtualPrinter.Machine.Geometry
import VirtualPrinter.Machine.Identity
import VirtualPrinter.Machine.Refusal
import VirtualPrinter.Json.Value

/-!
# The state of a printer

Temperatures, positions and settings change only through the setters below.  Each setter checks its
value first and leaves the state alone when it refuses.  Nothing is simulated: a heater reaches its
target when it is told to.

## Main definitions

* `Machine.State`, with its parts `Extruder` and `Heatbed`.
* `State.moveTo`, `State.setPosition`: the two ways to change the position.
* The setters of targets, speeds and settings.
-/

namespace VirtualPrinter.Machine

/-- How move words are understood: as coordinates, or as offsets from the current position. -/
inductive Positioning where
  | absolute
  | relative
deriving DecidableEq, Repr

/-- The unit of lengths in instructions. -/
inductive Units where
  | millimeters
  | inches
deriving DecidableEq, Repr

/-- The name of a way to understand words. -/
def Positioning.name : Positioning → String
  | .absolute => "absolute"
  | .relative => "relative"

/-- The name of a unit. -/
def Units.name : Units → String
  | .millimeters => "mm"
  | .inches => "inches"

/-- The millimetres of a unit. -/
def Units.scale : Units → Float
  | .millimeters => 1
  | .inches => 25.4

/-- The measured temperature of every heater at first. -/
def ambient : Float := 20

/-- The print head: position, hotend and fan. -/
structure Extruder where
  position : Point
  temperature : Float
  targetTemperature : Float
  fanSpeed : Float
  /-- How extruder words are understood; moves do not depend on it. -/
  positioning : Positioning
  maxZHeight : Float
deriving DecidableEq

/-- A cold print head at a point. -/
def Extruder.at (position : Point) : Extruder where
  position := position
  temperature := ambient
  targetTemperature := 0
  fanSpeed := 0
  positioning := .absolute
  maxZHeight := 220

/-- The heated bed. -/
structure Heatbed where
  temperature : Float
  targetTemperature : Float
  heating : Bool
  width : Float
  length : Float
deriving DecidableEq

/-- A cold bed of a size. -/
def Heatbed.ofSize (width length : Float) : Heatbed where
  temperature := ambient
  targetTemperature := 0
  heating := false
  width := width
  length := length

/-- The bed of a printer that tells no size. -/
def Heatbed.standard : Heatbed := .ofSize 250 210

/-- Everything about a printer that instructions can read or change. -/
structure State where
  info : Identity
  extruder : Extruder
  heatbed : Heatbed
  positioning : Positioning
  units : Units
  enabledMotors : Motors
  acceleration : Float
  linearAdvance : Float
  auxTargetTemperature : Float
  feedRate : Float
  paused : Bool
  progress : UInt8
  remainingMinutes : UInt32
  coldExtrusion : Bool
  homePosition : Point
  lastKeepalive : Option Time.Timestamp
  attributes : Json.Fields
  data : Json.Fields

/-- The greatest hotend temperature. -/
def hotendMax : Float := 300

/-- The greatest bed temperature. -/
def bedMax : Float := 120

/-- The greatest temperature of the auxiliary heater. -/
def auxMax : Float := 300

/-- The greatest fan speed. -/
def fanMax : Float := 255

/-- The greatest progress, in percent. -/
def progressMax : Float := 100

/-- A value lies within two limits, both included; no comparison with a value that is not a number
holds. -/
def within (min max value : Float) : Bool :=
  min ≤ value && value ≤ max

/-- Refuses a value outside of `0` to `max`. -/
def checkRange (quantity : String) (value max : Float) : Except Refusal Unit :=
  if within 0 max value then .ok () else .error (.outOfRange quantity value 0 max)

/-- Refuses a negative value, and one that is not finite. -/
def checkMagnitude (quantity : String) (value : Float) : Except Refusal Unit :=
  if value.isFinite && 0 ≤ value then .ok () else .error (.negative quantity value)

namespace State

/-- The state of a new printer; its home is where the head is. -/
def new (info : Identity) (extruder : Extruder) (heatbed : Heatbed) : State where
  info := info
  extruder := extruder
  heatbed := heatbed
  positioning := .absolute
  units := .millimeters
  enabledMotors := .all
  acceleration := 0
  linearAdvance := 0
  auxTargetTemperature := 0
  feedRate := 3600
  paused := false
  progress := 0
  remainingMinutes := 0
  coldExtrusion := false
  homePosition := extruder.position
  lastKeepalive := none
  attributes := []
  data := []

/-! ### Position -/

/-- Where the head is. -/
def position (s : State) : Point := s.extruder.position

/-- The far corner of the travel volume. -/
def travelLimits (s : State) : Point :=
  ⟨s.heatbed.width, s.heatbed.length, s.extruder.maxZHeight⟩

/-- Refuses a coordinate outside of its range. -/
def checkAxis (axis : Char) (value max : Float) : Except Refusal Unit :=
  if within 0 max value then .ok () else .error (.outOfBounds axis value max)

/-- Refuses a point outside of the travel volume, by the first axis that is out of its range. -/
def checkBounds (s : State) (target : Point) : Except Refusal Unit := do
  checkAxis 'X' target.x s.travelLimits.x
  checkAxis 'Y' target.y s.travelLimits.y
  checkAxis 'Z' target.z s.travelLimits.z

/-- The state with the head at a point. -/
def withPosition (s : State) (p : Point) : State :=
  { s with extruder := { s.extruder with position := p } }

/-- Moves the head; a paused printer refuses first. -/
def moveTo (s : State) (target : Point) : Except Refusal State :=
  if s.paused then .error .paused
  else (s.checkBounds target).map fun _ => s.withPosition target

/-- Takes a point for the current position, without a move; also while paused. -/
def setPosition (s : State) (p : Point) : Except Refusal State :=
  (s.checkBounds p).map fun _ => s.withPosition p

/-- Takes a point for home and for the current position. -/
def setHome (s : State) (p : Point) : Except Refusal State :=
  (s.checkBounds p).map fun _ => { s.withPosition p with homePosition := p }

/-- Sets the size of the bed. -/
def setBedSize (s : State) (width length : Float) : State :=
  { s with heatbed := { s.heatbed with width := width, length := length } }

/-- Sets the height of the travel volume. -/
def setMaxZHeight (s : State) (height : Float) : State :=
  { s with extruder := { s.extruder with maxZHeight := height } }

/-- Sets how move words are understood. -/
def setPositioning (s : State) (mode : Positioning) : State :=
  { s with positioning := mode }

/-- Sets how extruder words are understood. -/
def setExtruderPositioning (s : State) (mode : Positioning) : State :=
  { s with extruder := { s.extruder with positioning := mode } }

/-- Sets the unit of lengths. -/
def setUnits (s : State) (units : Units) : State :=
  { s with units := units }

/-- Sets the feed rate. -/
def setFeedRate (s : State) (rate : Float) : Except Refusal State :=
  (checkMagnitude "feed rate" rate).map fun _ => { s with feedRate := rate }

/-! ### Heaters -/

/-- Sets the hotend target. -/
def setHotendTarget (s : State) (target : Float) : Except Refusal State :=
  (checkRange "hotend temperature" target hotendMax).map fun _ =>
    { s with extruder := { s.extruder with targetTemperature := target } }

/-- Sets the measured hotend temperature. -/
def setHotendTemperature (s : State) (temperature : Float) : Except Refusal State :=
  (checkRange "hotend temperature" temperature hotendMax).map fun _ =>
    { s with extruder := { s.extruder with temperature := temperature } }

/-- Sets the bed target; from then on the bed is heating. -/
def setBedTarget (s : State) (target : Float) : Except Refusal State :=
  (checkRange "bed temperature" target bedMax).map fun _ =>
    { s with heatbed := { s.heatbed with targetTemperature := target, heating := true } }

/-- Sets the measured bed temperature. -/
def setBedTemperature (s : State) (temperature : Float) : Except Refusal State :=
  (checkRange "bed temperature" temperature bedMax).map fun _ =>
    { s with heatbed := { s.heatbed with temperature := temperature } }

/-- Sets whether the bed is heating. -/
def setBedHeating (s : State) (heating : Bool) : State :=
  { s with heatbed := { s.heatbed with heating := heating } }

/-- Sets the target of the auxiliary heater. -/
def setAuxTarget (s : State) (target : Float) : Except Refusal State :=
  (checkRange "auxiliary temperature" target auxMax).map fun _ =>
    { s with auxTargetTemperature := target }

/-! ### Fan, motors and motion settings -/

/-- Sets the fan speed. -/
def setFanSpeed (s : State) (speed : Float) : Except Refusal State :=
  (checkRange "fan speed" speed fanMax).map fun _ =>
    { s with extruder := { s.extruder with fanSpeed := speed } }

/-- Enables motors. -/
def enableMotors (s : State) (motors : Motors) : State :=
  { s with enabledMotors := s.enabledMotors.union motors }

/-- Disables motors. -/
def disableMotors (s : State) (motors : Motors) : State :=
  { s with enabledMotors := s.enabledMotors.diff motors }

/-- Sets the acceleration. -/
def setAcceleration (s : State) (acceleration : Float) : Except Refusal State :=
  (checkMagnitude "acceleration" acceleration).map fun _ =>
    { s with acceleration := acceleration }

/-- Sets the linear advance factor. -/
def setLinearAdvance (s : State) (factor : Float) : Except Refusal State :=
  (checkMagnitude "linear advance factor" factor).map fun _ =>
    { s with linearAdvance := factor }

/-- Sets whether a cold hotend may extrude. -/
def setColdExtrusion (s : State) (allowed : Bool) : State :=
  { s with coldExtrusion := allowed }

/-! ### Job control -/

/-- Pauses the printer. -/
def pause (s : State) : State := { s with paused := true }

/-- Resumes the printer. -/
def resume (s : State) : State := { s with paused := false }

/-- Sets the progress in whole percent, rounded towards zero, and the minutes left. -/
def setProgress (s : State) (percent : Float) (minutes : UInt32) : Except Refusal State :=
  (checkRange "progress" percent progressMax).map fun _ =>
    { s with progress := percent.toUInt8, remainingMinutes := minutes }

/-- Notes a sign of life. -/
def touchKeepalive (s : State) (now : Time.Timestamp) : State :=
  { s with lastKeepalive := some now }

/-! ### Further properties -/

/-- Sets an attribute. -/
def setAttribute (s : State) (key : String) (value : Json.Value) : State :=
  { s with attributes := s.attributes.insert key value }

/-- Sets a datum. -/
def setData (s : State) (key : String) (value : Json.Value) : State :=
  { s with data := s.data.insert key value }

end State

end VirtualPrinter.Machine
