import VirtualPrinter.Machine.State
import VirtualPrinter.Machine.Flags
import VirtualPrinter.Machine.DataError
import VirtualPrinter.Json.Reader

/-!
# The state of a printer as a document

Every field of the state is written, in the order of its declaration, and every field must be there
when it is read; only the time of the last sign of life may be missing or `null`.

## Main definitions

* `State.toJson`, `State.summary`: the document of a state, and a shorter one.
* `State.reader`, `State.read`, `State.ofValue?`: the state of a document.
-/

namespace VirtualPrinter.Machine

open Json (Value Reader RecordField)

/-- The text of an instant as a value. -/
def timestampValue (t : Time.Timestamp) : Value :=
  .text (String.ofList t.print)

/-- The instant of a text. -/
def timestamp : Reader Time.Timestamp :=
  Json.textAs fun s => Time.Timestamp.parse? s.toList

/-! ### Points and modes -/

/-- The document of a point. -/
def Point.toJson (p : Point) : Value :=
  .object [("x", .ofFloat p.x), ("y", .ofFloat p.y), ("z", .ofFloat p.z)]

/-- The reader of a point. -/
def Point.reader : Reader Point :=
  Json.record [
    .of "x" Json.real (fun p v => { p with x := v }) .required,
    .of "y" Json.real (fun p v => { p with y := v }) .required,
    .of "z" Json.real (fun p v => { p with z := v }) .required] Point.origin

/-- The reader of a way to understand words. -/
def Positioning.reader : Reader Positioning :=
  Json.choice [("absolute", .absolute), ("relative", .relative)]

/-- The reader of a unit. -/
def Units.reader : Reader Units :=
  Json.choice [("mm", .millimeters), ("inches", .inches)]

/-- The reader of a set of motors. -/
def Motors.reader : Reader Motors :=
  Json.textAs fun s => Motors.parse? s.toList

/-! ### Identity, print head and bed -/

/-- The document of an identity. -/
def Identity.toJson (i : Identity) : Value :=
  .object [
    ("id", .ofNat i.id.toNat),
    ("device", .text i.device),
    ("description", .text i.description),
    ("hwid", .text i.hwid),
    ("name", .text i.name),
    ("status", .text i.status),
    ("createdAt", timestampValue i.createdAt)]

/-- The reader of an identity. -/
def Identity.reader : Reader Identity :=
  Json.record [
    .of "id" (Json.natural (Nat.pow 2 32)) (fun i v => { i with id := v.toUInt32 }) .required,
    .of "device" Json.text (fun i v => { i with device := v }) .required,
    .of "description" Json.text (fun i v => { i with description := v }) .required,
    .of "hwid" Json.text (fun i v => { i with hwid := v }) .required,
    .of "name" Json.text (fun i v => { i with name := v }) .required,
    .of "status" Json.text (fun i v => { i with status := v }) .required,
    .of "createdAt" timestamp (fun i v => { i with createdAt := v }) .required]
    (Identity.new 0 "" "" ⟨0, 0⟩)

/-- The document of a print head. -/
def Extruder.toJson (e : Extruder) : Value :=
  .object [
    ("position", e.position.toJson),
    ("temperature", .ofFloat e.temperature),
    ("targetTemperature", .ofFloat e.targetTemperature),
    ("fanSpeed", .ofFloat e.fanSpeed),
    ("positioning", .text e.positioning.name),
    ("maxZHeight", .ofFloat e.maxZHeight)]

/-- The reader of a print head. -/
def Extruder.reader : Reader Extruder :=
  Json.record [
    .of "position" Point.reader (fun e v => { e with position := v }) .required,
    .of "temperature" Json.real (fun e v => { e with temperature := v }) .required,
    .of "targetTemperature" Json.real (fun e v => { e with targetTemperature := v }) .required,
    .of "fanSpeed" Json.real (fun e v => { e with fanSpeed := v }) .required,
    .of "positioning" Positioning.reader (fun e v => { e with positioning := v }) .required,
    .of "maxZHeight" Json.real (fun e v => { e with maxZHeight := v }) .required]
    (Extruder.at Point.origin)

/-- The document of a bed. -/
def Heatbed.toJson (b : Heatbed) : Value :=
  .object [
    ("temperature", .ofFloat b.temperature),
    ("targetTemperature", .ofFloat b.targetTemperature),
    ("heating", .bool b.heating),
    ("width", .ofFloat b.width),
    ("length", .ofFloat b.length)]

/-- The reader of a bed. -/
def Heatbed.reader : Reader Heatbed :=
  Json.record [
    .of "temperature" Json.real (fun b v => { b with temperature := v }) .required,
    .of "targetTemperature" Json.real (fun b v => { b with targetTemperature := v }) .required,
    .of "heating" Json.bool (fun b v => { b with heating := v }) .required,
    .of "width" Json.real (fun b v => { b with width := v }) .required,
    .of "length" Json.real (fun b v => { b with length := v }) .required] Heatbed.standard

/-! ### The whole state -/

namespace State

/-- The document of a state. -/
def toJson (s : State) : Value :=
  .object [
    ("info", s.info.toJson),
    ("extruder", s.extruder.toJson),
    ("heatbed", s.heatbed.toJson),
    ("positioning", .text s.positioning.name),
    ("units", .text s.units.name),
    ("enabledMotors", .text s.enabledMotors.flags),
    ("acceleration", .ofFloat s.acceleration),
    ("linearAdvance", .ofFloat s.linearAdvance),
    ("auxTargetTemperature", .ofFloat s.auxTargetTemperature),
    ("feedRate", .ofFloat s.feedRate),
    ("paused", .bool s.paused),
    ("progress", .ofNat s.progress.toNat),
    ("remainingMinutes", .ofNat s.remainingMinutes.toNat),
    ("coldExtrusion", .bool s.coldExtrusion),
    ("homePosition", s.homePosition.toJson),
    ("lastKeepalive", (s.lastKeepalive.map timestampValue).getD .null),
    ("attributes", .object s.attributes),
    ("data", .object s.data)]

/-- The fields of the document of a state. -/
def recordFields : List (RecordField State) := [
  .of "info" Identity.reader (fun s v => { s with info := v }) .required,
  .of "extruder" Extruder.reader (fun s v => { s with extruder := v }) .required,
  .of "heatbed" Heatbed.reader (fun s v => { s with heatbed := v }) .required,
  .of "positioning" Positioning.reader (fun s v => { s with positioning := v }) .required,
  .of "units" Units.reader (fun s v => { s with units := v }) .required,
  .of "enabledMotors" Motors.reader (fun s v => { s with enabledMotors := v }) .required,
  .of "acceleration" Json.real (fun s v => { s with acceleration := v }) .required,
  .of "linearAdvance" Json.real (fun s v => { s with linearAdvance := v }) .required,
  .of "auxTargetTemperature" Json.real (fun s v => { s with auxTargetTemperature := v })
    .required,
  .of "feedRate" Json.real (fun s v => { s with feedRate := v }) .required,
  .of "paused" Json.bool (fun s v => { s with paused := v }) .required,
  .of "progress" (Json.natural (Nat.pow 2 8)) (fun s v => { s with progress := v.toUInt8 })
    .required,
  .of "remainingMinutes" (Json.natural (Nat.pow 2 32))
    (fun s v => { s with remainingMinutes := v.toUInt32 }) .required,
  .of "coldExtrusion" Json.bool (fun s v => { s with coldExtrusion := v }) .required,
  .of "homePosition" Point.reader (fun s v => { s with homePosition := v }) .required,
  .of "lastKeepalive" (Json.nullable timestamp) (fun s v => { s with lastKeepalive := v })
    .nullable,
  .of "attributes" Json.fields (fun s v => { s with attributes := v }) .required,
  .of "data" Json.fields (fun s v => { s with data := v }) .required]

/-- The reader of a state. -/
def reader : Reader State :=
  Json.record recordFields
    (State.new (Identity.new 0 "" "" ⟨0, 0⟩) (Extruder.at Point.origin) Heatbed.standard)

/-- The state of a document. -/
def read (text : String) : Except DataError State :=
  (Json.read reader text.toList).mapError .notJson

/-- The state of a document that has been read as a value. -/
def ofValue? (v : Value) : Option State :=
  (Json.readValue reader v).toOption

/-- The document of a state without what identifies the printer and without its free properties; of
the last sign of life it tells only whether there was one. -/
def summary (s : State) : Value :=
  match s.toJson with
  | .object fields =>
    .object (fields.filterMap fun (key, v) =>
      if ["info", "attributes", "data"].contains key then none
      else if key == "lastKeepalive" then some (key, .bool s.lastKeepalive.isSome)
      else some (key, v))
  | v => v

end State

end VirtualPrinter.Machine
