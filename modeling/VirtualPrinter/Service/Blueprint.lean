import VirtualPrinter.Machine.Registry
import VirtualPrinter.Service.Device

/-!
# Building printers

A printer needs an identity, a print head and a bed; further properties may be stored with it.  An
entry of the registry tells all of that, and where it leaves something out the standard is taken.

## Main definitions

* `Service.Blueprint`, and `Blueprint.build`.
* `Device.ofEntry`: the printer of an entry of the registry.
-/

namespace VirtualPrinter.Service

open Machine (Entry Extruder Heatbed Identity Point State)

/-- What a printer is built from. -/
structure Blueprint where
  info : Identity
  extruder : Option Extruder
  heatbed : Option Heatbed
  attributes : List (String × Json.Value)
  data : List (String × Json.Value)

/-- Builds a printer; the first thing that it lacks is reported. -/
def Blueprint.build (b : Blueprint) : Except Error Device :=
  match b.info.check, b.extruder, b.heatbed with
  | .error e, _, _ => .error (.data e)
  | .ok _, none, _ => .error (.invalidConfig "extruder is required")
  | .ok _, some _, none => .error (.invalidConfig "heatbed is required")
  | .ok _, some extruder, some heatbed =>
    let state := State.new b.info extruder heatbed
    let state := b.attributes.foldl (fun s p => s.setAttribute p.1 p.2) state
    let state := b.data.foldl (fun s p => s.setData p.1 p.2) state
    .ok (.ofState state)

/-- The end of every hardware id. -/
def serialNumber : String := "2024-QView3DEmulator"

/-- The description of printers from the registry. -/
def registryDescription : String := "Marlin GCode"

/-- The hardware id of a vendor's product. -/
def hardwareId (vendorId productId : String) : String :=
  "USB VID:PID=" ++ vendorId ++ ":" ++ productId ++ " SER=" ++ serialNumber

namespace Device

/-- The print head of an entry. -/
def extruderOf (e : Entry) : Extruder :=
  let extruder := Extruder.at Point.origin
  match e.number? "height" with
  | some height => { extruder with maxZHeight := height }
  | none => extruder

/-- The bed of an entry: its size counts only if both of its sides are told. -/
def heatbedOf (e : Entry) : Heatbed :=
  match e.number? "width", e.number? "length" with
  | some width, some length => .ofSize width length
  | _, _ => .standard

/-- The data of an entry; a port is made up from the number if none is stored. -/
def dataOf (e : Entry) : List (String × Json.Value) :=
  if (e.data.get? "port").isSome then e.data
  else e.data ++ [("port", .text ("EMU" ++ toString (e.id.toNat % 10)))]

/-- What an entry tells about a printer with a product number. -/
def blueprintOf (e : Entry) (productId : String) (createdAt : Time.Timestamp) : Blueprint where
  info := { Identity.new e.id e.deviceString e.name createdAt with
    description := registryDescription
    hwid := hardwareId e.brand.vendorId productId }
  extruder := some (extruderOf e)
  heatbed := some (heatbedOf e)
  attributes := [("model", .text e.brand.printerModel), ("vendorId", .text e.brand.vendorId)] ++
    e.attributes
  data := dataOf e

/-- The state with the temperature that an entry starts with. -/
def withStartTemperature (e : Entry) (s : State) : Except Machine.Refusal State :=
  match e.number? "startTemp" with
  | some temperature => s.setBedTemperature temperature
  | none => .ok s

/-- The state with the home position of an entry. -/
def withHome (e : Entry) (s : State) : Except Machine.Refusal State :=
  match e.home? with
  | some (x, y, z) => s.setHome ⟨x, y, z⟩
  | none => .ok s

/-- The printer of an entry of the registry. -/
def ofEntry (e : Entry) (createdAt : Time.Timestamp) : Except Error Device :=
  match (e.data.get? "productId").bind valueText? with
  | none => .error (.invalidConfig ("device " ++ toString e.id.toNat ++ " has no productId"))
  | some productId => do
    let d ← (blueprintOf e productId createdAt).build
    let state ← ((withStartTemperature e d.state).bind (withHome e)).mapError
      fun r => Error.invalidConfig r.message
    return { d with state := state }

end Device

end VirtualPrinter.Service
