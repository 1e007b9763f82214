import VirtualPrinter.Machine.Execution
import VirtualPrinter.Machine.Snapshot
import VirtualPrinter.Service.Error
import VirtualPrinter.Service.Streamer
import VirtualPrinter.Wire.Payload

/-!
# Printers in service

A device is a printer with its streamer and the connection it is bound to, if there is one.  It
answers instruction lines; those about reports at an interval concern the streamer, all others the
state alone.

## Main definitions

* `Service.Device`, with `Device.attach` and `Device.detach`.
* `Device.execute`: the answer to an instruction line.
* `Device.registrationEvent`, `Device.serialPortInfo`: what the device tells the peer about itself.
-/

namespace VirtualPrinter.Service

open Time (Span)
open Machine (State)

/-- A printer in service. -/
structure Device where
  /-- The number of the printer; its identity may be changed, its number stays. -/
  id : UInt32
  state : State
  streamer : Streamer
  /-- The connection that the printer is bound to. -/
  binding : Option Nat

/-- What a device finds around it when it executes an instruction. -/
structure Surroundings where
  /-- The time of day. -/
  time : Time.Timestamp
  /-- The time since the start. -/
  now : Span
  /-- Tasks can be started. -/
  runsTasks : Bool

namespace Device

/-- A printer that is not connected. -/
def ofState (state : State) : Device := ⟨state.info.id, state, .new, none⟩

/-- The printer is bound to a connection. -/
def isConnected (d : Device) : Bool := d.binding.isSome

/-- The device for diagnostics. -/
def text (d : Device) : String :=
  "Device \x7b id: " ++ toString d.id.toNat ++ ", connected: " ++ toString d.isConnected ++
    ", telemetry: " ++ toString d.streamer.isRunning ++ " \x7d"

/-! ### Connection and reports -/

/-- Binds a connection; a device is bound to one at most. -/
def attach (d : Device) (connection : Nat) : Except Error Device :=
  if d.isConnected then .error (.alreadyConnected d.id)
  else .ok { d with binding := some connection }

/-- Unbinds a connection, if it is the one that is bound. -/
def detach (d : Device) (connection : Nat) : Device :=
  if d.binding = some connection then { d with binding := none } else d

/-- Ends the reports. -/
def stopTelemetry (d : Device) : Device :=
  { d with streamer := d.streamer.stop }

/-- Leaves a connection: unbinds it and ends the reports, unless another connection is bound. -/
def release (d : Device) (connection : Nat) : Device :=
  if d.binding = some connection then (d.detach connection).stopTelemetry else d

/-- Starts reports on the bound connection, or keeps those that are running. -/
def startTelemetry (d : Device) (here : Surroundings) (interval : Span) : Except Error Device :=
  match d.binding with
  | none => .error (.notConnected d.id)
  | some connection =>
    (d.streamer.request here.runsTasks here.now interval connection).map fun (_, streamer) =>
      { d with streamer := streamer }

/-! ### Instructions -/

/-- An answer that refuses an instruction. -/
def refusal (reason : String) : String := "Error: " ++ reason ++ "\n"

/-- The answer to a command, and the device after it. -/
def perform (d : Device) (here : Surroundings) (c : Gcode.Command) : Device × String :=
  match c with
  | .periodicTelemetry interval =>
    if interval.isZero then (d.stopTelemetry, Machine.okay)
    else match d.startTelemetry here interval with
      | .ok d => (d, Machine.okay)
      | .error e => (d, refusal e.message)
  | c =>
    match Machine.execute here.time d.state c with
    | .ok (state, answer) => ({ d with state := state }, answer)
    | .error e => (d, refusal e.message)

/-- The answer to an instruction line, and the device after it.  A line that holds nothing but a
comment has no answer. -/
def execute (d : Device) (here : Surroundings) (line : List Char) : Device × String :=
  let line := Gcode.stripComment line
  if line.isEmpty then (d, "")
  else match Gcode.Command.parse? line with
    | some c => d.perform here c
    | none => (d, Machine.unknownCommand)

/-! ### What the peer is told -/

/-- The event that registers the printer, with its whole state. -/
def registrationEvent (d : Device) : Wire.Event :=
  .new "registration" d.state.toJson.sorted

/-- A stored value as a text: a text that is not empty, or a number. -/
def valueText? : Json.Value → Option String
  | .text s => if s.isEmpty then none else some s
  | .number n => some (String.ofList n.print)
  | _ => none

/-- The text stored for a key. -/
def storedText (d : Device) (fields : Json.Fields) (key : String) : Except Error String :=
  match (fields.get? key).bind valueText? with
  | some s => .ok s
  | none =>
    .error (.invalidConfig ("device " ++ toString d.id.toNat ++ " has no " ++ key))

/-- The serial port of the printer. -/
def serialPortInfo (d : Device) : Except Error Wire.SerialPortInfo := do
  let productId ← d.storedText d.state.data "productId"
  let vendorId ← d.storedText d.state.attributes "vendorId"
  let port ← d.storedText d.state.data "port"
  return ⟨productId, vendorId, port, d.state.info.hwid⟩

end Device

end VirtualPrinter.Service
