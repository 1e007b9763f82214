import VirtualPrinter.Wire.Event
import VirtualPrinter.Decimal.Reading
import VirtualPrinter.Text.Blank
import VirtualPrinter.Text.Literal

/-!
# The data of events

A command names a printer, by a text or a number, and an instruction; answers, errors and serial
port details are written by the printer.  Each is an object, whose fields are looked at in the order
of their keys, or a list of its fields.

## Main definitions

* `Wire.DeviceId`: a printer as named by the peer, and `DeviceId.denotes`.
* `Wire.CommandRequest`, `CommandResponse`, `ErrorPayload`, `SerialPortInfo`.
* `Wire.Gap`: why data is not what was asked for.
* `CommandRequest.ofEvent`: the command of an event.
-/

namespace VirtualPrinter.Wire

open Json (Value)

/-! ### Printers as named by the peer -/

/-- A printer as named by the peer. -/
structure DeviceId where
  text : String
deriving DecidableEq

namespace DeviceId

/-- The name of the printer with a number. -/
def ofNat (n : Nat) : DeviceId := ⟨toString n⟩

/-- A natural number below `2 ^ 32`, with an optional plus sign. -/
def natural? (text : List Char) : Option Nat :=
  let digits := match text with
    | '+' :: rest => rest
    | _ => text
  if digits.isEmpty || !digits.all Char.isDigit then none
  else
    let n := Decimal.ofDigits digits
    if n < Nat.pow 2 32 then some n else none

/-- The name means the printer with a number: it is that number, between blanks, or a decimal with
the same value. -/
def denotes (d : DeviceId) (id : UInt32) : Bool :=
  let text := Text.trim d.text.toList
  match natural? text with
  | some n => n == id.toNat
  | none =>
    match Decimal.read? text with
    | some x => x == Float.ofNat id.toNat
    | none => false

end DeviceId

/-! ### Reading data -/

/-- Why data is not what was asked for. -/
inductive Gap where
  | wrongType (found : Value) (expected : String)
  | missingField (name : String)
  | duplicateField (name : String)
  | tooShort (length : Nat) (type : String) (arity : Nat)
  | tooLong (length : Nat)
  | noDeviceId
  | blankDeviceId
  | blankInstruction

/-- A value in a diagnostic: its type and, where it is short, itself. -/
def describeValue : Value → String
  | .null => "null"
  | .bool true => "boolean `true`"
  | .bool false => "boolean `false`"
  | .number (.int i) => "integer `" ++ String.ofList (Json.printInt i) ++ "`"
  | .number (.real x) => "floating point `" ++ String.ofList (Json.Number.print (.real x)) ++ "`"
  | .text s => "string " ++ String.ofList (Text.stringLiteral s.toList)
  | .list _ => "sequence"
  | .object _ => "map"

/-- The text of a gap. -/
def Gap.message : Gap → String
  | .wrongType found expected =>
    "invalid type: " ++ describeValue found ++ ", expected " ++ expected
  | .missingField name => "missing field `" ++ name ++ "`"
  | .duplicateField name => "duplicate field `" ++ name ++ "`"
  | .tooShort length type arity =>
    "invalid length " ++ toString length ++ ", expected struct " ++ type ++ " with " ++
      toString arity ++ " elements"
  | .tooLong length =>
    "invalid length " ++ toString length ++ ", expected fewer elements in array"
  | .noDeviceId => "data did not match any variant of untagged enum Raw"
  | .blankDeviceId => "empty deviceId"
  | .blankInstruction => "empty instruction"

/-- A field of a payload under construction: its name, the older name it may go by, whether it may
be left out, and how its value enters the payload. -/
structure PayloadField (σ : Type) where
  name : String
  older? : Option String
  optional : Bool
  read : σ → Value → Except Gap σ

namespace PayloadField

/-- The key is one of the field's names. -/
def hasKey {σ : Type} (f : PayloadField σ) (key : String) : Bool :=
  key == f.name || f.older? == some key

end PayloadField

/-- The fields of an object, in the order of their keys; unknown ones are passed over. -/
def readEntries {σ : Type} (fs : List (PayloadField σ)) :
    σ → List String → List (String × Value) → Except Gap (σ × List String)
  | s, seen, [] => .ok (s, seen)
  | s, seen, (key, v) :: rest =>
    match fs.find? (·.hasKey key) with
    | none => readEntries fs s seen rest
    | some f =>
      if seen.contains f.name then .error (.duplicateField f.name)
      else do
        let s ← f.read s v
        readEntries fs s (f.name :: seen) rest

/-- The items of a list, one for each field in order. -/
def readItems {σ : Type} (type : String) (arity : Nat) :
    List (PayloadField σ) → Nat → σ → List Value → Except Gap σ
  | [], n, s, rest => if rest.isEmpty then .ok s else .error (.tooLong (n + rest.length))
  | f :: fs, n, s, v :: rest => do
    let s ← f.read s v
    readItems type arity fs (n + 1) s rest
  | f :: fs, n, s, [] =>
    if f.optional then readItems type arity fs (n + 1) s [] else .error (.tooShort n type arity)

/-- A payload: an object that has every field that may not be left out, or a list. -/
def readPayload {σ : Type} (type : String) (fs : List (PayloadField σ)) (start : σ) :
    Value → Except Gap σ
  | .object fields => do
    let (s, seen) ← readEntries fs start [] fields
    match fs.find? (fun f => !f.optional && !seen.contains f.name) with
    | some f => .error (.missingField f.name)
    | none => .ok s
  | .list items => readItems type fs.length fs 0 start items
  | v => .error (.wrongType v ("struct " ++ type))

/-- A text. -/
def readText : Value → Except Gap String
  | .text s => .ok s
  | v => .error (.wrongType v "a string")

/-- A printer as named by the peer: a text, or a number by its text. -/
def readDeviceId : Value → Except Gap DeviceId
  | .text s => .ok ⟨s⟩
  | .number n => .ok ⟨String.ofList n.print⟩
  | _ => .error .noDeviceId

/-- A field that holds a text. -/
def PayloadField.text {σ : Type} (name : String) (older? : Option String) (set : σ → String → σ) :
    PayloadField σ :=
  ⟨name, older?, false, fun s v => (readText v).map (set s)⟩

/-- A field that names a printer. -/
def PayloadField.deviceId {σ : Type} (older? : Option String) (set : σ → DeviceId → σ) :
    PayloadField σ :=
  ⟨"deviceId", older?, false, fun s v => (readDeviceId v).map (set s)⟩

/-! ### The payloads -/

/-- The data of a command. -/
structure CommandRequest where
  deviceId : DeviceId
  instruction : String
deriving DecidableEq

/-- The data of an answer to a command. -/
structure CommandResponse where
  deviceId : DeviceId
  response : String
deriving DecidableEq

/-- The data of an error. -/
structure ErrorPayload where
  deviceId : Option DeviceId
  message : String
deriving DecidableEq

/-- The data of a printer's serial port. -/
structure SerialPortInfo where
  productId : String
  vendorId : String
  port : String
  hwid : String
deriving DecidableEq

/-- The error of data that is not what was asked for. -/
def Gap.ofEvent (e : Event) (gap : Gap) : Error :=
  .invalidPayload e.name gap.message

namespace CommandRequest

/-- The fields of a command; each may go by an older name. -/
def payloadFields : List (PayloadField CommandRequest) := [
  .deviceId (some "printerid") (fun r v => { r with deviceId := v }),
  .text "instruction" (some "gcode") (fun r v => { r with instruction := v })]

/-- The command that data holds; neither part may be blank. -/
def ofValue (v : Value) : Except Gap CommandRequest := do
  let r ← readPayload "CommandRequest" payloadFields ⟨⟨""⟩, ""⟩ v
  if Text.isBlankText r.deviceId.text then .error .blankDeviceId
  else if Text.isBlankText r.instruction then .error .blankInstruction
  else .ok r

/-- The command of an event. -/
def ofEvent (e : Event) : Except Error CommandRequest :=
  (ofValue e.data).mapError (Gap.ofEvent e)

/-- The event of a command. -/
def toEvent (r : CommandRequest) : Event :=
  .new "command"
    (.object [("deviceId", .text r.deviceId.text), ("instruction", .text r.instruction)])

end CommandRequest

namespace CommandResponse

/-- The fields of an answer. -/
def payloadFields : List (PayloadField CommandResponse) := [
  .deviceId none (fun r v => { r with deviceId := v }),
  .text "response" none (fun r v => { r with response := v })]

/-- The answer of an event. -/
def ofEvent (e : Event) : Except Error CommandResponse :=
  (readPayload "CommandResponse" payloadFields ⟨⟨""⟩, ""⟩ e.data).mapError (Gap.ofEvent e)

/-- The event of an answer. -/
def toEvent (r : CommandResponse) : Event :=
  .new "command-response"
    (.object [("deviceId", .text r.deviceId.text), ("response", .text r.response)])

end CommandResponse

namespace ErrorPayload

/-- The fields of an error; the printer may be left out, or be `null`. -/
def payloadFields : List (PayloadField ErrorPayload) := [
  ⟨"deviceId", none, true, fun r v =>
    match v with
    | .null => .ok { r with deviceId := none }
    | v => (readDeviceId v).map fun d => { r with deviceId := some d }⟩,
  .text "message" none (fun r v => { r with message := v })]

/-- The error of an event. -/
def ofEvent (e : Event) : Except Error ErrorPayload :=
  (readPayload "ErrorPayload" payloadFields ⟨none, ""⟩ e.data).mapError (Gap.ofEvent e)

/-- The event of an error. -/
def toEvent (r : ErrorPayload) : Event :=
  .new "error" (.object ((r.deviceId.map fun d => ("deviceId", Value.text d.text)).toList ++
    [("message", .text r.message)]))

end ErrorPayload

namespace SerialPortInfo

/-- The fields of a serial port. -/
def payloadFields : List (PayloadField SerialPortInfo) := [
  .text "productId" none (fun r v => { r with productId := v }),
  .text "vendorId" none (fun r v => { r with vendorId := v }),
  .text "port" none (fun r v => { r with port := v }),
  .text "hwid" none (fun r v => { r with hwid := v })]

/-- The serial port of an event. -/
def ofEvent (e : Event) : Except Error SerialPortInfo :=
  (readPayload "SerialPortInfo" payloadFields ⟨"", "", "", ""⟩ e.data).mapError (Gap.ofEvent e)

/-- The event of a serial port. -/
def toEvent (r : SerialPortInfo) : Event :=
  .new "serial-port" (.object [("hwid", .text r.hwid), ("port", .text r.port),
    ("productId", .text r.productId), ("vendorId", .text r.vendorId)])

end SerialPortInfo

end VirtualPrinter.Wire
