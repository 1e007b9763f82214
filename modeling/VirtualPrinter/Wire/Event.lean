import VirtualPrinter.Wire.Error
import VirtualPrinter.Json.Reader
import VirtualPrinter.Json.Printer

/-!
# Application events

An event has a name and data, and may have a namespace and a message of its own.  Its document is
an object; a document that is not read as it stands is read once more with its apostrophes taken for
quotes.

## Main definitions

* `Wire.Event`, and its kind by name.
* `Event.toJson`, `Event.read`: the document of an event.
-/

namespace VirtualPrinter.Wire

open Json (Value Fault)

/-- An application event. -/
structure Event where
  name : String
  data : Value
  space? : Option String
  message? : Option String

/-- What a printer does about an event. -/
inductive EventKind where
  | registrationRequest
  | command
  | ping
  | pong
  | info
  | error
  | disconnect
  | serialPortRequest
  | unknown
deriving DecidableEq, Repr

/-- The kind of a name; some kinds have an older name too. -/
def EventKind.ofName (name : String) : EventKind :=
  match name with
  | "registration-request" | "printer_connect" => .registrationRequest
  | "command" | "send_gcode" => .command
  | "ping" => .ping
  | "pong" => .pong
  | "info" => .info
  | "error" => .error
  | "disconnect" | "printer_disconnect" => .disconnect
  | "serial-port-request" | "fake_serial_port" => .serialPortRequest
  | _ => .unknown

/-- The name of a kind. -/
def EventKind.name : EventKind → String
  | .registrationRequest => "RegistrationRequest"
  | .command => "Command"
  | .ping => "Ping"
  | .pong => "Pong"
  | .info => "Info"
  | .error => "Error"
  | .disconnect => "Disconnect"
  | .serialPortRequest => "SerialPortRequest"
  | .unknown => "Unknown"

namespace Event

/-- An event with a name and data alone. -/
def new (name : String) (data : Value) : Event :=
  ⟨name, data, none, none⟩

/-- The kind of an event. -/
def kind (e : Event) : EventKind := .ofName e.name

/-- What an event tells a reader: its message, or else data that is a text. -/
def text? (e : Event) : Option String :=
  e.message?.orElse fun _ => e.data.text?

/-- The event in one line. -/
def line (e : Event) : String :=
  "Event[" ++ e.name ++ "]"

/-- Equality of events. -/
def same (a b : Event) : Bool :=
  a.name == b.name && a.data.same b.data && a.space? == b.space? &&
    a.message? == b.message?

/-- The document of an event. -/
def toJson (e : Event) : Value :=
  let optional (key : String) (s : Option String) : List (String × Value) :=
    (s.map fun s => (key, Value.text s)).toList
  .object ([("event", .text e.name), ("data", e.data)] ++ optional "nsp" e.space? ++
    optional "message" e.message?)

/-- The text of an event's document. -/
def print (e : Event) : List Char :=
  e.toJson.print

/-- The fields of an event's document. -/
def recordFields : List (Json.RecordField Event) := [
  .of "event" Json.text (fun e v => { e with name := v }) .required,
  .of "data" Json.value (fun e v => { e with data := v }) .defaulted,
  .of "nsp" (Json.nullable Json.text) (fun e v => { e with space? := v }) .defaulted,
  .of "message" (Json.nullable Json.text) (fun e v => { e with message? := v }) .defaulted]

/-- The event of a document as it stands. -/
def readStrict (text : List Char) : Except Fault Event :=
  Json.read (Json.record recordFields (new "" .null)) text

/-- A text with its apostrophes taken for quotes. -/
def quotesForApostrophes (text : List Char) : List Char :=
  text.map fun c => if c == '\'' then '"' else c

/-- The event of a document.  Where neither reading succeeds the first one's fault is reported. -/
def read (text : List Char) : Except Error Event :=
  match readStrict text with
  | .ok e => .ok e
  | .error fault =>
    if text.contains '\'' then
      match readStrict (quotesForApostrophes text) with
      | .ok e => .ok e
      | .error _ => .error (.notJson fault)
    else .error (.notJson fault)

end Event

end VirtualPrinter.Wire
