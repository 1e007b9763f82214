import VirtualPrinter.Json.Reader
import VirtualPrinter.Machine.DataError

/-!
# Settings of a fleet

## Main definitions

* `Machine.Settings`: which printers start, and where their server is.
* `Settings.read`, `Settings.toJson`: the stored form.
* `Settings.address`, `Settings.serverUrl`: where to connect.
-/

namespace VirtualPrinter.Machine

/-- Which printers start, and where their server is. -/
structure Settings where
  enabledPrinters : List String
  defaultAddress : String
  defaultPort : UInt16
  startup : String
deriving DecidableEq

namespace Settings

/-- Nothing is set. -/
def empty : Settings := ⟨[], "", 0, ""⟩

/-- The fields of the stored form; each may be left out. -/
def recordFields : List (Json.RecordField Settings) := [
  .of "enabledPrinters" (Json.listOf Json.text) (fun s v => { s with enabledPrinters := v })
    .defaulted,
  .of "defaultAddress" Json.text (fun s v => { s with defaultAddress := v }) .defaulted,
  .of "defaultPort" (Json.natural (Nat.pow 2 16)) (fun s v => { s with defaultPort := v.toUInt16 })
    .defaulted,
  .of "startup" Json.text (fun s v => { s with startup := v }) .defaulted]

/-- Settings from their stored form. -/
def read (text : String) : Except DataError Settings :=
  (Json.read (Json.record recordFields empty) text.toList).mapError .notJson

/-- The stored form. -/
def toJson (s : Settings) : Json.Value :=
  .object [
    ("enabledPrinters", .list (s.enabledPrinters.map .text)),
    ("defaultAddress", .text s.defaultAddress),
    ("defaultPort", .ofNat s.defaultPort.toNat),
    ("startup", .text s.startup)]

/-- Host and port of the server; the standard ones unless both are set. -/
def address (s : Settings) : String :=
  if s.defaultAddress ≠ "" ∧ s.defaultPort ≠ 0 then
    s.defaultAddress ++ ":" ++ toString s.defaultPort.toNat
  else "localhost:8001"

/-- The address of the server as a link. -/
def serverUrl (s : Settings) : String :=
  "ws://" ++ s.address

end Settings

end VirtualPrinter.Machine
