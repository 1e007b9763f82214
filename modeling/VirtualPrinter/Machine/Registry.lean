import VirtualPrinter.Json.Reader
import VirtualPrinter.Machine.DataError
import VirtualPrinter.Text.Blank

/-!
# The registry of printers

A registry is a list of entries.  Further properties of an entry are free, and a few of them are
understood: the size of the travel volume, a starting temperature, and a home position.

## Main definitions

* `Machine.Brand`, `Machine.Entry`: an entry of the registry.
* `Entry.deviceString`, `Entry.number?`, `Entry.home?`: what is read off an entry.
* `Machine.readRegistry`, `Entry.toJson`: the stored form.
-/

namespace VirtualPrinter.Machine

/-- Who made a printer. -/
structure Brand where
  printerName : String
  printerModel : String
  vendorId : String

/-- An entry of the registry. -/
structure Entry where
  id : UInt32
  name : String
  brand : Brand
  data : Json.Fields
  attributes : Json.Fields

namespace Entry

/-- Nothing is set. -/
def empty : Entry := ⟨0, "", ⟨"", "", ""⟩, [], []⟩

/-- Maker and model. -/
def deviceString (e : Entry) : String :=
  String.ofList (Text.trim (e.brand.printerName ++ " " ++ e.brand.printerModel).toList)

/-- The number stored for a key. -/
def number? (e : Entry) (key : String) : Option Float :=
  (e.data.get? key).bind (·.float?)

/-- The home position, if exactly three numbers are stored for it. -/
def home? (e : Entry) : Option (Float × Float × Float) := do
  match ← (← e.data.get? "homePos").items? with
  | [x, y, z] => return (← x.float?, ← y.float?, ← z.float?)
  | _ => none

/-- The fields of a brand; each may be left out. -/
def brandFields : List (Json.RecordField Brand) := [
  .of "printerName" Json.text (fun b v => { b with printerName := v }) .defaulted,
  .of "printerModel" Json.text (fun b v => { b with printerModel := v }) .defaulted,
  .of "vendorId" Json.text (fun b v => { b with vendorId := v }) .defaulted]

/-- The fields of an entry; each may be left out. -/
def recordFields : List (Json.RecordField Entry) := [
  .of "id" (Json.natural (Nat.pow 2 32)) (fun e v => { e with id := v.toUInt32 }) .defaulted,
  .of "name" Json.text (fun e v => { e with name := v }) .defaulted,
  .of "brand" (Json.record brandFields empty.brand) (fun e v => { e with brand := v }) .defaulted,
  .of "data" Json.fields (fun e v => { e with data := v }) .defaulted,
  .of "attributes" Json.fields (fun e v => { e with attributes := v }) .defaulted]

/-- The stored form. -/
def toJson (e : Entry) : Json.Value :=
  .object [
    ("id", .ofNat e.id.toNat),
    ("name", .text e.name),
    ("brand", .object [
      ("printerName", .text e.brand.printerName),
      ("printerModel", .text e.brand.printerModel),
      ("vendorId", .text e.brand.vendorId)]),
    ("data", .object e.data),
    ("attributes", .object e.attributes)]

end Entry

/-- A registry from its stored form. -/
def readRegistry (text : String) : Except DataError (List Entry) :=
  (Json.read (Json.listOf (Json.record Entry.recordFields Entry.empty)) text.toList).mapError
    .notJson

end VirtualPrinter.Machine
