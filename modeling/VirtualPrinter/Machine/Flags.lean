import VirtualPrinter.Machine.Geometry
import VirtualPrinter.Text.Blank
import VirtualPrinter.Text.Lines
import VirtualPrinter.Json.Token

/-!
# Reading a set of motors

The text has parts with bars between them, each a motor's letter in capitals or an octet in
hexadecimal behind `0x`; a blank text is the empty set.

## Main definitions

* `Motors.parse?`.
-/

namespace VirtualPrinter.Machine.Motors

/-- An octet in hexadecimal, with an optional plus sign. -/
def octet? (digits : List Char) : Option Motors :=
  let digits := match digits with
    | '+' :: rest => rest
    | _ => digits
  if digits.isEmpty then Option.none
  else do
    let values ← digits.mapM Json.hexDigit?
    let n := values.foldl (fun n d => n * 16 + d) 0
    if n < 256 then some ⟨n.toUInt8⟩ else Option.none

/-- A part of the text. -/
def part? (part : List Char) : Option Motors :=
  match part with
  | '0' :: 'x' :: digits => octet? digits
  | [letter] => named.lookup letter
  | _ => Option.none

/-- The set that a text denotes. -/
def parse? (text : List Char) : Option Motors :=
  if (Text.trim text).isEmpty then some none
  else do
    let parts ← (Text.splitOn '|' text).mapM fun part => part? (Text.trim part)
    return parts.foldl union none

end VirtualPrinter.Machine.Motors
