import VirtualPrinter.Json.Numeral
import VirtualPrinter.Machine.Storage

/-!
# Why stored data is refused

## Main definitions

* `Machine.DataError`, and its text `DataError.message`.
* `Machine.readStored`: the text of a file, or why there is none.
-/

namespace VirtualPrinter.Machine

/-- Why stored data is refused. -/
inductive DataError where
  | validation (reason : String)
  | parse (reason : String)
  | unreadable (path : String) (cause : ReadFailure)
  | notJson (fault : Json.Fault)
deriving DecidableEq

/-- The name of the kind of refusal. -/
def DataError.name : DataError → String
  | .validation _ => "Validation"
  | .parse _ => "Parse"
  | .unreadable _ _ => "Io"
  | .notJson _ => "Json"

/-- The text of a refusal. -/
def DataError.message : DataError → String
  | .validation reason => "Validation error: " ++ reason
  | .parse reason => "Parse error: " ++ reason
  | .unreadable path cause => "Failed to read " ++ path ++ ": " ++ cause.message
  | .notJson _ => "Invalid JSON"

/-- The text of the file at a path: the content, where one is given. -/
def readStored (path : String) (content : Option String) : Except DataError String :=
  match content with
  | some text => .ok text
  | none => (readPath path).mapError (.unreadable path)

end VirtualPrinter.Machine
