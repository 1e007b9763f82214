import VirtualPrinter.Time.Timestamp
import VirtualPrinter.Text.Blank
import VirtualPrinter.Machine.DataError

/-!
# The identity of a printer

## Main definitions

* `Machine.Identity`: number, model, names and time of creation.
* `Identity.gap?`: a model and a name are needed.
-/

namespace VirtualPrinter.Machine

/-- What a printer is known by. -/
structure Identity where
  id : UInt32
  device : String
  description : String
  hwid : String
  name : String
  status : String
  createdAt : Time.Timestamp
deriving DecidableEq

/-- What an identity lacks. -/
inductive IdentityGap where
  | device
  | name
deriving DecidableEq, Repr

/-- What is missing, in words. -/
def IdentityGap.message : IdentityGap → String
  | .device => "device string must not be empty"
  | .name => "device name must not be empty"

namespace Identity

/-- A new identity, without description and hardware id. -/
def new (id : UInt32) (device name : String) (createdAt : Time.Timestamp) : Identity where
  id := id
  device := device
  description := ""
  hwid := ""
  name := name
  status := "Init"
  createdAt := createdAt

/-- The first thing that an identity lacks: blanks alone are neither a model nor a name. -/
def gap? (i : Identity) : Option IdentityGap :=
  if Text.isBlankText i.device then some .device
  else if Text.isBlankText i.name then some .name
  else none

/-- Refuses an identity that lacks something. -/
def check (i : Identity) : Except DataError Unit :=
  match i.gap? with
  | some gap => .error (.validation gap.message)
  | none => .ok ()

/-- The identity in one line. -/
def text (i : Identity) : String :=
  "Device[" ++ toString i.id.toNat ++ ": " ++ i.name ++ " (" ++ i.device ++ "), HWID: " ++
    i.hwid ++ "]"

end Identity

end VirtualPrinter.Machine
