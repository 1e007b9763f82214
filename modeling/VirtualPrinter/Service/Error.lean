import VirtualPrinter.Link.Error
import VirtualPrinter.Machine.DataError

/-!
# Why a printer is not served

## Main definitions

* `Service.Error`, and its text `Error.message`.
-/

namespace VirtualPrinter.Service

/-- Why a printer is not built, not connected or not heard. -/
inductive Error where
  | wire (e : Wire.Error)
  | link (e : Link.Error)
  | data (e : Machine.DataError)
  | notConnected (id : UInt32)
  | alreadyConnected (id : UInt32)
  | invalidConfig (reason : String)
  | queueClosed
  | queueFull
  | noRuntime
deriving DecidableEq

/-- The name of the kind of error. -/
def Error.name : Error → String
  | .wire e => "Core." ++ e.name
  | .link e => "Transport." ++ e.name
  | .data e => "Types." ++ e.name
  | .notConnected _ => "NotConnected"
  | .alreadyConnected _ => "AlreadyConnected"
  | .invalidConfig _ => "InvalidConfig"
  | .queueClosed => "QueueClosed"
  | .queueFull => "QueueFull"
  | .noRuntime => "NoRuntime"

/-- The text of an error. -/
def Error.message : Error → String
  | .wire e => "Core protocol error: " ++ e.message
  | .link e => "Transport error: " ++ e.message
  | .data e => "Type error: " ++ e.message
  | .notConnected id => "Device " ++ toString id.toNat ++ " not connected"
  | .alreadyConnected id => "Device " ++ toString id.toNat ++ " already has a live connection"
  | .invalidConfig reason => "Invalid device configuration: " ++ reason
  | .queueClosed => "Send queue closed"
  | .queueFull => "Job queue full"
  | .noRuntime => "No async runtime available"

end VirtualPrinter.Service
