import VirtualPrinter.Wire.Error

/-!
# Why a link fails

## Main definitions

* `Link.Error`, and `Error.message`.
* `Error.isRetryable`: another attempt to connect may succeed.
-/

namespace VirtualPrinter.Link

/-- Why a link cannot be made, or no longer carries frames. -/
inductive Error where
  | notConnected
  | connectFailed (reason : String)
  | connectionTimeout
  | readTimeout
  | connectionClosed
  | frameTooLarge (limit : Nat)
  | system (reason : String)
  | webSocket (reason : String)
  | wire (e : Wire.Error)
  | invalidAddress (text : String)
  | retriesExhausted (attempts : Nat)
  | cancelled
deriving DecidableEq

namespace Error

/-- The name of the kind of error. -/
def name : Error → String
  | .notConnected => "NotConnected"
  | .connectFailed _ => "ConnectFailed"
  | .connectionTimeout => "ConnectionTimeout"
  | .readTimeout => "ReadTimeout"
  | .connectionClosed => "ConnectionClosed"
  | .frameTooLarge _ => "FrameTooLarge"
  | .system _ => "Io"
  | .webSocket _ => "WebSocket"
  | .wire e => "Protocol." ++ e.name
  | .invalidAddress _ => "InvalidAddress"
  | .retriesExhausted _ => "RetriesExhausted"
  | .cancelled => "Cancelled"

/-- The text of an error. -/
def message : Error → String
  | .notConnected => "Not connected"
  | .connectFailed reason => "Connect failed: " ++ reason
  | .connectionTimeout => "Connection timeout"
  | .readTimeout => "Read timeout"
  | .connectionClosed => "Connection closed by remote"
  | .frameTooLarge limit => "Frame exceeds " ++ toString limit ++ " bytes"
  | .system reason => "I/O error: " ++ reason
  | .webSocket reason => "WebSocket error: " ++ reason
  | .wire e => "Protocol error: " ++ e.message
  | .invalidAddress text => "Invalid address: " ++ text
  | .retriesExhausted attempts => "Gave up after " ++ toString attempts ++ " connect attempts"
  | .cancelled => "Connect cancelled"

/-- Another attempt to connect may succeed. -/
def isRetryable : Error → Bool
  | .connectFailed _ | .connectionTimeout | .connectionClosed | .system _ | .webSocket _ => true
  | _ => false

end Error

end VirtualPrinter.Link
