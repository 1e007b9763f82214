import VirtualPrinter.Link.Error
import VirtualPrinter.Text.Literal

/-!
# Where a link leads

## Main definitions

* `Link.Endpoint`, and `Endpoint.web?`: only web socket addresses are taken.
* `Endpoint.remote`: the endpoint as text.
-/

namespace VirtualPrinter.Link

/-- Where a link leads. -/
inductive Endpoint where
  | socket (host : String) (port : UInt16)
  | web (url : String)
  | memory
deriving DecidableEq

namespace Endpoint

/-- The endpoint of a web socket address. -/
def web? (url : String) : Except Error Endpoint :=
  if "ws://".toList.isPrefixOf url.toList || "wss://".toList.isPrefixOf url.toList then
    .ok (.web url)
  else .error (.invalidAddress url)

/-- The endpoint as text. -/
def remote : Endpoint → String
  | .socket host port => host ++ ":" ++ toString port.toNat
  | .web url => url
  | .memory => "memory"

/-- A connection to the endpoint, for diagnostics. -/
def diagnostic (e : Endpoint) : String :=
  "FramedConnection \x7b remote_addr: " ++ String.ofList (Text.stringLiteral e.remote.toList) ++
    ", .. \x7d"

end Endpoint

end VirtualPrinter.Link
