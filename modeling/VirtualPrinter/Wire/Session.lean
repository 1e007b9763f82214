import VirtualPrinter.Wire.Frame

/-!
# Sessions

A session opens once, after the opening frame has been written, and closes once; it counts the
frames in both directions and keeps the name that the peer gives it.

## Main definitions

* `Wire.Session`, with `Session.start` and `Session.close`.
-/

namespace VirtualPrinter.Wire

/-- The stages of a session. -/
inductive SessionState where
  | disconnected
  | running
  | closed
deriving DecidableEq, Repr

/-- The name of a stage. -/
def SessionState.name : SessionState → String
  | .disconnected => "Disconnected"
  | .running => "Open"
  | .closed => "Closed"

/-- A session. -/
structure Session where
  state : SessionState
  sid : Option String
  framesIn : Nat
  framesOut : Nat
deriving DecidableEq

namespace Session

/-- A session before its start. -/
def new : Session := ⟨.disconnected, none, 0, 0⟩

/-- The session is under way. -/
def isOpen (s : Session) : Bool := s.state == .running

/-- The session is over. -/
def isClosed (s : Session) : Bool := s.state == .closed

/-- Starts a session that has not been started. -/
def start (s : Session) : Except Error Session :=
  if s.state = .disconnected then .ok { s with state := .running }
  else .error (.invalidSession ("Cannot open from state: " ++ s.state.name))

/-- Keeps the name that the peer gives. -/
def greet (s : Session) (h : Handshake) : Session :=
  match h.sid with
  | some sid => { s with sid := some sid }
  | none => s

/-- Counts a frame that came in. -/
def touch (s : Session) : Session := { s with framesIn := s.framesIn + 1 }

/-- Counts a frame that went out. -/
def recordOutbound (s : Session) : Session := { s with framesOut := s.framesOut + 1 }

/-- The session as a document. -/
def toJson (s : Session) : Json.Value :=
  .object [
    ("state", .text s.state.name),
    ("open", .bool s.isOpen),
    ("closed", .bool s.isClosed),
    ("sid", (s.sid.map Json.Value.text).getD .null),
    ("in", .ofNat s.framesIn),
    ("out", .ofNat s.framesOut)]

/-- Ends a session. -/
def close (s : Session) : Session := { s with state := .closed }

end Session

end VirtualPrinter.Wire
