import VirtualPrinter.Json.Numeral
import VirtualPrinter.Text.Literal

/-!
# Kinds of frames, and why one is refused

## Main definitions

* `Wire.Kind`: the five kinds of frames and their markers.
* `Wire.Error`: why a frame, an event or a change of a session is refused.
* `Error.isRecoverable`: the error concerns the frame at hand alone.
-/

namespace VirtualPrinter.Wire

/-- The kinds of frames. -/
inductive Kind where
  | opening
  | closing
  | ping
  | pong
  | message
deriving DecidableEq, Repr

namespace Kind

/-- The character in front of a frame of the kind. -/
def marker : Kind → Char
  | .opening => '0'
  | .closing => '1'
  | .ping => '2'
  | .pong => '3'
  | .message => '4'

/-- The kind that a character marks. -/
def ofMarker? : Char → Option Kind
  | '0' => some .opening
  | '1' => some .closing
  | '2' => some .ping
  | '3' => some .pong
  | '4' => some .message
  | _ => none

/-- The name of the kind. -/
def name : Kind → String
  | .opening => "Open"
  | .closing => "Close"
  | .ping => "Ping"
  | .pong => "Pong"
  | .message => "Message"

/-- The name in capitals. -/
def capitals (k : Kind) : String :=
  k.name.map Char.toUpper

/-- The name in capitals, and the marker. -/
def text (k : Kind) : String :=
  k.capitals ++ "(" ++ k.marker.toString ++ ")"

/-- A marker marks its own kind, and nothing else does. -/
theorem ofMarker?_eq_some_iff {c : Char} {k : Kind} : ofMarker? c = some k ↔ c = k.marker := by
  constructor
  · intro h
    unfold ofMarker? at h
    split at h <;> simp_all <;> subst h <;> rfl
  · rintro rfl
    cases k <;> rfl

end Kind

/-- Why a frame, an event or a change of a session is refused. -/
inductive Error where
  | emptyFrame
  | unknownMarker (c : Char)
  | missingPayload (kind : Kind)
  | notJson (fault : Json.Fault)
  | invalidPayload (event reason : String)
  | invalidSession (reason : String)
deriving DecidableEq

namespace Error

/-- The name of the kind of error. -/
def name : Error → String
  | .emptyFrame => "EmptyFrame"
  | .unknownMarker _ => "UnknownPacketType"
  | .missingPayload _ => "MissingPayload"
  | .notJson _ => "Json"
  | .invalidPayload _ _ => "InvalidPayload"
  | .invalidSession _ => "InvalidSessionState"

/-- The text of an error. -/
def message : Error → String
  | .emptyFrame => "Empty frame"
  | .unknownMarker c => "Unknown packet type marker: " ++ String.ofList (Text.charLiteral c)
  | .missingPayload kind => kind.text ++ " frame is missing its payload"
  | .notJson _ => "Invalid JSON"
  | .invalidPayload event reason => "Invalid payload for '" ++ event ++ "': " ++ reason
  | .invalidSession reason => "Invalid session state: " ++ reason

/-- The error concerns the frame at hand alone; what follows can still be read. -/
def isRecoverable : Error → Bool
  | .invalidSession _ => false
  | _ => true

end Error

end VirtualPrinter.Wire
