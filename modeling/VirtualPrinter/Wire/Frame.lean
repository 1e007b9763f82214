import VirtualPrinter.Wire.Event
import VirtualPrinter.Text.Blank

/-!
# Frames

A frame is one character for its kind and the payload behind it, if there is one; line ends behind a
frame do not count.  A message frame carries the document of an event.  The word `close` stands for
a closing frame.

## Main definitions

* `Wire.Frame`, with `Frame.encode` and `Frame.decode`.
* `Frame.event`: the event of a message frame.
* `Frame.handshake?`: the session parameters that an opening frame may carry.
-/

namespace VirtualPrinter.Wire

/-- A frame: its kind, and its payload. -/
structure Frame where
  kind : Kind
  payload : Option String
deriving DecidableEq

/-- The session parameters that an opening frame may carry. -/
structure Handshake where
  sid : Option String
  pingInterval : Option Nat
  pingTimeout : Option Nat
deriving DecidableEq

/-- The fields of session parameters; each may be left out. -/
def Handshake.recordFields : List (Json.RecordField Handshake) := [
  .of "sid" (Json.nullable Json.text) (fun h v => { h with sid := v }) .defaulted,
  .of "pingInterval" (Json.nullable (Json.natural (Nat.pow 2 64)))
    (fun h v => { h with pingInterval := v }) .defaulted,
  .of "pingTimeout" (Json.nullable (Json.natural (Nat.pow 2 64)))
    (fun h v => { h with pingTimeout := v }) .defaulted]

namespace Frame

/-- The frame that opens a session. -/
def opening : Frame := ⟨.opening, none⟩

/-- The frame that closes a session. -/
def closing : Frame := ⟨.closing, none⟩

/-- The answer to a ping, with its payload. -/
def pongFor (ping : Frame) : Frame := ⟨.pong, ping.payload⟩

/-- The frame of an event. -/
def message (e : Event) : Frame := ⟨.message, some (String.ofList e.print)⟩

/-- The characters of a frame. -/
def encode (f : Frame) : List Char :=
  f.kind.marker :: (f.payload.getD "").toList

/-- The word that stands for a closing frame. -/
def closeWord : List Char := ['c', 'l', 'o', 's', 'e']

/-- A line end. -/
def isLineEnd (c : Char) : Bool := c == '\r' || c == '\n'

/-- A text without the line ends behind it. -/
def withoutLineEnds (text : List Char) : List Char :=
  Text.dropEndWhile isLineEnd text

/-- The frame of a text that has no line end behind it. -/
def decodeTrimmed (text : List Char) : Except Error Frame :=
  if text = closeWord then .ok closing
  else match text with
    | [] => .error .emptyFrame
    | c :: rest =>
      match Kind.ofMarker? c with
      | none => .error (.unknownMarker c)
      | some kind =>
        let payload := if rest.isEmpty then none else some (String.ofList rest)
        if kind = .message ∧ payload = none then .error (.missingPayload kind)
        else .ok ⟨kind, payload⟩

/-- The frame of a text. -/
def decode (text : List Char) : Except Error Frame :=
  decodeTrimmed (withoutLineEnds text)

/-- The event of a message frame. -/
def event (f : Frame) : Except Error Event :=
  match f.kind, f.payload with
  | .message, some payload => Event.read payload.toList
  | kind, _ => .error (.missingPayload kind)

/-- The session parameters of an opening frame, if its payload holds any. -/
def handshake? (f : Frame) : Option Handshake :=
  match f.kind, f.payload with
  | .opening, some payload =>
    (Json.read (Json.record Handshake.recordFields ⟨none, none, none⟩) payload.toList).toOption
  | _, _ => none

/-- The octets of the payload. -/
def payloadSize (f : Frame) : Nat :=
  (f.payload.getD "").utf8ByteSize

/-- The frame in one line. -/
def line (f : Frame) : String :=
  "Frame[" ++ f.kind.text ++ "](len=" ++ toString f.payloadSize ++ ")"

/-- The frame in one line, for diagnostics. -/
def diagnostic (f : Frame) : String :=
  "Frame \x7b packet_type: " ++ f.kind.name ++ ", payload_len: " ++ toString f.payloadSize ++
    " \x7d"

end Frame

end VirtualPrinter.Wire
