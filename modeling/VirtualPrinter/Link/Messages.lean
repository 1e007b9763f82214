import VirtualPrinter.Link.LineReader

/-!
# Frames as web socket messages

Each frame travels as one message.  Control messages are passed over; a closing message is the end.

## Main definitions

* `Link.WebMessage`.
* `Link.receiveMessage`: the text of the next frame.
-/

namespace VirtualPrinter.Link

/-- A message on a web socket. -/
inductive WebMessage where
  | text (text : List Char)
  | binary (octets : List UInt8)
  | ping
  | pong
  | closing
deriving DecidableEq

/-- The octets of a text. -/
def octetLength (text : List Char) : Nat :=
  (text.map Char.utf8Size).foldl (· + ·) 0

/-- A text that is not too long for a frame. -/
def checkSize (text : List Char) : Except Error (List Char) :=
  if maxFrameSize < octetLength text then .error (.frameTooLarge maxFrameSize) else .ok text

/-- The text of the next frame, or none at the end, and the messages behind it.  A socket that is
gone without a closing message is an error. -/
def receiveMessage : List WebMessage → Except Error (Option (List Char)) × List WebMessage
  | [] => (.error (.webSocket "connection reset without closing handshake"), [])
  | .text text :: rest => ((checkSize text).map some, rest)
  | .binary octets :: rest =>
    ((checkSize (Text.Utf8.decode (octets.map UInt8.toNat))).map some, rest)
  | .closing :: rest => (.ok none, rest)
  | .ping :: rest | .pong :: rest => receiveMessage rest

/-- The texts of at most `limit` frames, and how they end. -/
def receiveMessagesWithin : Nat → List WebMessage → List (List Char) × Except Error Unit
  | 0, _ => ([], .ok ())
  | limit + 1, messages =>
    match receiveMessage messages with
    | (.error e, _) => ([], .error e)
    | (.ok none, _) => ([], .ok ())
    | (.ok (some text), rest) =>
      let (texts, ending) := receiveMessagesWithin limit rest
      (text :: texts, ending)

/-- The texts of all frames, and how they end. -/
def receiveMessages (messages : List WebMessage) : List (List Char) × Except Error Unit :=
  receiveMessagesWithin (messages.length + 1) messages

end VirtualPrinter.Link
