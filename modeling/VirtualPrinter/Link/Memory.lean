import VirtualPrinter.Link.Error
import VirtualPrinter.Link.Pipe

/-!
# Links in memory

A link in memory is two pipes between a client and its peer.  The client takes its side once; the
peer has its own side from the start and may write before.

## Main definitions

* `Link.Memory`, with `Memory.connect`.
* `Memory.write`, `Memory.closeWriter`, `Memory.dropClient`: the client's side.
* `Memory.peerWrite`, `Memory.peerTakeFirst`, `Memory.dropPeer`: the peer's side.
-/

namespace VirtualPrinter.Link

/-- The number of texts that a pipe of a link in memory holds. -/
def memoryCapacity : Nat := 256

/-- A link in memory. -/
structure Memory where
  toPeer : Pipe String
  toClient : Pipe String
  /-- The client has taken its side. -/
  taken : Bool
deriving DecidableEq

/-- What becomes of a text that is written to a link. -/
inductive Written (α : Type) where
  | done (link : α)
  | waiting
  | failed (e : Error)

namespace Memory

/-- A link that nobody has used. -/
def new : Memory := ⟨.new memoryCapacity, .new memoryCapacity, false⟩

/-! ### The client -/

/-- The client takes its side. -/
def connect (m : Memory) : Except Error Memory :=
  if m.taken then .error (.connectFailed "memory transport already connected")
  else .ok { m with taken := true }

/-- The client writes a text. -/
def write (m : Memory) (text : String) : Written Memory :=
  if !m.toPeer.sending then .failed .notConnected
  else match m.toPeer.put text with
    | .entered pipe => .done { m with toPeer := pipe }
    | .full => .waiting
    | .refused => .failed .connectionClosed

/-- The client takes a text. -/
def read (m : Memory) : Take String := m.toClient.take

/-- The link after the client has taken a text. -/
def withToClient (m : Memory) (pipe : Pipe String) : Memory := { m with toClient := pipe }

/-- The client writes nothing more. -/
def closeWriter (m : Memory) : Memory := { m with toPeer := m.toPeer.stopSending }

/-- The client reads nothing more. -/
def closeReader (m : Memory) : Memory := { m with toClient := m.toClient.dropTaker }

/-- The client leaves. -/
def dropClient (m : Memory) : Memory := m.closeWriter.closeReader

/-! ### The peer -/

/-- The peer writes a text. -/
def peerWrite (m : Memory) (text : String) : Written Memory :=
  match m.toClient.put text with
  | .entered pipe => .done { m with toClient := pipe }
  | .full => .waiting
  | .refused => .failed .connectionClosed

/-- The first of the texts that has a meaning, and the texts behind it. -/
def firstOf {α : Type} (meaning : String → Option α) : List String → Option α × List String
  | [] => (none, [])
  | text :: rest =>
    match meaning text with
    | some x => (some x, rest)
    | none => firstOf meaning rest

/-- The peer takes texts up to the first that has a meaning. -/
def peerTakeFirst {α : Type} (m : Memory) (meaning : String → Option α) : Option α × Memory :=
  let (found, rest) := firstOf meaning m.toPeer.items
  (found, { m with toPeer := { m.toPeer with items := rest } })

/-- The peer takes all texts. -/
def peerTakeAll (m : Memory) : List String × Memory :=
  (m.toPeer.items, { m with toPeer := { m.toPeer with items := [] } })

/-- The peer leaves. -/
def dropPeer (m : Memory) : Memory :=
  { m with toPeer := m.toPeer.dropTaker, toClient := m.toClient.stopSending }

end Memory

end VirtualPrinter.Link
