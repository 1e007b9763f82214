import VirtualPrinter.Service.World

/-!
# What happens to one connection

A connection changes by the steps of its own tasks and by what the application, the peer and the
streams of the printer do to it.  Each such change is a move.  A move carries what its task finds
around it, so that a connection can be followed without the world it lives in: the time, the printer,
and whether a shutdown has been ordered.

## Main definitions

* `Service.Move`, and `Connection.after`: the connection after a move, if it can be made.
* `Connection.accepted`: the frame that a producer is told to have entered the send queue.
* `Connection.written`, `Connection.breaks`: the text that the writer gets to the link, and whether
  the link fails.
* `Connection.received`, `Connection.heardText`: the text that the peer takes, and the one it sends.
-/

namespace VirtualPrinter.Service

open Link (Pipe)
open Time (Span)
open Wire (Frame)

/-- A change of a connection. -/
inductive Move where
  | read (here : Surroundings) (cancelled : Bool) (d : Device)
  | consume (here : Surroundings) (cancelled : Bool) (d : Device)
  | write (cancelled : Bool)
  | watch (now : Span) (cancelled : Bool)
  | supervise
  | cancel
  /-- A frame is offered by somebody who does not wait, whether or not it enters. -/
  | offer (f : Frame)
  /-- A holder of the connection outside of its tasks gets in line for room. -/
  | joinLine
  /-- The frame of somebody outside who is in line is offered. -/
  | offerInLine (f : Frame)
  /-- Somebody outside who is in line gives up. -/
  | leaveLine
  /-- The peer sends a text. -/
  | hear (text : String)
  /-- The peer takes a text. -/
  | deliver
  /-- The peer leaves. -/
  | hangUp
  /-- Something happens elsewhere. -/
  | idle

/-- The peer leaves. -/
def Move.isHangUp : Move → Bool
  | .hangUp => true
  | _ => false

/-- What becomes of the frame that a duty offers. -/
def Duty.offered (duty : Duty) (queue : Pipe Frame) (f : Frame) : Link.Put Frame :=
  if duty.waits then queue.putInLine f else queue.put f

/-- The frame that a duty gets into the send queue. -/
def Duty.accepted (duty : Duty) (queue : Pipe Frame) : Option Frame :=
  match duty.reply with
  | none => none
  | some f =>
    match duty.offered queue f with
    | .entered _ => some f
    | .full | .refused => none

namespace Connection

/-- The text of the frame that the writer is about to write, if it is about to write one. -/
def nextText (c : Connection) : Option String :=
  match c.writer with
  | .writing f | .flushing f => some (String.ofList f.encode)
  | .parting => some (String.ofList Frame.closing.encode)
  | .listening | .draining | .done => none

/-- The connection after a move, if it can be made. -/
def after (c : Connection) : Move → Option Connection
  | .read here cancelled d => (c.stepReader here cancelled d).map (·.1)
  | .consume here cancelled d =>
    (c.station.stepConsumer here cancelled d).map fun s => { c with station := s.1 }
  | .write cancelled => c.stepWriter cancelled
  | .watch now cancelled => c.stepWatch now cancelled
  | .supervise => some { c with session := c.session.close, released := true }
  | .cancel => some c.cancel
  | .offer f =>
    match c.station.tryEnqueue f with
    | .ok (_, station) => some { c with station := station }
    | .error _ => some c
  | .joinLine =>
    if c.station.queue.receiving then some (c.withQueue c.station.queue.joinLine) else none
  | .offerInLine f =>
    match c.station.queue.putInLine f with
    | .entered queue => some (c.withQueue queue)
    | .full | .refused => none
  | .leaveLine => some (c.withQueue c.station.queue.leaveLine)
  | .hear text =>
    match c.link.peerWrite text with
    | .done link => some { c with link := link }
    | .waiting | .failed _ => none
  | .deliver =>
    match c.link.toPeer.take with
    | .item _ pipe => some { c with link := { c.link with toPeer := pipe } }
    | .waiting | .ended => none
  | .hangUp => some { c with link := c.link.dropPeer }
  | .idle => some c

/-- The frame that a producer is told to have entered the send queue. -/
def accepted (c : Connection) : Move → Option Frame
  | .read _ _ _ =>
    match c.reader with
    | .working duty => duty.accepted c.station.queue
    | .listening | .done => none
  | .consume _ _ _ =>
    match c.station.consumer with
    | .working duty => duty.accepted c.station.queue
    | .absent | .listening | .done => none
  | .watch now cancelled =>
    match c.watch with
    | .starting | .done => none
    | .ticking k =>
      if cancelled || now < k.due.nextMilli then none
      else match k.tick c.keepaliveInterval c.keepaliveTimeout now c.session.framesIn with
        | none => none
        | some _ =>
          match c.station.tryEnqueue keepaliveFrame with
          | .ok (true, _) => some keepaliveFrame
          | _ => none
  | .offer f =>
    match c.station.tryEnqueue f with
    | .ok (true, _) => some f
    | _ => none
  | .offerInLine f =>
    match c.station.queue.putInLine f with
    | .entered _ => some f
    | .full | .refused => none
  | _ => none

/-- The text that the writer gets to the link. -/
def written (c : Connection) : Move → Option String
  | .write _ => c.nextText.bind fun text =>
    match c.link.write text with
    | .done _ => some text
    | .waiting | .failed _ => none
  | _ => none

/-- The link fails under the writer. -/
def breaks (c : Connection) : Move → Bool
  | .write _ => c.nextText.any fun text =>
    match c.link.write text with
    | .failed _ => true
    | .done _ | .waiting => false
  | _ => false

/-- The text that the peer takes. -/
def received (c : Connection) : Move → Option String
  | .deliver => c.link.toPeer.items.head?
  | _ => none

/-- The text that the peer sends. -/
def heardText (_ : Connection) : Move → Option String
  | .hear text => some text
  | _ => none

end Connection

end VirtualPrinter.Service
