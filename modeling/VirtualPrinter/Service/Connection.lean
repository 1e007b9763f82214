import VirtualPrinter.Link.Memory
import VirtualPrinter.Service.Config
import VirtualPrinter.Service.Keepalive
import VirtualPrinter.Service.Station
import VirtualPrinter.Wire.Session

/-!
# Connections

A connection serves one printer over a link.  Its writer takes frames from the send queue to the
link, its reader works off what comes in, a timer sends signs of life, and a supervisor sets the
printer free when the connection shuts down.  Each is a task, and each function here is one step of
a task: it answers `none` where the task has ended or has to wait.

The writer looks for a shutdown before every frame, not while it writes one.  When it has seen it,
it closes the send queue, writes what is left in it and then the closing frame.  When the link is
broken it ends at once.  Either way it shuts the connection down.

## Main definitions

* `Service.Connection`, with `Writer`, `Reader` and `Watch`.
* `Connection.stepWriter`, `Connection.stepReader`, `Connection.stepWatch`.
-/

namespace VirtualPrinter.Service

open Link (Memory Pipe)
open Time (Span)
open Wire (Event Frame Session)

/-- The task that writes frames. -/
inductive Writer where
  | listening
  | writing (f : Frame)
  /-- The send queue is closed, and what is left in it is taken. -/
  | draining
  | flushing (f : Frame)
  /-- The closing frame is next. -/
  | parting
  | done

/-- The task that reads frames. -/
inductive Reader where
  | listening
  | working (duty : Duty)
  | done

/-- The task that sends signs of life. -/
inductive Watch where
  /-- It has not looked for the first time. -/
  | starting
  | ticking (k : Keepalive)
  | done

/-- A connection. -/
structure Connection where
  station : Station
  /-- What shuts the connection down from outside. -/
  parent : Option Nat
  keepaliveInterval : Span
  keepaliveTimeout : Option Span
  session : Session
  link : Memory
  writer : Writer
  reader : Reader
  watch : Watch
  /-- The supervisor has ended. -/
  released : Bool

/-- What a text from the peer means to the reader. -/
inductive Heard where
  /-- Nothing to do. -/
  | nothing
  | handshake (h : Wire.Handshake)
  | ping (pong : Frame)
  | event (e : Event)
  /-- Nothing more is to be read. -/
  | ending

/-- What an error means to the reader: the frame is passed over, unless nothing behind it can be
read. -/
def Heard.ofError (e : Wire.Error) : Heard :=
  if e.isRecoverable then .nothing else .ending

/-- What a text from the peer means to the reader. -/
def Heard.ofText (text : List Char) : Heard :=
  match Frame.decode text with
  | .error e => .ofError e
  | .ok f =>
    match f.kind with
    | .opening =>
      match f.handshake? with
      | some h => .handshake h
      | none => .nothing
    | .closing => .ending
    | .ping => .ping f.pongFor
    | .pong => .nothing
    | .message =>
      match f.event with
      | .ok e => .event e
      | .error e => .ofError e

/-- The sign of life. -/
def keepaliveFrame : Frame := .message (.new "ping" (.text "alive"))

namespace Connection

/-- A connection with its opening frame just written. -/
def start (config : Config) (parent : Option Nat) (session : Session) (link : Memory) :
    Connection where
  station := match config.dispatch with
    | .inline => .new config.sendCapacity none
    | .queued => { Station.new config.sendCapacity (some config.jobCapacity) with
        consumer := .listening }
  parent := parent
  keepaliveInterval := config.keepaliveInterval
  keepaliveTimeout := config.keepaliveTimeout
  session := session
  link := link
  writer := .listening
  reader := .listening
  watch := if config.keepaliveInterval.isZero then .done else .starting
  released := false

/-- Tells the connection to shut down. -/
def cancel (c : Connection) : Connection :=
  { c with station := { c.station with cancelled := true } }

/-- Gives the station another send queue. -/
def withQueue (c : Connection) (queue : Pipe Frame) : Connection :=
  { c with station := { c.station with queue := queue } }

/-! ### The writer -/

/-- The writer ends: what is left in the send queue is lost, the peer is told nothing more, and the
connection shuts down. -/
def endWriter (c : Connection) : Connection :=
  { (c.withQueue c.station.queue.dropTaker).cancel with
    link := c.link.closeWriter
    writer := .done }

/-- The connection after a frame has been written. -/
def wrote (c : Connection) (link : Memory) (writer : Writer) : Connection :=
  { c with link := link, session := c.session.recordOutbound, writer := writer }

/-- One step of the writer. -/
def stepWriter (c : Connection) (cancelled : Bool) : Option Connection :=
  match c.writer with
  | .listening =>
    let closing := { c.withQueue c.station.queue.stopReceiving with writer := .draining }
    if cancelled then some closing
    else match c.station.queue.take with
      | .item f queue => some { c.withQueue queue with writer := .writing f }
      | .waiting => none
      | .ended => some closing
  | .writing f =>
    match c.link.write (String.ofList f.encode) with
    | .done link => some (c.wrote link .listening)
    | .waiting => none
    | .failed _ => some c.endWriter
  | .draining =>
    match c.station.queue.take with
    | .item f queue => some { c.withQueue queue with writer := .flushing f }
    | .waiting | .ended => some { c with writer := .parting }
  | .flushing f =>
    match c.link.write (String.ofList f.encode) with
    | .done link => some (c.wrote link .draining)
    | .waiting => none
    | .failed _ => some { c with writer := .parting }
  | .parting =>
    match c.link.write (String.ofList Frame.closing.encode) with
    | .done link => some { c with link := link }.endWriter
    | .waiting => none
    | .failed _ => some c.endWriter
  | .done => none

/-! ### The reader -/

/-- The reader ends: the peer is not heard any more, no command is submitted any more, and the
connection shuts down. -/
def endReader (c : Connection) : Connection :=
  { c with
    station := { c.station.endSubmission with cancelled := true }
    link := c.link.closeReader
    reader := .done }

/-- The connection after a text has come in, whatever it means. -/
def heard (c : Connection) (d : Device) : Heard → Connection
  | .nothing => c
  | .handshake h => { c with session := c.session.greet h }
  | .ping pong => { c with reader := .working (.ofFrame pong) }
  | .event e =>
    match c.station.receive d e with
    | (station, .ok duty) => { c with station := station, reader := .working duty }
    | (station, .error .queueClosed) => { c with station := station }.endReader
    | (station, .error _) => { c with station := station }
  | .ending => c.endReader

/-- One step of the reader.  It looks for a shutdown before every text, not while it answers one. -/
def stepReader (c : Connection) (here : Surroundings) (cancelled : Bool) (d : Device) :
    Option (Connection × Device) :=
  match c.reader with
  | .listening =>
    if cancelled then some (c.endReader, d)
    else match c.link.read with
      | .item text pipe =>
        let c := { c with link := c.link.withToClient pipe, session := c.session.touch }
        some (c.heard d (.ofText text.toList), d)
      | .waiting => none
      | .ended => some (c.endReader, d)
  | .working duty =>
    match duty.next here d c.station.queue with
    | .finished => some ({ c with reader := .listening }, d)
    | .failed => some (c.endReader, d)
    | .waiting => none
    | .moved duty d queue => some ({ c.withQueue queue with reader := .working duty }, d)
  | .done => none

/-! ### Signs of life -/

/-- One step of the timer: it ends when the connection shuts down, and otherwise looks for the first
time or waits for its next tick. -/
def stepWatch (c : Connection) (now : Span) (cancelled : Bool) : Option Connection :=
  match c.watch with
  | .done => none
  | .starting =>
    if cancelled then some { c with watch := .done }
    else
      let k := Keepalive.start c.keepaliveInterval now c.session.framesIn
      some { c with watch := .ticking k }
  | .ticking k =>
    if cancelled then some { c with watch := .done }
    else if now < k.due.nextMilli then none
    else match k.tick c.keepaliveInterval c.keepaliveTimeout now c.session.framesIn with
      | none => some { c.cancel with watch := .done }
      | some k =>
        match c.station.tryEnqueue keepaliveFrame with
        | .ok (_, station) => some { c with station := station, watch := .ticking k }
        | .error _ => some { c with watch := .done }

end Connection

end VirtualPrinter.Service
