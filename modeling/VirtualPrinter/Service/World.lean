import VirtualPrinter.Machine.StatusLine
import VirtualPrinter.Service.Connection

/-!
# A printer and its connections

The world of a printer is the printer itself, all connections it has ever had, and the clock.  A
connection is known by its place among them.  The tasks take steps one at a time, in any order;
between two steps the application and the peers may act.

## Main definitions

* `Service.World`, `Service.Task`, and `World.next`: one step of a task, if it can take one.
* `World.establish`: a connection over a link that has been made, and `World.Establishment`.
* `Service.Call`, and `World.stepCall`: one step of a call to connect.
* `World.close`, `World.enqueue`, `World.peerWrite`, `World.dropPeer`, `World.instruct`: what the
  application and the peers do.
-/

namespace VirtualPrinter.Service

open Link (Memory Progress Written)
open Time (Span)
open Wire (CommandResponse DeviceId Frame Session)

/-- A task. -/
inductive Task where
  | consumer (connection : Nat)
  | writer (connection : Nat)
  | reader (connection : Nat)
  | watch (connection : Nat)
  | supervisor (connection : Nat)
  | stream (generation : Nat)
deriving DecidableEq, Repr

/-- How far a call to connect has come. -/
inductive Call where
  /-- It has not looked at the printer yet. -/
  | fresh
  /-- Attempts to make a link are under way, or have come to their end. -/
  | trying (attempts : Progress Memory)
  | connected (id : Nat)
  | refused (e : Error)
deriving DecidableEq

/-- A printer and its connections. -/
structure World where
  /-- The time of day. -/
  time : Time.Timestamp
  /-- The time since the start. -/
  now : Span
  device : Device
  connections : List Connection
  /-- The shutdowns from outside that have been ordered. -/
  ordered : List Nat

namespace World

/-- A printer that has never been connected. -/
def new (time : Time.Timestamp) (device : Device) : World := ⟨time, .zero, device, [], []⟩

/-- What the printer finds around it. -/
def here (w : World) : Surroundings := ⟨w.time, w.now, true⟩

/-- The world with another state of a connection. -/
def update (w : World) (id : Nat) (c : Connection) : World :=
  { w with connections := w.connections.set id c }

/-- A shutdown of the connection has been ordered, by itself or from outside. -/
def isCancelled (w : World) (c : Connection) : Bool :=
  c.station.cancelled || c.parent.any w.ordered.contains

/-- The connection of a number shuts down; one that has never been counts as shut down. -/
def isClosed (w : World) (id : Nat) : Bool :=
  w.connections[id]?.all w.isCancelled

/-! ### Steps of tasks -/

/-- The report of a printer. -/
def sample (d : Device) : Frame :=
  .message (CommandResponse.toEvent ⟨DeviceId.ofNat d.id.toNat, d.state.statusLine⟩)

/-- The world after a stream has ended. -/
def endStream (w : World) (generation : Nat) : World :=
  { w with device := { w.device with streamer := w.device.streamer.finish generation } }

/-- A stream reports.  A report that finds no room is dropped. -/
def report (w : World) (s : Stream) (c : Connection) : World :=
  match c.station.tryEnqueue (sample w.device) with
  | .ok (_, station) =>
    let streamer := w.device.streamer.update (s.afterTick w.now)
    { w.update s.connection { c with station := station } with
      device := { w.device with streamer := streamer } }
  | .error _ => w.endStream s.generation

/-- One step of a stream: it ends when it is stopped, and otherwise waits for its next report. -/
def stepStream (w : World) (generation : Nat) : Option World :=
  match w.device.streamer.stream? generation with
  | none => none
  | some s =>
    match w.connections[s.connection]? with
    | none => some (w.endStream generation)
    | some c =>
      if s.stopped || w.isCancelled c then some (w.endStream generation)
      else if w.now < s.due.nextMilli then none
      else some (w.report s c)

/-- One step of the supervisor of a connection: when it shuts down, the printer is set free and the
session ends. -/
def stepSupervisor (w : World) (id : Nat) (c : Connection) : Option World :=
  if !c.released && w.isCancelled c then
    let w := w.update id { c with session := c.session.close, released := true }
    some { w with device := w.device.release id }
  else none

/-- One step of a task, if it can take one. -/
def next (w : World) : Task → Option World
  | .stream generation => w.stepStream generation
  | .consumer id => w.connections[id]?.bind fun c =>
    (c.station.stepConsumer w.here (w.isCancelled c) w.device).map fun (station, d) =>
      { w.update id { c with station := station } with device := d }
  | .writer id => w.connections[id]?.bind fun c =>
    (c.stepWriter (w.isCancelled c)).map (w.update id)
  | .reader id => w.connections[id]?.bind fun c =>
    (c.stepReader w.here (w.isCancelled c) w.device).map fun (c, d) =>
      { w.update id c with device := d }
  | .watch id => w.connections[id]?.bind fun c =>
    (c.stepWatch w.now (w.isCancelled c)).map (w.update id)
  | .supervisor id => w.connections[id]?.bind (w.stepSupervisor id)

/-! ### Connecting -/

/-- The tasks of a connection, in the order in which they start. -/
def tasksOf (id : Nat) : List Task :=
  [.consumer id, .writer id, .reader id, .watch id, .supervisor id]

/-- What becomes of a connection that is to be made over a link. -/
inductive Establishment where
  | ok (world : World)
  /-- The link has no room for the opening frame. -/
  | waiting
  | error (e : Error)

/-- The world with the connection, once it has been made. -/
def Establishment.toOption : Establishment → Option World
  | .ok world => some world
  | .waiting | .error _ => none

/-- A connection over a link that has been made: the opening frame is written, and the printer is
bound.  Nothing has happened if either fails. -/
def establish (w : World) (config : Config) (parent : Option Nat) (link : Memory) : Establishment :=
  match link.write (String.ofList Frame.opening.encode) with
  | .failed e => .error (.link e)
  | .waiting => .waiting
  | .done link =>
    match Session.new.start, w.device.attach w.connections.length with
    | .error e, _ => .error (.wire e)
    | .ok _, .error e => .error e
    | .ok session, .ok device =>
      let c := Connection.start config parent session.recordOutbound link
      .ok { w with device := device, connections := w.connections ++ [c] }

/-- One step of a call to connect, if it can take one; `outcome` is what the attempt under way comes
to.  A printer that is bound already is not called; it may become bound while the call goes on, and
then the call fails in the end. -/
def stepCall (w : World) (config : Config) (parent : Option Nat)
    (outcome : Except Link.Error Memory) : Call → Option (World × Call)
  | .fresh =>
    if w.device.isConnected then some (w, .refused (.alreadyConnected w.device.id))
    else some (w, .trying (.look (parent.any w.ordered.contains) 0))
  | .trying (.made link) =>
    match w.establish config parent link with
    | .ok established => some (established, .connected w.connections.length)
    | .waiting => none
    | .error e => some (w, .refused e)
  | .trying (.failed e) => some (w, .refused (.link e))
  | .trying attempts =>
    let stopped := parent.any w.ordered.contains
    (attempts.step config.retry Span.alarm stopped w.now outcome).map fun next => (w, .trying next)
  | .connected _ | .refused _ => none

/-! ### The application -/

/-- Tells a connection to shut down, and sets the printer free at once. -/
def close (w : World) (id : Nat) : World :=
  match w.connections[id]? with
  | none => w
  | some c => { w.update id c.cancel with device := w.device.release id }

/-- Orders a shutdown from outside. -/
def order (w : World) (parent : Nat) : World :=
  { w with ordered := parent :: w.ordered }

/-- Offers a frame to the send queue of a connection. -/
def enqueue (w : World) (id : Nat) (f : Frame) : Except Error (Bool × World) :=
  match w.connections[id]? with
  | none => .error .queueClosed
  | some c => (c.station.tryEnqueue f).map fun (entered, station) =>
    (entered, w.update id { c with station := station })

/-- The printer executes an instruction line for the application. -/
def instruct (w : World) (line : List Char) : World × String :=
  let (d, answer) := w.device.execute w.here line
  ({ w with device := d }, answer)

/-! ### The peers -/

/-- The peer of a connection writes a text. -/
def peerWrite (w : World) (id : Nat) (text : String) : Written World :=
  match w.connections[id]? with
  | none => .failed .connectionClosed
  | some c =>
    match c.link.peerWrite text with
    | .done link => .done (w.update id { c with link := link })
    | .waiting => .waiting
    | .failed e => .failed e

/-- The peer of a connection takes what has been written to it. -/
def peerTakeAll (w : World) (id : Nat) : List String × World :=
  match w.connections[id]? with
  | none => ([], w)
  | some c =>
    let (texts, link) := c.link.peerTakeAll
    (texts, w.update id { c with link := link })

/-- The peer of a connection leaves. -/
def dropPeer (w : World) (id : Nat) : World :=
  match w.connections[id]? with
  | none => w
  | some c => w.update id { c with link := c.link.dropPeer }

end World

end VirtualPrinter.Service
