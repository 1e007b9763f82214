import VirtualPrinter.Service.Scheduler

/-!
# A printer on the bench

On the bench a printer is connected to a peer in memory.  The application holds one connection at a
time, and one peer, which takes what it is sent whenever the application has nothing else to do.
Time passes when it is told to, and while a client waits for its next attempt to connect.

## Main definitions

* `Service.Bench`, with `Bench.rest` and `Bench.elapse`.
* `Bench.connect`: a client connects.
* `Bench.close`, `Bench.shutdown`, `Bench.drop`, `Bench.dropPeer`, `Bench.cancelParent`,
  `Bench.enqueue`, `Bench.send`: what the application and the peer do.
-/

namespace VirtualPrinter.Service

open Link (Memory Written)
open Time (Span)
open Wire (Frame)

/-- A client: how it connects, what shuts its connections down, and its link. -/
structure Client where
  config : Config
  parent : Option Nat
  link : Memory

/-- A printer on the bench. -/
structure Bench where
  scheduler : Scheduler
  /-- The connection that the application holds. -/
  held : Option Nat
  /-- The connection whose peer is held. -/
  peer : Option Nat
  client : Option Client
  /-- What shuts down connections that are made to share it. -/
  parent : Nat
  /-- What the peers have taken and nobody has asked for. -/
  received : List String

namespace Bench

/-- A printer that has never been connected. -/
def new (time : Time.Timestamp) (device : Device) : Bench :=
  ⟨.new (.new time device), none, none, none, 0, []⟩

/-- The world on the bench. -/
def world (b : Bench) : World := b.scheduler.world

/-- The bench with another world. -/
def change (b : Bench) (world : World) : Bench :=
  { b with scheduler := b.scheduler.change world }

/-- The connection that the application holds. -/
def connection? (b : Bench) : Option Connection :=
  b.held.bind fun id => b.world.connections[id]?

/-! ### Time -/

/-- The peer takes what it has been sent. -/
def collect (b : Bench) : Bench :=
  match b.peer with
  | none => b
  | some id =>
    let (texts, world) := b.world.peerTakeAll id
    { b.change world with received := b.received ++ texts }

/-- Lets the tasks run until every one of them waits, with the peer taking what it is sent whenever
the line is empty, for at most so many times. -/
def restWithin : Nat → Bench → Bench
  | 0, b => b
  | rounds + 1, b =>
    let s := b.scheduler.runLine
    let next := { b with scheduler := s.resume }.collect
    if next.received.length = b.received.length && s.resting.isEmpty then next
    else restWithin rounds next

/-- Lets the tasks run until every one of them waits and the peer has taken what it has been sent. -/
def rest (b : Bench) : Bench :=
  restWithin (b.scheduler.work + 2) b

/-- Moves the clock to an instant. -/
def setClock (b : Bench) (now : Span) : Bench :=
  { b with scheduler := b.scheduler.setClock now }

/-- Lets time pass up to an instant, by at most so many alarms. -/
def elapseWithin : (alarms : Nat) → (limit : Span) → Bench → Bench
  | 0, limit, b => b.setClock limit
  | alarms + 1, limit, b =>
    let b := b.rest
    match b.scheduler.nextAlarm limit with
    | some alarm => elapseWithin alarms limit (b.setClock alarm)
    | none => b.setClock limit

/-- Lets time pass up to an instant, at which no task has run yet.  Alarms ring at whole
milliseconds. -/
def elapseTo (b : Bench) (limit : Span) : Bench :=
  if b.world.now < limit then elapseWithin ((limit - b.world.now).millis + 2) limit b else b

/-- Lets time pass, as an alarm that is set for it tells: what the peers have taken. -/
def elapse (b : Bench) (time : Span) : List String × Bench :=
  let b := (b.elapseTo (b.world.now.alarm time)).rest
  (b.received, { b with received := [] })

/-! ### Connecting -/

/-- What happens before a call goes on: a wait passes, or the client takes its side of the link. -/
def prepare (b : Bench) (client : Client) : Call → Bench
  | .trying (.pausing _ wake) => b.elapseTo wake
  | .trying (.dialling _) =>
    match client.link.connect with
    | .ok link => { b with client := some { client with link := link } }
    | .error _ => b
  | _ => b

/-- A client's call to connect goes on to its end, for at most so many steps. -/
def dialWithin : Nat → Client → Call → Bench → Except Error Unit × Bench
  | _, _, .connected _, b => (.ok (), b)
  | _, _, .refused e, b => (.error e, b)
  | 0, client, _, b => (.error (.link (.retriesExhausted client.config.retry.attempts)), b)
  | steps + 1, client, call, b =>
    let b := b.prepare client call
    match b.world.stepCall client.config client.parent client.link.connect call with
    | some (world, call) => dialWithin steps client call (b.change world)
    | none => dialWithin steps client call b

/-- A client connects the printer, unless it is bound already.  An attempt takes two steps, and the
beginning and the end one each. -/
def dial (b : Bench) (client : Client) : Except Error Unit × Bench :=
  dialWithin (2 * client.config.retry.attempts + 2) client .fresh { b with client := some client }

/-- The peer leaves. -/
def dropPeer (b : Bench) : Bench :=
  match b.peer with
  | none => b
  | some id => { b.change (b.world.dropPeer id) with peer := none }

/-- Closes the connection that the application holds. -/
def close (b : Bench) : Bench :=
  match b.held with
  | none => b
  | some id => b.change (b.world.close id)

/-- The application lets go of its connection, which closes it. -/
def drop (b : Bench) : Bench := { b.close with held := none }

/-- The bench after a connection has been made: it takes the place of the one that the application
holds, and its peer the place of the peer. -/
def hold (b : Bench) : Bench :=
  let id := b.world.connections.length - 1
  let b := b.drop
  let b := if b.peer = some id then b else b.dropPeer
  { b with
    held := some id
    peer := some id
    scheduler := b.scheduler.spawn (World.tasksOf id) }

/-- Connects the printer with a client.  Where that fails nobody holds the other side of the
link. -/
def connectWith (b : Bench) (client : Client) : Except Error Unit × Bench :=
  match b.dial client with
  | (.ok (), b) => (.ok (), b.hold)
  | (.error e, b) =>
    let drop (c : Client) : Client := { c with link := c.link.dropPeer }
    (.error e, { b with client := b.client.map drop })

/-- Connects the printer with a new client or, with `again` set, with the client that was used last
if there is one.  With `shared` set, the shutdown from outside that is in force reaches the
connections of a new client; with `hungUp` set, the peer leaves first, and that of a new client has
left. -/
def connect (b : Bench) (config : Config) (shared hungUp again : Bool) :
    Except Error Unit × Bench :=
  let b := if hungUp then b.dropPeer else b
  let link := if hungUp then Memory.new.dropPeer else .new
  let fresh : Client := ⟨config, if shared then some b.parent else none, link⟩
  b.connectWith (if again then b.client.getD fresh else fresh)

/-! ### The application and the peer -/

/-- Closes the connection that the application holds, waits for its tasks to end, and lets go of
it. -/
def shutdown (b : Bench) : Bench :=
  let b := b.close
  { b with scheduler := b.scheduler.settle, held := none }

/-- Orders the shutdown from outside that is in force. -/
def cancelParent (b : Bench) : Bench := b.change (b.world.order b.parent)

/-- Puts another shutdown from outside in force. -/
def renewParent (b : Bench) : Bench := { b with parent := b.parent + 1 }

/-- The peer sends a text. -/
def send (b : Bench) (text : String) : Option (Written Bench) :=
  b.peer.map fun id =>
    match b.world.peerWrite id text with
    | .done world => .done (b.change world)
    | .waiting => .waiting
    | .failed e => .failed e

/-- The application sends a frame on the connection that it holds; where there is no room, the tasks
run first. -/
def enqueue (b : Bench) (f : Frame) : Option (Except Error (Bool × Bench)) :=
  b.held.map fun id =>
    let attempt (b : Bench) : Except Error (Bool × Bench) :=
      (b.world.enqueue id f).map fun (entered, world) => (entered, b.change world)
    match attempt b with
    | .ok (false, b) => attempt { b with scheduler := b.scheduler.settle }
    | done => done

/-- The application changes the printer. -/
def withDevice (b : Bench) (d : Device) : Bench := b.change { b.world with device := d }

end Bench

end VirtualPrinter.Service
