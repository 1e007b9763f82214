import VirtualPrinter.Service.Station

/-!
# Dispatch without a connection

At a desk, events are dispatched to a printer that is not connected.  The frames in its send queue
are taken by whoever holds the desk: at once if the desk drains, or else when told to.

## Main definitions

* `Service.Desk`, with `Desk.dispatch` and `Desk.rest`.
* `Desk.trySend`, `Desk.submit`, `Desk.consume`, `Desk.dropJobs`, `Desk.dropQueue`, `Desk.cancel`.
-/

namespace VirtualPrinter.Service

open Wire (CommandRequest Event Frame)

/-- A printer and the station that works off its events. -/
structure Desk where
  time : Time.Timestamp
  device : Device
  station : Station
  /-- The commands that wait have no consumer yet. -/
  unclaimed : Bool

namespace Desk

/-- A desk with a send queue, and maybe a queue for commands. -/
def new (time : Time.Timestamp) (device : Device) (capacity : Nat) (jobCapacity : Option Nat) :
    Desk :=
  ⟨time, device, .new capacity jobCapacity, jobCapacity.isSome⟩

/-- What the printer finds around it. -/
def here (d : Desk) : Surroundings := ⟨d.time, .zero, true⟩

/-- The desk for diagnostics. -/
def text (d : Desk) : String :=
  "EventRouter \x7b device: " ++ toString d.device.id.toNat ++ ", queued: " ++
    toString d.station.jobs.isSome ++ " \x7d"

/-! ### Turns -/

/-- A bound on the steps of the consumer. -/
def work (d : Desk) : Nat :=
  let jobs := match d.station.jobs with
    | some jobs => (jobs.items.map fun r => 4 * (r.instruction.length + 4)).foldl (· + ·) 0
    | none => 0
  let duty := match d.station.consumer with
    | .working duty => 4 * (duty.lines.length + 4)
    | _ => 0
  jobs + duty + 8

/-- Lets the consumer take at most so many steps. -/
def runWithin : Nat → Desk → Desk
  | 0, d => d
  | steps + 1, d =>
    match d.station.stepConsumer d.here d.station.cancelled d.device with
    | none => d
    | some (station, device) => runWithin steps { d with station := station, device := device }

/-- Lets the consumer run until it waits. -/
def settle (d : Desk) : Desk := runWithin d.work d

/-- Takes the frames out of the send queue. -/
def collect (d : Desk) : List Frame × Desk :=
  let queue := { d.station.queue with items := [] }
  (d.station.queue.items, { d with station := { d.station with queue := queue } })

/-- Lets the consumer run and takes the frames out, until there are no more, for at most so many
times. -/
def drainWithin : Nat → Desk → List Frame × Desk
  | 0, d => ([], d)
  | rounds + 1, d =>
    let (frames, d) := d.settle.collect
    if frames.isEmpty then ([], d)
    else
      let (more, d) := drainWithin rounds d
      (frames ++ more, d)

/-- Lets the consumer run and takes all frames out. -/
def drain (d : Desk) : List Frame × Desk := drainWithin (d.work + 2) d

/-- Lets the consumer run; frames are taken out only by a desk that drains. -/
def rest (d : Desk) (drains : Bool) : List Frame × Desk :=
  if drains then d.drain else ([], d.settle)

/-! ### Dispatch -/

/-- How a dispatch ends. -/
inductive Dispatched where
  | done
  | failed (e : Error)
  /-- The send queue has no room, and nobody takes frames out. -/
  | blocked

/-- Gives up waiting for room in the send queue. -/
def leaveLine (d : Desk) : Desk :=
  { d with station := { d.station with queue := d.station.queue.leaveLine } }

/-- Works off a duty in at most so many steps. -/
def attendWithin (drains : Bool) : Nat → Duty → Desk → List Frame × Dispatched × Desk
  | 0, _, d => ([], .blocked, d)
  | steps + 1, duty, d =>
    match duty.next d.here d.device d.station.queue with
    | .finished => ([], .done, d)
    | .failed => ([], .failed .queueClosed, d)
    | .moved duty device queue =>
      attendWithin drains steps duty
        { d with device := device, station := { d.station with queue := queue } }
    | .waiting =>
      let (frames, d) := d.rest drains
      if frames.isEmpty then ([], .blocked, d.leaveLine)
      else
        let (more, result, d) := attendWithin drains steps duty d
        (frames ++ more, result, d)

/-- Dispatches an event: the frames that were taken out while the send queue had no room, and how
the dispatch ends. -/
def dispatch (d : Desk) (drains : Bool) (e : Event) : List Frame × Dispatched × Desk :=
  match d.station.receive d.device e with
  | (station, .error e) => ([], .failed e, { d with station := station })
  | (station, .ok duty) =>
    attendWithin drains (4 * (duty.lines.length + 4)) duty { d with station := station }

/-- Offers a frame to the send queue. -/
def trySend (d : Desk) (f : Frame) : Except Error (Bool × Desk) :=
  (d.station.tryEnqueue f).map fun (entered, station) => (entered, { d with station := station })

/-- Queues a command; none if there is no queue for commands. -/
def submit (d : Desk) (r : CommandRequest) : Option (Except Error Desk) :=
  (d.station.submit r).map fun result => result.map fun station => { d with station := station }

/-- Starts the consumer; none if the commands have had one. -/
def consume (d : Desk) : Option Desk :=
  if d.unclaimed then
    some { d with unclaimed := false, station := { d.station with consumer := .listening } }
  else none

/-- Gives up on the commands that wait, unless they have had a consumer. -/
def dropJobs (d : Desk) : Desk :=
  if d.unclaimed then
    let jobs := d.station.jobs.map Link.Pipe.dropTaker
    { d with unclaimed := false, station := { d.station with jobs := jobs } }
  else d

/-- Lets no more frames into the send queue, and loses those inside. -/
def dropQueue (d : Desk) : Desk :=
  { d with station := { d.station with queue := d.station.queue.dropTaker } }

/-- Tells the station to shut down. -/
def cancel (d : Desk) : Desk :=
  { d with station := { d.station with cancelled := true } }

end Desk

end VirtualPrinter.Service
