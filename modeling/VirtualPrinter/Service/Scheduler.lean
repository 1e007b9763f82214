import VirtualPrinter.Service.World

/-!
# One processor

On one processor the tasks of a world take turns.  A task that can take a step gets in line, runs
until it has to wait, and gets in line again when something lets it go on.  One that has had its
share of a turn steps back until the line is empty.  The clock moves only when every task waits, and
then to the next alarm.

## Main definitions

* `Service.Scheduler`, with `Scheduler.wake` and `Scheduler.settle`.
* `World.isCounted`, `Scheduler.share`: how much a task may do in one turn.
* `Scheduler.nextAlarm`: the next instant at which a task goes on by itself.
* `Scheduler.setClock`: moves the clock.
-/

namespace VirtualPrinter.Service

open Time (Span)

/-- What a task is about to do counts against its share of a turn: it takes from a queue, puts into
one that it would wait for, or follows a clock.  Executing a line and shutting down do not count. -/
def World.isCounted (w : World) : Task → Bool
  | .stream _ | .watch _ => true
  | .supervisor _ => false
  | .writer id => w.connections[id]?.any fun c =>
    match c.writer with
    | .draining => false
    | _ => true
  | .reader id => w.connections[id]?.any fun c =>
    match c.reader with
    | .working duty => duty.reply.isSome
    | _ => true
  | .consumer id => w.connections[id]?.any fun c =>
    match c.station.consumer with
    | .working duty => duty.reply.isSome
    | _ => true

/-- A task has a frame in line for room in the send queue. -/
def World.isInLine (w : World) : Task → Bool
  | .reader id => w.connections[id]?.any fun c =>
    match c.reader with
    | .working duty => duty.waits
    | _ => false
  | .consumer id => w.connections[id]?.any fun c =>
    match c.station.consumer with
    | .working duty => duty.waits
    | _ => false
  | _ => false

/-- The tasks of a world on one processor. -/
structure Scheduler where
  world : World
  /-- All tasks that have started; those that have waited longest come first. -/
  tasks : List Task
  /-- The tasks in line. -/
  ready : List Task
  /-- The tasks that have stepped back, the last one first. -/
  resting : List Task

namespace Scheduler

/-- A processor without tasks. -/
def new (world : World) : Scheduler := ⟨world, [], [], []⟩

/-- Starts tasks, which get in line. -/
def spawn (s : Scheduler) (tasks : List Task) : Scheduler :=
  { s with tasks := s.tasks ++ tasks, ready := s.ready ++ tasks }

/-- The streams that have been started and are not known yet. -/
def newStreams (s : Scheduler) : List Task :=
  (s.world.device.streamer.streams.map fun stream => Task.stream stream.generation).filter
    fun t => !s.tasks.contains t

/-- Lets every task get in line that can take a step, but the one that is running and those that
have stepped back. -/
def wake (s : Scheduler) (running : Option Task) : Scheduler :=
  let s := s.spawn s.newStreams
  let woken := s.tasks.filter fun t =>
    !s.ready.contains t && !s.resting.contains t && running != some t && (s.world.next t).isSome
  { s with ready := s.ready ++ woken }

/-- Another world, for whatever reason; tasks that can go on now get in line. -/
def change (s : Scheduler) (world : World) : Scheduler :=
  { s with world := world }.wake none

/-! ### Turns -/

/-- The steps that count which a task may take in one turn. -/
def share : Nat := 128

/-- Runs a task until it has to wait or has had what is left of its share, for at most `limit`
steps.  Getting in line takes nothing from the share. -/
def runWithin : (limit left : Nat) → Task → Scheduler → Scheduler
  | 0, _, _, s => s
  | limit + 1, left, t, s =>
    if s.world.isCounted t && left == 0 then { s with resting := t :: s.resting }
    else match s.world.next t with
      | none => s
      | some world =>
        let spent := if s.world.isCounted t && !world.isInLine t then 1 else 0
        runWithin limit (left - spent) t ({ s with world := world }.wake (some t))

/-- The turn of a task.  One that has taken no step keeps its place among those that wait. -/
def turn (limit : Nat) (t : Task) (s : Scheduler) : Scheduler :=
  if (s.world.next t).isSome then
    let s := runWithin limit share t s
    { s with tasks := s.tasks.filter (· != t) ++ [t] }
  else s

/-- Gives the tasks in line their turns until the line is empty, for at most `turns` turns of at
most `limit` steps. -/
def runLineWithin (limit : Nat) : (turns : Nat) → Scheduler → Scheduler
  | 0, s => s
  | turns + 1, s =>
    match s.ready with
    | [] => s
    | t :: rest => runLineWithin limit turns (turn limit t { s with ready := rest })

/-- Those that have stepped back get in line again. -/
def resume (s : Scheduler) : Scheduler :=
  { s with ready := s.ready ++ s.resting, resting := [] }

/-! ### How much there can be to do -/

/-- A bound on the steps that a text can lead to: each of its characters may be a line, which is
executed, answered, enqueued and written, and may start a stream. -/
def textWork (text : String) : Nat := 16 * (text.length + 2)

/-- A bound on the steps that a duty leads to. -/
def dutyWork (duty : Duty) : Nat := 16 * (duty.lines.length + 2)

/-- A bound on the steps of a connection until it waits. -/
def connectionWork (c : Connection) : Nat :=
  let inbound := (c.link.toClient.items.map textWork).foldl (· + ·) 0
  let jobs := match c.station.jobs with
    | some jobs => (jobs.items.map fun r => textWork r.instruction).foldl (· + ·) 0
    | none => 0
  let reader := match c.reader with
    | .working duty => dutyWork duty
    | _ => 0
  let consumer := match c.station.consumer with
    | .working duty => dutyWork duty
    | _ => 0
  inbound + jobs + reader + consumer + 4 * c.station.queue.items.length + 64

/-- A bound on the reports of a stream at one instant. -/
def streamWork (now : Span) (s : Stream) : Nat :=
  8 * ((now - s.due).nanos / max 1 s.interval.nanos + 4)

/-- A bound on the steps until every task waits. -/
def work (s : Scheduler) : Nat :=
  (s.world.connections.map connectionWork).foldl (· + ·) 0 +
    (s.world.device.streamer.streams.map (streamWork s.world.now)).foldl (· + ·) 0 + 64

/-- Lets the tasks run until the line is empty. -/
def runLine (s : Scheduler) : Scheduler :=
  let s := s.wake none
  runLineWithin s.work (s.work * (s.tasks.length + 2)) s

/-- Lets the tasks run until every one of them waits, those that step back at most `rounds`
times. -/
def settleWithin : (rounds : Nat) → Scheduler → Scheduler
  | 0, s => s
  | rounds + 1, s =>
    let s := s.runLine
    if s.resting.isEmpty then s else settleWithin rounds s.resume

/-- Lets the tasks run until every one of them waits. -/
def settle (s : Scheduler) : Scheduler :=
  settleWithin s.work s

/-! ### Time -/

/-- The alarms that are set. -/
def alarms (s : Scheduler) : List Span :=
  let streams := s.world.device.streamer.streams.map fun stream => stream.due.nextMilli
  let watches := s.world.connections.filterMap fun c =>
    match c.watch with
    | .ticking k => some k.due.nextMilli
    | .starting | .done => none
  streams ++ watches

/-- The next alarm before an instant. -/
def nextAlarm (s : Scheduler) (limit : Span) : Option Span :=
  (s.alarms.filter fun t => s.world.now < t && t < limit).foldl
    (fun best t => some (match best with
      | some b => b.atMost t
      | none => t)) none

/-- Moves the clock to an instant. -/
def setClock (s : Scheduler) (now : Span) : Scheduler :=
  s.change { s.world with now := now }

end Scheduler

end VirtualPrinter.Service
