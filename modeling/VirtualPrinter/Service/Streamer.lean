import VirtualPrinter.Service.Error
import VirtualPrinter.Time.Span

/-!
# Reports at an interval

A streamer runs at most one stream at a time.  Each stream is a task of its own, which may end late:
it is told to stop, or the connection it serves shuts down, and it ends when it notices.  A stream
that ends clears the streamer only if no later one has been started.

## Main definitions

* `Service.Stream`: a task that reports at an interval.
* `Service.Streamer`, with `Streamer.start`, `Streamer.stop` and `Streamer.finish`.
* `Streamer.request`: what a request for reports is answered.
* `Stream.afterTick`: the instant of the next report.
-/

namespace VirtualPrinter.Service

open Time (Span)

/-- A task that reports at an interval on a connection. -/
structure Stream where
  generation : Nat
  connection : Nat
  interval : Span
  /-- The stream has been told to stop. -/
  stopped : Bool
  /-- The instant of the next report. -/
  due : Span
deriving DecidableEq

/-- An instant later than a tick by this much is too late to keep the rhythm. -/
def lateness : Span := .ofMillis 5

/-- The next tick of a clock with a period whose tick was due at an instant and is taken now.  A
clock that is too late skips ticks and keeps its rhythm; one that is not rings no more than thirty
years ahead. -/
def nextTick (period due now : Span) : Span :=
  if due + lateness < now then ⟨now.nanos + period.nanos - (now.nanos - due.nanos) % period.nanos⟩
  else due + period.atMost .farthest

/-- The stream after a report. -/
def Stream.afterTick (s : Stream) (now : Span) : Stream :=
  { s with due := nextTick s.interval s.due now }

section

variable (s : Stream) (now : Span)

@[simp] theorem Stream.afterTick_generation : (s.afterTick now).generation = s.generation := by
  unfold afterTick; rfl

@[simp] theorem Stream.afterTick_connection : (s.afterTick now).connection = s.connection := by
  unfold afterTick; rfl

@[simp] theorem Stream.afterTick_interval : (s.afterTick now).interval = s.interval := by
  unfold afterTick; rfl

@[simp] theorem Stream.afterTick_stopped : (s.afterTick now).stopped = s.stopped := by
  unfold afterTick; rfl

end

/-- What a stream is told to stop by: its own signal, which the shutdown of its connection gives
too. -/
structure StopSignal where
  generation : Nat
  connection : Nat
deriving DecidableEq

/-- A streamer: what it knows of the stream that runs, if one does, and the streams that have not
ended. -/
structure Streamer where
  /-- The number of streams started so far, which numbers the last one. -/
  generation : Nat
  interval : Option Span
  signal : Option StopSignal
  /-- The task of the stream, by its number. -/
  task : Option Nat
  streams : List Stream
deriving DecidableEq

namespace Streamer

/-- A streamer that has never run. -/
def new : Streamer := ⟨0, none, none, none, []⟩

/-- A stream is running. -/
def isRunning (s : Streamer) : Bool := s.signal.isSome

/-- Starts a stream on a connection, with its first report at once; a stream that is running is
kept.  An interval of no length makes no clock: nothing is ever reported, and the streamer counts as
running until it is stopped. -/
def start (s : Streamer) (now interval : Span) (connection : Nat) : Streamer :=
  if s.isRunning then s
  else
    let generation := s.generation + 1
    let stream : Stream := ⟨generation, connection, interval, false, now⟩
    let begun := if interval.isZero then [] else [stream]
    { generation := generation
      interval := some interval
      signal := some ⟨generation, connection⟩
      task := some generation
      streams := s.streams ++ begun }

/-- A request for reports: whether a stream was started for it, and the streamer.  Where tasks cannot
be started, only a stream that is running can be kept. -/
def request (s : Streamer) (runsTasks : Bool) (now interval : Span) (connection : Nat) :
    Except Error (Bool × Streamer) :=
  if s.isRunning then .ok (false, s)
  else if runsTasks then .ok (true, s.start now interval connection)
  else .error .noRuntime

/-- What a request can be answered. -/
theorem request_cases (s : Streamer) (runsTasks : Bool) (now interval : Span) (connection : Nat) :
    (s.isRunning = true ∧ s.request runsTasks now interval connection = .ok (false, s)) ∨
    (s.isRunning = false ∧ runsTasks = true ∧ s.request runsTasks now interval connection =
      .ok (true, s.start now interval connection)) ∨
    (s.isRunning = false ∧ runsTasks = false ∧
      s.request runsTasks now interval connection = .error .noRuntime) := by
  cases hs : s.isRunning <;> cases runsTasks <;> simp [request, hs]

/-- Gives a signal to the stream that it is meant for. -/
def give (streams : List Stream) (signal : StopSignal) : List Stream :=
  streams.map fun stream =>
    if stream.generation = signal.generation then { stream with stopped := true } else stream

/-- Stops the stream that is running. -/
def stop (s : Streamer) : Streamer where
  generation := s.generation
  interval := none
  signal := none
  task := none
  streams := (s.signal.map (give s.streams)).getD s.streams

/-- The stream of a generation. -/
def stream? (s : Streamer) (generation : Nat) : Option Stream :=
  s.streams.find? (·.generation == generation)

/-- The streamer after one of its streams has reported. -/
def update (s : Streamer) (stream : Stream) : Streamer :=
  { s with
    streams := s.streams.map fun other =>
      if other.generation = stream.generation then stream else other }

/-- The streamer after the stream of a generation has ended. -/
def finish (s : Streamer) (generation : Nat) : Streamer :=
  let streams := s.streams.filter (·.generation != generation)
  if s.generation = generation then
    { s with interval := none, signal := none, task := none, streams := streams }
  else { s with streams := streams }

end Streamer

end VirtualPrinter.Service
