import VirtualPrinter.Service.Duty

/-!
# Dispatch

A station is where inbound events are worked off: the queue of outbound frames, and with queued
dispatch the queue of commands and the task that consumes them.

## Main definitions

* `Service.Station`, and `Station.receive`: what an event leads to.
* `Station.stepConsumer`: one step of the task that consumes commands.
-/

namespace VirtualPrinter.Service

open Link (Pipe)
open Wire (CommandRequest DeviceId ErrorPayload Event Frame)

/-- The task that consumes commands. -/
inductive Consumer where
  /-- It has not been started. -/
  | absent
  | listening
  | working (duty : Duty)
  | done

/-- Where events are worked off. -/
structure Station where
  queue : Pipe Frame
  /-- Commands that wait for the consumer; none if commands are executed at once. -/
  jobs : Option (Pipe CommandRequest)
  consumer : Consumer
  /-- The station has been told to shut down. -/
  cancelled : Bool

namespace Station

/-- A station with a queue for outbound frames, and maybe one for commands. -/
def new (capacity : Nat) (jobCapacity : Option Nat) : Station :=
  ⟨.new capacity, jobCapacity.map .new, .absent, false⟩

/-- The answer to a command that this printer is not meant by. -/
def notServed (device : DeviceId) : Event :=
  ErrorPayload.toEvent
    ⟨some device, "device " ++ device.text ++ " is not served by this connection"⟩

/-- The answer to a command that finds no room. -/
def rejected (device : DeviceId) : Event :=
  ErrorPayload.toEvent ⟨some device, Error.queueFull.message⟩

/-- The answer to a question for the serial port. -/
def serialPortEvent (d : Device) : Event :=
  match d.serialPortInfo with
  | .ok info => info.toEvent
  | .error e => ErrorPayload.toEvent ⟨some (.ofNat d.id.toNat), e.message⟩

/-- Queues a command; a queue without room is told apart from one that is closed. -/
def submit (s : Station) (r : CommandRequest) : Option (Except Error Station) :=
  s.jobs.map fun jobs =>
    match jobs.put r with
    | .entered jobs => .ok { s with jobs := some jobs }
    | .full => .error .queueFull
    | .refused => .error .queueClosed

/-- What a command leads to.  A malformed one is passed over. -/
def receiveCommand (s : Station) (d : Device) (e : Event) : Station × Except Error Duty :=
  match CommandRequest.ofEvent e with
  | .error _ => (s, .ok .nothing)
  | .ok r =>
    if !r.deviceId.denotes d.id then (s, .ok (.ofEvent (notServed r.deviceId)))
    else match s.submit r with
      | none => (s, .ok (.ofRequest r))
      | some (.ok s) => (s, .ok .nothing)
      | some (.error .queueFull) => (s, .ok (.ofEvent (rejected r.deviceId)))
      | some (.error e) => (s, .error e)

/-- What an event leads to: what is left to do, unless the commands can no longer be queued. -/
def receive (s : Station) (d : Device) (e : Event) : Station × Except Error Duty :=
  match e.kind with
  | .registrationRequest => (s, .ok (.ofEvent d.registrationEvent))
  | .command => s.receiveCommand d e
  | .ping => (s, .ok (.ofEvent (.new "pong" e.data)))
  | .disconnect => ({ s with cancelled := true }, .ok .nothing)
  | .serialPortRequest => (s, .ok (.ofEvent (serialPortEvent d)))
  | .pong | .info | .error | .unknown => (s, .ok .nothing)

/-- Enqueues a frame if there is room: whether it has entered, and the station. -/
@[inline] def tryEnqueue (s : Station) (f : Frame) : Except Error (Bool × Station) :=
  match s.queue.put f with
  | .entered queue => .ok (true, { s with queue := queue })
  | .full => .ok (false, s)
  | .refused => .error .queueClosed

/-- The consumer ends, and the commands that wait are lost. -/
def endConsumer (s : Station) : Station :=
  { s with consumer := .done, jobs := s.jobs.map Pipe.dropTaker }

/-- Nothing more is submitted. -/
def endSubmission (s : Station) : Station :=
  { s with jobs := s.jobs.map Pipe.stopSending }

/-- One step of the consumer, if it can take one.  It looks for a shutdown before every command, not
within one. -/
def stepConsumer (s : Station) (here : Surroundings) (cancelled : Bool) (d : Device) :
    Option (Station × Device) :=
  match s.consumer, s.jobs with
  | .listening, some jobs =>
    if cancelled then some (s.endConsumer, d)
    else match jobs.take with
      | .item r jobs => some ({ s with jobs := some jobs, consumer := .working (.ofRequest r) }, d)
      | .waiting => none
      | .ended => some (s.endConsumer, d)
  | .working duty, _ =>
    match duty.next here d s.queue with
    | .finished => some ({ s with consumer := .listening }, d)
    | .failed => some (s.endConsumer, d)
    | .waiting => none
    | .moved duty d queue => some ({ s with consumer := .working duty, queue := queue }, d)
  | _, _ => none

end Station

end VirtualPrinter.Service
