import VirtualPrinter.Link.Pipe
import VirtualPrinter.Service.Device
import VirtualPrinter.Text.Lines
import VirtualPrinter.Wire.Frame

/-!
# Answering

What is left to do about an inbound frame or a queued command is a duty: a frame that waits for room
in the send queue, and instruction lines that have not been executed.  The lines are executed one by
one, each after the answer to the one before it has entered the queue.

## Main definitions

* `Service.Duty`, and `Duty.next`: one step of it.
-/

namespace VirtualPrinter.Service

open Link (Pipe)
open Wire (CommandRequest CommandResponse DeviceId Frame)

/-- What is left to do: a frame to enqueue, and lines to execute on behalf of a peer that named the
printer in its own way. -/
structure Duty where
  reply : Option Frame
  device : DeviceId
  lines : List (List Char)
  /-- The frame is in line for room in the send queue. -/
  waits : Bool

namespace Duty

/-- Nothing to do. -/
def nothing : Duty := ⟨none, ⟨""⟩, [], false⟩

/-- A frame to enqueue. -/
def ofFrame (f : Frame) : Duty := ⟨some f, ⟨""⟩, [], false⟩

/-- An event to enqueue. -/
def ofEvent (e : Wire.Event) : Duty := .ofFrame (.message e)

/-- A command to execute. -/
def ofRequest (r : CommandRequest) : Duty :=
  ⟨none, r.deviceId, Text.lines r.instruction.toList, false⟩

/-- The frame of an answer; there is none for an empty one. -/
def answerFrame (device : DeviceId) (answer : String) : Option Frame :=
  if answer.isEmpty then none
  else some (.message (CommandResponse.toEvent ⟨device, answer⟩))

end Duty

/-- What becomes of a duty in one step. -/
inductive DutyStep where
  /-- Nothing is left to do. -/
  | finished
  /-- The send queue lets nothing in any more. -/
  | failed
  /-- The send queue has no room. -/
  | waiting
  | moved (duty : Duty) (device : Device) (queue : Pipe Frame)

/-- One step of a duty: a frame enters the queue or gets in line, or else a line is executed. -/
def Duty.next (duty : Duty) (here : Surroundings) (d : Device) (queue : Pipe Frame) : DutyStep :=
  match duty.reply, duty.lines with
  | some f, _ =>
    match if duty.waits then queue.putInLine f else queue.put f with
    | .entered queue => .moved { duty with reply := none, waits := false } d queue
    | .full =>
      if duty.waits then .waiting else .moved { duty with waits := true } d queue.joinLine
    | .refused => .failed
  | none, line :: rest =>
    let (d, answer) := d.execute here line
    .moved ⟨answerFrame duty.device answer, duty.device, rest, false⟩ d queue
  | none, [] => .finished

end VirtualPrinter.Service
