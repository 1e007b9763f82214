import VirtualPrinter.Proofs.Service.Delivery

/-!
# Shutting down

A connection that shuts down waits for its tasks.  The writer looks for the shutdown before every
frame, not while it writes one, and it writes what is left and the closing frame.  So the tasks need
room on the link, and where there is too little they need the peer: a writer that finds no room waits
for it, and then the reader and the consumer of commands may wait behind a full send queue.

## Main definitions

* `Connection.Finished`: all tasks of a connection have ended.
* `Connection.Stalled`: the writer finds no room on the link, and the others have ended or wait for
  the writer.
* `Connection.HasRoom`: what the writer has still to write fits into the link.
* `Connection.toil`: a bound on the steps that are left.

## Main results

* `World.isSome_next_iff`: when one of the tasks can take a step.
* `World.canFinish_iff`: when the tasks can end without the peer.
* `World.shutdown_iff`: both, for every run; `World.shutdown_stuck`: a run that gets stuck.
-/

namespace VirtualPrinter.Service

open Link (Memory Pipe memoryCapacity)
open Time (Span)
open Wire (Frame)

/-- The duty is in line for room that the send queue has not got. -/
def Duty.Stuck (duty : Duty) (queue : Pipe Frame) : Prop :=
  duty.reply.isSome ∧ duty.waits ∧ queue.receiving ∧ queue.capacity ≤ queue.items.length

theorem Duty.next_eq_waiting_iff (duty : Duty) (here : Surroundings) (d : Device)
    (queue : Pipe Frame) : duty.next here d queue = .waiting ↔ duty.Stuck queue := by
  unfold Stuck
  cases hr : duty.reply with
  | none =>
    cases hl : duty.lines with
    | nil => simp [next_of_nothing hr hl]
    | cons line rest => simp [next_of_line hr hl]
  | some f =>
    rw [next_of_reply hr]
    cases hw : duty.waits with
    | false => cases duty.offered queue f <;> simp
    | true =>
      have ho : duty.offered queue f = queue.putInLine f := by simp only [offered, hw, if_true]
      rw [ho]
      cases hp : queue.putInLine f with
      | entered q =>
        have := (Pipe.putInLine_eq_entered_iff.mp hp).2.1
        simp only [reduceCtorEq, Option.isSome_some, true_and, false_iff]
        omega
      | full => simp [Pipe.putInLine_eq_full_iff.mp hp]
      | refused => simp [Pipe.putInLine_eq_refused_iff.mp hp]

/-- The reader has ended, or waits for room in the send queue. -/
def Reader.Rests (queue : Pipe Frame) : Reader → Prop
  | .listening => False
  | .working duty => duty.Stuck queue
  | .done => True

/-- The consumer has ended or has never been started, or waits for room in the send queue. -/
def Consumer.Rests (queue : Pipe Frame) : Consumer → Prop
  | .listening => False
  | .working duty => duty.Stuck queue
  | .absent | .done => True

namespace Connection

/-- All tasks have ended. -/
structure Finished (c : Connection) : Prop where
  consumer : c.station.consumer = .absent ∨ c.station.consumer = .done
  writer : c.writer = .done
  reader : c.reader = .done
  watch : c.watch = .done
  released : c.released

/-- The writer is about to write a text, and the link has no room for it. -/
structure Blocked (c : Connection) : Prop where
  text : c.nextText.isSome
  receiving : c.link.toPeer.receiving
  full : memoryCapacity ≤ c.link.toPeer.items.length

/-- The writer finds no room on the link, and the other tasks have ended or wait for the writer. -/
structure Stalled (c : Connection) : Prop where
  writer : c.Blocked
  reader : c.reader.Rests c.station.queue
  consumer : c.station.consumer.Rests c.station.queue
  watch : c.watch = .done
  released : c.released

instance (duty : Duty) (queue : Pipe Frame) : Decidable (duty.Stuck queue) :=
  inferInstanceAs (Decidable (_ ∧ _))

instance (queue : Pipe Frame) : (r : Reader) → Decidable (r.Rests queue)
  | .listening => .isFalse id
  | .working duty => inferInstanceAs (Decidable (duty.Stuck queue))
  | .done => .isTrue trivial

instance (queue : Pipe Frame) : (r : Consumer) → Decidable (r.Rests queue)
  | .listening => .isFalse id
  | .working duty => inferInstanceAs (Decidable (duty.Stuck queue))
  | .absent | .done => .isTrue trivial

instance : (w : Watch) → Decidable (w = .done)
  | .done => .isTrue rfl
  | .starting => .isFalse nofun
  | .ticking _ => .isFalse nofun

instance (c : Connection) : Decidable c.Blocked :=
  decidable_of_iff (c.nextText.isSome ∧ c.link.toPeer.receiving ∧
    memoryCapacity ≤ c.link.toPeer.items.length)
    ⟨fun h => ⟨h.1, h.2.1, h.2.2⟩, fun h => ⟨h.1, h.2, h.3⟩⟩

instance (c : Connection) : Decidable c.Stalled :=
  decidable_of_iff (c.Blocked ∧ c.reader.Rests c.station.queue ∧
    c.station.consumer.Rests c.station.queue ∧ c.watch = .done ∧ c.released)
    ⟨fun h => ⟨h.1, h.2.1, h.2.2.1, h.2.2.2.1, h.2.2.2.2⟩, fun h => ⟨h.1, h.2, h.3, h.4, h.5⟩⟩

/-- What the writer has still to write fits into the link, or the link is broken, or the writer has
ended. -/
def HasRoom (c : Connection) : Prop :=
  c.writer = .done ∨ c.link.toPeer.receiving = false ∨
    c.link.toPeer.items.length + c.pending.length < memoryCapacity

variable {c c' : Connection} {here : Surroundings} {d : Device} {now : Span}

/-! ### Which task can take a step -/

/-- A writer with a text to write waits for room on the link, and for nothing else. -/
theorem isSome_stepWriter_of_nextText {cancelled : Bool} {text : String}
    (ht : c.nextText = some text) :
    (c.stepWriter cancelled).isSome ↔ c.link.write text ≠ .waiting := by
  cases hw : c.writer with
  | writing f | flushing f =>
    simp only [nextText, hw, Option.some.injEq] at ht
    subst ht
    cases hl : c.link.write (String.ofList f.encode) <;> simp [stepWriter, hw, hl]
  | parting =>
    simp only [nextText, hw, Option.some.injEq] at ht
    subst ht
    cases hl : c.link.write (String.ofList Frame.closing.encode) <;> simp [stepWriter, hw, hl]
  | listening | draining | done => simp [nextText, hw] at ht

theorem write_eq_waiting_iff {text : String} (hs : c.Sound) (ht : c.nextText = some text) :
    c.link.write text = .waiting ↔ c.Blocked := by
  have hn : c.writer ≠ .done := fun hw => by simp [nextText, hw] at ht
  have hfull : c.link.toPeer.isFull ↔ memoryCapacity ≤ c.link.toPeer.items.length := by
    simp [Pipe.isFull, hs.capacity, hs.line]
  rw [Memory.write_eq_waiting_iff, hfull]
  exact ⟨fun h => ⟨by simp [ht], h.2.1, h.2.2⟩, fun h => ⟨hs.joined hn, h.receiving, h.full⟩⟩

theorem isSome_stepWriter_iff (hs : c.Sound) :
    (c.stepWriter true).isSome ↔ c.writer ≠ .done ∧ ¬c.Blocked := by
  cases ht : c.nextText with
  | some text =>
    have hn : c.writer ≠ .done := fun hw => by simp [nextText, hw] at ht
    rw [isSome_stepWriter_of_nextText ht, Ne, write_eq_waiting_iff hs ht]
    exact ⟨fun h => ⟨hn, h⟩, And.right⟩
  | none =>
    have hb : ¬c.Blocked := fun h => by simpa [ht] using h.text
    cases hw : c.writer with
    | writing f | flushing f | parting => simp [nextText, hw] at ht
    | listening => simp [stepWriter, hw, hb]
    | done => simp [stepWriter, hw]
    | draining =>
      simp only [stepWriter, hw]
      cases c.station.queue.take <;> simp [hb]

theorem isSome_stepReader_iff :
    (c.stepReader here true d).isSome ↔ ¬c.reader.Rests c.station.queue := by
  cases hr : c.reader with
  | listening => simp [stepReader, hr, Reader.Rests]
  | done => simp [stepReader, hr, Reader.Rests]
  | working duty =>
    simp only [stepReader, hr, Reader.Rests, ← Duty.next_eq_waiting_iff duty here d]
    cases duty.next here d c.station.queue <;> simp

theorem isSome_stepConsumer_iff (hs : c.Sound) :
    (c.station.stepConsumer here true d).isSome ↔
      ¬c.station.consumer.Rests c.station.queue := by
  cases hc : c.station.consumer with
  | absent => simp [Station.stepConsumer, hc, Consumer.Rests]
  | done => simp [Station.stepConsumer, hc, Consumer.Rests]
  | listening =>
    cases hj : c.station.jobs with
    | none => simp [hs.consumer hj] at hc
    | some jobs => simp [Station.stepConsumer, hc, hj, Consumer.Rests]
  | working duty =>
    simp only [Station.stepConsumer, hc, Consumer.Rests,
      ← Duty.next_eq_waiting_iff duty here d]
    cases duty.next here d c.station.queue <;> simp

theorem isSome_stepWatch_iff : (c.stepWatch now true).isSome ↔ c.watch ≠ .done := by
  cases hw : c.watch <;> simp [stepWatch, hw]

/-- Nobody waits behind a send queue that has been closed. -/
theorem finished_of_rests (hs : c.Sound) (hw : c.writer = .done)
    (hr : c.reader.Rests c.station.queue) (hc : c.station.consumer.Rests c.station.queue)
    (hwatch : c.watch = .done) (hreleased : c.released) : c.Finished := by
  have hq : c.station.queue.receiving = false := hs.closed.mpr (by rw [hw]; trivial)
  have hstuck (duty : Duty) : ¬duty.Stuck c.station.queue := fun h => by
    simpa [hq] using h.2.2.1
  refine ⟨?_, hw, ?_, hwatch, hreleased⟩
  · cases hcon : c.station.consumer with
    | absent => exact .inl rfl
    | done => exact .inr rfl
    | listening => rw [hcon] at hc; exact hc.elim
    | working duty => rw [hcon] at hc; exact absurd hc (hstuck duty)
  · cases hread : c.reader with
    | done => rfl
    | listening => rw [hread] at hr; exact hr.elim
    | working duty => rw [hread] at hr; exact absurd hr (hstuck duty)

end Connection

namespace World

variable {w : World} {id : Nat} {c : Connection}

/-- **When one of the tasks can take a step**: the tasks of a connection that shuts down and has not
finished are stuck in one case only. -/
theorem isSome_next_iff (hs : c.Sound) (hi : w.connections[id]? = some c)
    (hcancel : w.isCancelled c) (hf : ¬c.Finished) :
    (∃ t ∈ tasksOf id, (w.next t).isSome) ↔ ¬c.Stalled := by
  have hsteps : (∃ t ∈ tasksOf id, (w.next t).isSome) ↔
      ¬c.station.consumer.Rests c.station.queue ∨ (c.writer ≠ .done ∧ ¬c.Blocked) ∨
        ¬c.reader.Rests c.station.queue ∨ c.watch ≠ .done ∨ c.released = false := by
    simp only [tasksOf, List.mem_cons, List.not_mem_nil, or_false, exists_eq_or_imp,
      exists_eq_left, next, hi, Option.bind_some, hcancel, Option.isSome_map, stepSupervisor,
      Connection.isSome_stepConsumer_iff hs, Connection.isSome_stepWriter_iff hs,
      Connection.isSome_stepReader_iff, Connection.isSome_stepWatch_iff, Bool.and_true]
    cases c.released <;> simp
  rw [hsteps]
  constructor
  -- a stalled connection has no task that can go on
  · rintro h ⟨hb, hr, hc, hwatch, hreleased⟩
    simp [hb, hr, hc, hwatch, hreleased] at h
  · intro h
    refine Classical.byContradiction fun hno => ?_
    -- where no task can go on, the writer has ended or waits for the link; in the first case
    -- nobody waits behind it
    simp only [not_or, Classical.not_not, not_and, Bool.not_eq_false] at hno
    obtain ⟨hc, hw, hr, hwatch, hreleased⟩ := hno
    by_cases hd : c.writer = .done
    · exact hf (Connection.finished_of_rests hs hd hr hc hwatch hreleased)
    · exact h ⟨hw hd, hr, hc, hwatch, hreleased⟩

end World

/-! ### What is left to do -/

/-- The steps that a writer takes with so many frames in the send queue until it ends. -/
def Writer.toil (n : Nat) : Writer → Nat
  | .listening => 2 * n + 3
  | .writing _ => 2 * n + 4
  | .draining => 2 * n + 2
  | .flushing _ => 2 * n + 3
  | .parting => 1
  | .done => 0

/-- A bound on the steps that a reader takes until it ends. -/
def Reader.toil : Reader → Nat
  | .listening => 1
  | .working duty => duty.lines.length + 2
  | .done => 0

/-- A bound on the steps that a consumer takes until it ends. -/
def Consumer.toil : Consumer → Nat
  | .listening => 1
  | .working duty => duty.lines.length + 2
  | .absent | .done => 0

/-- The steps that a timer takes until it ends. -/
def Watch.toil : Watch → Nat
  | .starting | .ticking _ => 1
  | .done => 0

namespace Connection

/-- A bound on the steps that the tasks of a connection take when it shuts down. -/
def toil (c : Connection) : Nat :=
  c.writer.toil c.station.queue.items.length + c.reader.toil + c.station.consumer.toil +
    c.watch.toil + (!c.released).toNat

/-- A step that brings a connection that shuts down closer to its end. -/
structure Nearer (c c' : Connection) : Prop where
  room : c'.HasRoom
  toil : c'.toil < c.toil
  parent : c'.parent = c.parent
  cancelled : c.station.cancelled → c'.station.cancelled

variable {c c' : Connection} {here : Surroundings} {d : Device} {now : Span}

theorem not_blocked_of_hasRoom (hr : c.HasRoom) (hn : c.writer ≠ .done) : ¬c.Blocked := by
  rintro ⟨-, hreceiving, hfull⟩
  rcases hr with h | h | h
  · exact hn h
  · simp [h] at hreceiving
  · omega

/-- The writer of a connection that shuts down goes on as long as there is room. -/
theorem exists_stepWriter_nearer (hs : c.Sound) (hr : c.HasRoom) (hn : c.writer ≠ .done) :
    ∃ c', c.stepWriter true = some c' ∧ c.Nearer c' := by
  obtain ⟨c', hc'⟩ := Option.isSome_iff_exists.mp
    ((isSome_stepWriter_iff hs).mpr ⟨hn, not_blocked_of_hasRoom hr hn⟩)
  refine ⟨c', hc', ?_⟩
  have hroom : c.link.toPeer.receiving = false ∨
      c.link.toPeer.items.length + c.pending.length < memoryCapacity := hr.resolve_left hn
  obtain ⟨text, failed, hstep⟩ := exists_writerStep hc'
  cases hstep with
  | close hw hc =>
    refine ⟨.inr ?_, ?_, rfl, id⟩
    · simpa [pending, hw, withQueue, Pipe.stopReceiving] using hroom
    · simp [toil, hw, Writer.toil, withQueue, Pipe.stopReceiving]
  | take hw hc hq => cases hc
  | draw hw hq =>
    refine ⟨.inr ?_, ?_, rfl, id⟩
    · simpa [pending, hw, withQueue, Pipe.items_take hq] using hroom
    · simp only [toil, hw, Writer.toil, withQueue, Pipe.items_take hq, List.length_cons]
      omega
  | part hw hq =>
    refine ⟨.inr ?_, ?_, rfl, id⟩
    · simpa [pending, hw] using hroom
    · simp only [toil, hw, Writer.toil]
      omega
  | send hw hl =>
    obtain ⟨-, -, -, rfl⟩ := Memory.write_eq_done_iff.mp hl
    refine ⟨.inr ?_, ?_, rfl, id⟩
    · refine hroom.imp id fun h => ?_
      simp only [pending, hw, List.length_cons] at h
      simp only [pending, wrote, List.length_append, List.length_singleton]
      omega
    · simp only [toil, hw, Writer.toil, wrote]
      omega
  | flush hw hl =>
    obtain ⟨-, -, -, rfl⟩ := Memory.write_eq_done_iff.mp hl
    refine ⟨.inr ?_, ?_, rfl, id⟩
    · refine hroom.imp id fun h => ?_
      simp only [pending, hw, List.length_cons] at h
      simp only [pending, wrote, List.length_append, List.length_singleton]
      omega
    · simp only [toil, hw, Writer.toil, wrote]
      omega
  | farewell hw hl =>
    refine ⟨.inl rfl, ?_, rfl, fun _ => rfl⟩
    simp [toil, hw, Writer.toil, endWriter, cancel, withQueue]
  | fail hw ht hl =>
    refine ⟨.inl rfl, ?_, rfl, fun _ => rfl⟩
    have hpos : 0 < c.writer.toil c.station.queue.items.length := by
      cases hc : c.writer with
      | listening | draining | done => simp [nextText, hc] at ht
      | writing f | flushing f | parting => simp [Writer.toil]
    have hdone (n : Nat) : Writer.toil n .done = 0 := rfl
    simp only [toil, endWriter, cancel, withQueue, hdone]
    omega
  | failFlush hw hl =>
    refine ⟨.inr (.inl (hs.receiving_eq_false hn hl)), ?_, rfl, id⟩
    simp only [toil, hw, Writer.toil]
    omega

/-- Where the send queue is closed a duty fails at its next frame. -/
theorem next_cases_of_closed {queue : Pipe Frame} (hq : queue.receiving = false) (duty : Duty)
    (here : Surroundings) (d : Device) :
    duty.next here d queue = .failed ∨ duty.next here d queue = .finished ∨
      ∃ duty' d', duty.next here d queue = .moved duty' d' queue ∧
        duty'.lines.length < duty.lines.length := by
  cases hr : duty.reply with
  | some f => simp [Duty.next_of_reply hr, Duty.offered_eq_refused_iff.mpr hq]
  | none =>
    cases hl : duty.lines with
    | nil => simp [Duty.next_of_nothing hr hl]
    | cons line rest =>
      refine .inr (.inr ⟨_, _, Duty.next_of_line hr hl, ?_⟩)
      simp

/-- When the writer has ended, the reader goes on. -/
theorem exists_stepReader_nearer (hs : c.Sound) (hw : c.writer = .done) (hr : c.reader ≠ .done)
    (here : Surroundings) (d : Device) :
    ∃ c' d', c.stepReader here true d = some (c', d') ∧ c.Nearer c' := by
  have hq : c.station.queue.receiving = false := hs.closed.mpr (by rw [hw]; trivial)
  cases hread : c.reader with
  | done => exact absurd hread hr
  | listening =>
    refine ⟨c.endReader, d, by simp [stepReader, hread], .inl hw, ?_, rfl, fun _ => rfl⟩
    simp only [toil, endReader, Station.endSubmission, hread, Reader.toil]
    omega
  | working duty =>
    rcases next_cases_of_closed hq duty here d with
      h | h | ⟨duty', d', h, hlt⟩
    · refine ⟨c.endReader, d, by simp [stepReader, hread, h], .inl hw, ?_, rfl, fun _ => rfl⟩
      simp only [toil, endReader, Station.endSubmission, hread, Reader.toil]
      omega
    · refine ⟨{ c with reader := .listening }, d, by simp [stepReader, hread, h], .inl hw, ?_, rfl,
        id⟩
      simp only [toil, hread, Reader.toil]
      omega
    · refine ⟨{ c with reader := .working duty' }, d', ?_, .inl hw, ?_, rfl, id⟩
      · simp [stepReader, hread, h, withQueue]
      · simp only [toil, hread, Reader.toil]
        omega

/-- When the writer has ended, the consumer goes on. -/
theorem exists_stepConsumer_nearer (hs : c.Sound) (hw : c.writer = .done)
    (hc : c.station.consumer ≠ .absent ∧ c.station.consumer ≠ .done) (here : Surroundings)
    (d : Device) :
    ∃ s d', c.station.stepConsumer here true d = some (s, d') ∧
      c.Nearer { c with station := s } := by
  have hq : c.station.queue.receiving = false := hs.closed.mpr (by rw [hw]; trivial)
  cases hcon : c.station.consumer with
  | absent => exact absurd hcon hc.1
  | done => exact absurd hcon hc.2
  | listening =>
    cases hj : c.station.jobs with
    | none => simp [hs.consumer hj] at hcon
    | some jobs =>
      refine ⟨c.station.endConsumer, d, by simp [Station.stepConsumer, hcon, hj], .inl hw, ?_, rfl,
        id⟩
      simp only [toil, Station.endConsumer, hcon, Consumer.toil]
      omega
  | working duty =>
    rcases next_cases_of_closed hq duty here d with
      h | h | ⟨duty', d', h, hlt⟩
    · refine ⟨c.station.endConsumer, d, by simp [Station.stepConsumer, hcon, h], .inl hw, ?_, rfl,
        id⟩
      simp only [toil, Station.endConsumer, hcon, Consumer.toil]
      omega
    · refine ⟨{ c.station with consumer := .listening }, d,
        by simp [Station.stepConsumer, hcon, h], .inl hw, ?_, rfl, id⟩
      simp only [toil, hcon, Consumer.toil]
      omega
    · refine ⟨{ c.station with consumer := .working duty' }, d', ?_, .inl hw, ?_, rfl, id⟩
      · simp [Station.stepConsumer, hcon, h]
      · simp only [toil, hcon, Consumer.toil]
        omega

/-- The timer ends at once. -/
theorem stepWatch_nearer (hw : c.writer = .done) (hwatch : c.watch ≠ .done) (now : Span) :
    c.stepWatch now true = some { c with watch := .done } ∧ c.Nearer { c with watch := .done } := by
  cases hk : c.watch with
  | done => exact absurd hk hwatch
  | starting | ticking =>
    refine ⟨by simp [stepWatch, hk], .inl hw, ?_, rfl, id⟩
    simp [toil, hk, Watch.toil]

/-- What has not ended, when the writer has. -/
theorem unfinished_cases (hw : c.writer = .done) (hf : ¬c.Finished) :
    c.reader ≠ .done ∨ (c.station.consumer ≠ .absent ∧ c.station.consumer ≠ .done) ∨
      c.watch ≠ .done ∨ c.released = false := by
  refine Classical.byContradiction fun h => hf ?_
  simp only [not_or, not_and, Classical.not_not, ne_eq, Bool.not_eq_false] at h
  obtain ⟨hr, hc, hwatch, hreleased⟩ := h
  refine ⟨?_, hw, hr, hwatch, hreleased⟩
  by_cases ha : c.station.consumer = .absent
  · exact .inl ha
  · exact .inr (hc ha)

/-- Without the peer, the tasks make no room. -/
theorem hasRoom_of_after {m : Move} (hs : c.Sound) (hp : m.isHangUp = false)
    (hx : c.received m = none) (ha : c.after m = some c') (hr : c'.HasRoom) : c.HasRoom := by
  rcases after_cases ha with ⟨cancelled, rfl, ha⟩ | hl
  · obtain ⟨text, failed, hstep⟩ := exists_writerStep ha
    cases hstep with
    | close hw | part hw =>
      refine .inr ((hr.resolve_left (by simp)).imp id fun h => ?_)
      simpa [pending, hw, withQueue, Pipe.stopReceiving] using h
    | take hw _ hq | draw hw hq =>
      refine .inr ((hr.resolve_left (by simp)).imp id fun h => ?_)
      simpa [pending, hw, withQueue, Pipe.items_take hq] using h
    | send hw hl | flush hw hl =>
      obtain ⟨-, -, -, rfl⟩ := Memory.write_eq_done_iff.mp hl
      refine .inr ((hr.resolve_left (by simp [wrote])).imp id fun h => ?_)
      simp only [pending, wrote, List.length_append, List.length_singleton] at h
      simp only [pending, hw, List.length_cons]
      omega
    | farewell hw hl =>
      -- the closing frame has found room, and nothing else is left to write
      obtain ⟨-, hreceiving, hfull, -⟩ := Memory.write_eq_done_iff.mp hl
      refine .inr (.inr ?_)
      simpa [pending, hw, hs.parted hw hreceiving, Pipe.isFull, hs.capacity, hs.line] using hfull
    | fail hw ht hl =>
      exact .inr (.inl (hs.receiving_eq_false (fun hn => by simp [nextText, hn] at ht) hl))
    | failFlush hw hl => exact .inr (.inl (hs.receiving_eq_false (by simp [hw]) hl))
  · rw [hx, hp] at hl
    have hlink : c'.link.toPeer = c.link.toPeer := by
      cases hl.toPeer with
      | nothing h => exact h
    unfold HasRoom at hr
    rw [hl.writer, hlink, hl.pending_eq, List.length_append] at hr
    exact hr.imp id fun h => h.imp id fun h => by omega

end Connection

namespace World

variable {w w' : World} {id : Nat} {c c' : Connection}

/-- The tasks of a connection can end by steps of their own. -/
def CanFinish (w : World) (id : Nat) : Prop :=
  ∃ (tasks : List Task) (w' : World) (c' : Connection), (∀ t ∈ tasks, t ∈ tasksOf id) ∧
    w.play (tasks.map .step) = some w' ∧ w'.connections[id]? = some c' ∧ c'.Finished

theorem isCancelled_of_nearer (hn : c.Nearer c') (ho : w'.ordered = w.ordered)
    (h : w.isCancelled c) : w'.isCancelled c' := by
  unfold isCancelled at h ⊢
  rw [ho, hn.parent]
  rcases Bool.or_eq_true_iff.mp h with h | h
  · simp [hn.cancelled h]
  · simp [h]

theorem connections_update_self (hi : w.connections[id]? = some c) :
    (w.update id c').connections[id]? = some c' := by
  obtain ⟨hlt, -⟩ := List.getElem?_eq_some_iff.mp hi
  simp [update, hlt]

/-- As long as there is room, one of the tasks goes on. -/
theorem exists_next_nearer (hs : c.Sound) (hi : w.connections[id]? = some c)
    (hcancel : w.isCancelled c) (hroom : c.HasRoom) (hf : ¬c.Finished) :
    ∃ t ∈ tasksOf id, ∃ w' c', w.next t = some w' ∧ w'.connections[id]? = some c' ∧
      w'.isCancelled c' ∧ c.Nearer c' := by
  by_cases hw : c.writer = .done
  -- the writer first; when it has ended, nobody waits any more
  · rcases Connection.unfinished_cases hw hf with hr | hc | hwatch | hreleased
    · obtain ⟨c', d', hc', hn⟩ := Connection.exists_stepReader_nearer hs hw hr w.here w.device
      exact ⟨.reader id, by simp [tasksOf], { w.update id c' with device := d' }, c',
        by simp [next, hi, hcancel, hc'], connections_update_self hi,
        isCancelled_of_nearer hn rfl hcancel, hn⟩
    · obtain ⟨s, d', hs', hn⟩ := Connection.exists_stepConsumer_nearer hs hw hc w.here w.device
      exact ⟨.consumer id, by simp [tasksOf],
        { w.update id { c with station := s } with device := d' }, { c with station := s },
        by simp [next, hi, hcancel, hs'], connections_update_self hi,
        isCancelled_of_nearer hn rfl hcancel, hn⟩
    · obtain ⟨hc', hn⟩ := Connection.stepWatch_nearer hw hwatch w.now
      exact ⟨.watch id, by simp [tasksOf], w.update id { c with watch := .done },
        { c with watch := .done }, by simp [next, hi, hcancel, hc'], connections_update_self hi,
        isCancelled_of_nearer hn rfl hcancel, hn⟩
    · have hn : c.Nearer { c with session := c.session.close, released := true } :=
        ⟨.inl hw, by simp [Connection.toil, hreleased], rfl, fun h => h⟩
      refine ⟨.supervisor id, by simp [tasksOf],
        { w.update id { c with session := c.session.close, released := true } with
          device := w.device.release id }, _, ?_, connections_update_self hi,
        isCancelled_of_nearer hn rfl hcancel, hn⟩
      simp [next, hi, hcancel, stepSupervisor, hreleased]
      rfl
  · obtain ⟨c', hc', hn⟩ := Connection.exists_stepWriter_nearer hs hroom hw
    exact ⟨.writer id, by simp [tasksOf], w.update id c', c', by simp [next, hi, hcancel, hc'],
      connections_update_self hi, isCancelled_of_nearer hn rfl hcancel, hn⟩

theorem sound_of_next {t : Task} (hs : c.Sound) (hi : w.connections[id]? = some c)
    (h : w.next t = some w') (hi' : w'.connections[id]? = some c') : c'.Sound := by
  obtain ⟨c₁, hm, hc₁⟩ := apply_connection (a := .step t) h hi
  obtain rfl : c₁ = c' := Option.some.inj (hc₁.symm.trans hi')
  exact hs.after hm

theorem hasRoom_of_next {t : Task} (ht : t ∈ tasksOf id) (hs : c.Sound)
    (hi : w.connections[id]? = some c) (h : w.next t = some w')
    (hi' : w'.connections[id]? = some c') (hr : c'.HasRoom) : c.HasRoom := by
  obtain ⟨c₁, hm, hc₁⟩ := apply_connection (a := .step t) h hi
  obtain rfl : c₁ = c' := Option.some.inj (hc₁.symm.trans hi')
  simp only [tasksOf, List.mem_cons, List.not_mem_nil, or_false] at ht
  rcases ht with rfl | rfl | rfl | rfl | rfl <;>
    simp only [moveOf, site, if_true, moveAt] at hm <;>
    exact Connection.hasRoom_of_after hs rfl rfl hm hr

/-- **When the tasks can end without the peer**: when what the writer has still to write fits into
the link. -/
theorem canFinish_iff (hs : c.Sound) (hi : w.connections[id]? = some c)
    (hcancel : w.isCancelled c) : w.CanFinish id ↔ c.HasRoom := by
  constructor
  · rintro ⟨tasks, w', c', ht, hp, hi', hf⟩
    clear hcancel
    -- backwards from the end, where there is room: no step of the tasks has made it
    induction tasks generalizing w c with
    | nil =>
      cases hp
      obtain rfl : c = c' := Option.some.inj (hi.symm.trans hi')
      exact .inl hf.writer
    | cons t rest ih =>
      obtain ⟨w₁, h, hp⟩ := Option.bind_eq_some_iff.mp hp
      obtain ⟨c₁, -, hc₁⟩ := apply_connection h hi
      refine hasRoom_of_next (ht t List.mem_cons_self) hs hi h hc₁ ?_
      exact ih (sound_of_next hs hi h hc₁) hc₁ (fun t h => ht t (List.mem_cons_of_mem _ h)) hp
  · intro hroom
    -- forwards: as long as there is room some task comes closer to its end
    induction hn : c.toil using Nat.strongRecOn generalizing w c with
    | ind n ih =>
      by_cases hf : c.Finished
      · exact ⟨[], w, c, nofun, rfl, hi, hf⟩
      · obtain ⟨t, ht, w₁, c₁, h, hc₁, hcancel₁, hnear⟩ := exists_next_nearer hs hi hcancel hroom hf
        obtain ⟨tasks, w', c', htasks, hp, hi', hf'⟩ := ih c₁.toil (hn ▸ hnear.toil)
          (sound_of_next hs hi h hc₁) hc₁ hcancel₁ hnear.room rfl
        refine ⟨t :: tasks, w', c', ?_, ?_, hi', hf'⟩
        · simpa [ht] using htasks
        · simp only [play, List.map_cons, List.foldlM_cons, apply, h]
          exact hp

theorem sound_of_run {w₀ w₁ w : World} {config : Config} {parent : Option Nat} {link : Memory}
    {h : World.History} {c : Connection} (hl : link.toPeer = .new memoryCapacity)
    (he : w₀.establish config parent link = .ok w₁) (hr : w₁.Run h w)
    (hi : w.connections[w₀.connections.length]? = some c) : c.Sound := by
  obtain ⟨c₀, hc₀, hfresh⟩ := establish_fresh hl he
  obtain ⟨c', hc', hm⟩ := hr.moves hc₀
  obtain rfl : c' = c := Option.some.inj (hc'.symm.trans hi)
  exact hm.sound hfresh.sound

/-- **How a shutdown depends on the peer**, in every run from the start of a connection over a link in
memory: of the tasks that have not ended one can take a step, unless the connection is stalled; and
without the peer all of them can end just when there is room for what the writer has still to write. -/
theorem shutdown_iff {w₀ w₁ w : World} {config : Config} {parent : Option Nat} {link : Memory}
    {h : World.History} {c : Connection} (hl : link.toPeer = .new memoryCapacity)
    (he : w₀.establish config parent link = .ok w₁) (hr : w₁.Run h w)
    (hi : w.connections[w₀.connections.length]? = some c) (hcancel : w.isCancelled c) :
    (¬c.Finished →
      ((∃ t ∈ tasksOf w₀.connections.length, (w.next t).isSome) ↔ ¬c.Stalled)) ∧
    (w.CanFinish w₀.connections.length ↔ c.HasRoom) := by
  have hs := sound_of_run hl he hr hi
  exact ⟨isSome_next_iff hs hi hcancel, canFinish_iff hs hi hcancel⟩

/-- A connection shuts down while one frame is under way and one is in the send queue. -/
def earlyClose : List Act :=
  [.offer 0 ⟨.pong, some "a"⟩, .offer 0 ⟨.pong, some "b"⟩, .step (.writer 0), .close 0]

theorem shutdown_iff_earlyClose :
    ∃ w₁ w c, standard.establish .standard none freshLink = .ok w₁ ∧
      w₁.play earlyClose = some w ∧ w.connections[0]? = some c ∧ w.isCancelled c ∧ ¬c.Finished ∧
      (∃ t ∈ tasksOf 0, (w.next t).isSome) ∧ w.CanFinish 0 := by
  have h := @shutdown_iff standard _ _ .standard none freshLink _ _ rfl rfl
    (@run_of_play _ _ earlyClose rfl) rfl rfl
  refine ⟨_, _, _, rfl, rfl, rfl, rfl, ?_, (h.1 ?_).mpr ?_, h.2.mpr (.inr (.inr ?_))⟩
  · exact fun hf => by cases hf.writer
  · exact fun hf => by cases hf.writer
  · exact fun hs => by cases hs.watch
  · decide

/-- A peer takes nothing: the link is full, and the writer has one more frame to write when the
connection shuts down and the other tasks end. -/
def unread : List Act :=
  (List.replicate 255 [.offer 0 ⟨.pong, none⟩, .step (.writer 0), .step (.writer 0)]).flatten ++
    [.offer 0 ⟨.pong, none⟩, .step (.writer 0), .close 0, .step (.reader 0), .step (.watch 0),
      .step (.supervisor 0)]

/-- **A shutdown that is stuck**: no task can take a step, and the tasks cannot end. -/
theorem shutdown_stuck :
    ∃ w₁ w c, standard.establish .standard none freshLink = .ok w₁ ∧ w₁.play unread = some w ∧
      w.connections[0]? = some c ∧ w.isCancelled c ∧ ¬c.Finished ∧
      (∀ t ∈ tasksOf 0, w.next t = none) ∧ ¬w.CanFinish 0 := by
  obtain ⟨w₁, he⟩ : ∃ w₁, standard.establish .standard none freshLink = .ok w₁ := ⟨_, rfl⟩
  -- the acts are played, and the connection that they lead to is stalled
  have hrun : ((standard.establish .standard none freshLink).toOption.bind (·.play unread)).any
      (fun w => w.connections[0]?.any fun c => w.isCancelled c && decide c.Stalled) := by
    decide +kernel
  rw [he] at hrun
  obtain ⟨w, hp, h⟩ := (Option.any_eq_true _ _).mp hrun
  obtain ⟨c, hc, h⟩ := (Option.any_eq_true _ _).mp h
  obtain ⟨hcancel, hstalled⟩ := Bool.and_eq_true_iff.mp h
  have hstalled : c.Stalled := of_decide_eq_true hstalled
  have hs : c.Sound := sound_of_run rfl he (run_of_play hp) hc
  have hn : c.writer ≠ .done := fun hn => by
    simpa [Connection.nextText, hn] using hstalled.writer.text
  have hf : ¬c.Finished := fun hf => hn hf.writer
  refine ⟨w₁, w, c, he, hp, hc, hcancel, hf, fun t ht => ?_, fun hfin => ?_⟩
  · refine Option.not_isSome_iff_eq_none.mp fun h => ?_
    exact (isSome_next_iff hs hc hcancel hf).mp ⟨t, ht, h⟩ hstalled
  · have hroom := (canFinish_iff hs hc hcancel).mp hfin
    exact Connection.not_blocked_of_hasRoom hroom hn hstalled.writer

end World

end VirtualPrinter.Service
