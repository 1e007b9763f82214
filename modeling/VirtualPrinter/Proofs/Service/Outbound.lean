import VirtualPrinter.Proofs.Link.Pipe
import VirtualPrinter.Proofs.Service.Move
import VirtualPrinter.Proofs.Service.Watch

/-!
# The way out

The outbound side of a connection is its send queue, its writer and the pipe to the peer.  The writer
alone takes from the queue and writes to the pipe; every other move adds at most one frame to the
queue, the one that its producer is told to have entered, and leaves the writer and its count alone.

## Main definitions

* `Connection.LeavesWriter`: what moves other than the writer's do to the outbound side.
* `Connection.WriterStep`: what the writer can do.

## Main results

* `Duty.next_fed`, `Station.tryEnqueue_fed`: what a producer does to the send queue.
* `Connection.after_cases`, `Connection.stepWriter_cases`: what a move does to it.
-/

namespace VirtualPrinter.Service

open Link (Memory Pipe memoryCapacity)
open Time (Span)
open Wire (Frame)

/-! ### The producers -/

namespace Duty

variable {duty : Duty} {here : Surroundings} {d : Device} {queue queue' : Pipe Frame} {f : Frame}

theorem next_of_reply (h : duty.reply = some f) :
    duty.next here d queue = match duty.offered queue f with
      | .entered queue => .moved { duty with reply := none, waits := false } d queue
      | .full =>
        if duty.waits then .waiting else .moved { duty with waits := true } d queue.joinLine
      | .refused => .failed := by
  obtain ⟨reply, device, lines, waits⟩ := duty
  obtain rfl : reply = some f := h
  rfl

theorem next_of_line {line : List Char} {rest : List (List Char)} (h : duty.reply = none)
    (hl : duty.lines = line :: rest) :
    duty.next here d queue =
      .moved ⟨answerFrame duty.device (d.execute here line).2, duty.device, rest, false⟩
        (d.execute here line).1 queue := by
  simp only [next, h, hl]

theorem next_of_nothing (h : duty.reply = none) (hl : duty.lines = []) :
    duty.next here d queue = .finished := by
  simp only [next, h, hl]

theorem accepted_of_reply (h : duty.reply = some f) :
    duty.accepted queue = match duty.offered queue f with
      | .entered _ => some f
      | .full | .refused => none := by
  obtain ⟨reply, device, lines, waits⟩ := duty
  obtain rfl : reply = some f := h
  rfl

theorem offered_fed (h : duty.offered queue f = .entered queue') : queue.Fed queue' (some f) := by
  unfold offered at h
  split at h
  · exact Pipe.putInLine_fed h
  · exact Pipe.put_fed h

/-- What a duty with a frame does when it can go on: the frame enters the queue, or gets in line. -/
theorem moved_of_reply {duty' : Duty} {d' : Device} (hr : duty.reply = some f)
    (h : duty.next here d queue = .moved duty' d' queue') : d' = d ∧
      (duty' = { duty with reply := none, waits := false } ∧ queue'.items = queue.items ++ [f] ∨
        duty.waits = false ∧ duty' = { duty with waits := true } ∧ queue'.items = queue.items) := by
  rw [next_of_reply hr] at h
  cases ho : duty.offered queue f with
  | entered q =>
    rw [ho] at h
    cases h
    exact ⟨rfl, .inl ⟨rfl, (offered_fed ho).items⟩⟩
  | refused =>
    rw [ho] at h
    cases h
  | full =>
    rw [ho] at h
    cases hw : duty.waits with
    | true => simp [hw] at h
    | false =>
      simp only [hw, Bool.false_eq_true, if_false] at h
      cases h
      exact ⟨rfl, .inr ⟨rfl, rfl, rfl⟩⟩

theorem offered_eq_refused_iff : duty.offered queue f = .refused ↔ queue.receiving = false := by
  unfold offered
  split
  · exact Pipe.putInLine_eq_refused_iff
  · exact Pipe.put_eq_refused_iff

/-- A frame that fits enters, whether or not its sender is in line. -/
theorem exists_offered {n : Nat} (f : Frame) (hq : queue.receiving) (hfits : queue.Fits (n + 1)) :
    ∃ queue', duty.offered queue f = .entered queue' ∧ queue'.Fits n := by
  unfold Pipe.Fits at hfits
  unfold offered
  split
  · refine ⟨_, Pipe.putInLine_eq_entered_iff.mpr ⟨hq, by omega, rfl⟩, ?_⟩
    simp only [Pipe.Fits, Pipe.leaveLine, List.length_append, List.length_singleton]
    omega
  · have hfull : queue.isFull = false := by
      simp only [Pipe.isFull, decide_eq_false_iff_not]
      omega
    refine ⟨_, Pipe.put_eq_entered_iff.mpr ⟨hq, hfull, rfl⟩, ?_⟩
    simp only [Pipe.Fits, List.length_append, List.length_singleton]
    omega

/-- What a duty does to the send queue: the frame that it is told to have entered has entered. -/
theorem next_fed (duty : Duty) (here : Surroundings) (d : Device) (queue : Pipe Frame) :
    match duty.next here d queue with
    | .moved _ _ queue' => queue.Fed queue' (duty.accepted queue)
    | .finished | .failed | .waiting => duty.accepted queue = none := by
  cases hr : duty.reply with
  | none =>
    have ha : duty.accepted queue = none := by simp only [accepted, hr]
    cases hl : duty.lines with
    -- without a frame to enqueue, only the printer changes
    | nil => rw [next_of_nothing hr hl, ha]
    | cons line rest =>
      rw [next_of_line hr hl, ha]
      exact .refl queue
  | some f =>
    rw [next_of_reply hr, accepted_of_reply hr]
    -- a frame enters as its producer is told; getting in line adds nothing
    cases ho : duty.offered queue f with
    | entered queue' => exact offered_fed ho
    | refused => rfl
    | full =>
      cases duty.waits with
      | true => rfl
      | false => exact Pipe.joinLine_fed queue

end Duty

theorem Station.tryEnqueue_fed {s s' : Station} {f : Frame} {entered : Bool}
    (h : s.tryEnqueue f = .ok (entered, s')) :
    s' = { s with queue := s'.queue } ∧
      s.queue.Fed s'.queue (if entered then some f else none) := by
  unfold tryEnqueue at h
  cases hp : s.queue.put f with
  | entered queue =>
    simp only [hp, Except.ok.injEq, Prod.mk.injEq] at h
    obtain ⟨rfl, rfl⟩ := h
    exact ⟨rfl, Pipe.put_fed hp⟩
  | full =>
    simp only [hp, Except.ok.injEq, Prod.mk.injEq] at h
    obtain ⟨rfl, rfl⟩ := h
    exact ⟨rfl, .refl _⟩
  | refused => simp [hp] at h

theorem Station.stepConsumer_fed {s s' : Station} {here : Surroundings} {cancelled : Bool}
    {d d' : Device} (h : s.stepConsumer here cancelled d = some (s', d')) :
    s.queue.Fed s'.queue (match s.consumer with
      | .working duty => duty.accepted s.queue
      | .absent | .listening | .done => none) := by
  cases hc : s.consumer with
  | absent => simp [stepConsumer, hc] at h
  | done => simp [stepConsumer, hc] at h
  | listening =>
    cases hj : s.jobs with
    | none => simp [stepConsumer, hc, hj] at h
    | some jobs =>
      simp only [stepConsumer, hc, hj] at h
      split at h
      · cases h
        exact .refl _
      · split at h <;> cases h <;> exact .refl _
  | working duty =>
    have hq := duty.next_fed here d s.queue
    simp only [stepConsumer, hc] at h
    cases hn : duty.next here d s.queue with
    | moved duty' e queue' =>
      simp only [hn] at h hq
      cases h
      exact hq
    | finished =>
      simp only [hn] at h hq
      cases h
      exact .unchanged hq
    | failed =>
      simp only [hn] at h hq
      cases h
      exact .unchanged hq
    | waiting =>
      simp only [hn] at h
      cases h

theorem Station.submit_queue {s s' : Station} {r : Wire.CommandRequest}
    (h : s.submit r = some (.ok s')) : s'.queue = s.queue := by
  obtain ⟨jobs, -, h⟩ := Option.map_eq_some_iff.mp h
  split at h <;> cases h
  rfl

@[simp] theorem Station.receive_queue (s : Station) (d : Device) (e : Wire.Event) :
    (s.receive d e).1.queue = s.queue := by
  unfold receive
  split <;> try rfl
  unfold receiveCommand
  split
  · rfl
  · split
    · rfl
    · split <;> try rfl
      next h => exact submit_queue h

/-- Commands are queued as before, if they are, and a consumer that has not been started has not been
started. -/
structure Station.SameMode (s s' : Station) : Prop where
  jobs : s'.jobs.isSome = s.jobs.isSome
  consumer : s.consumer = .absent → s'.consumer = .absent

theorem Station.SameMode.of_eq {s s' : Station} (hj : s'.jobs = s.jobs)
    (hc : s'.consumer = s.consumer) : s.SameMode s' :=
  ⟨by rw [hj], fun h => hc.trans h⟩

theorem Station.SameMode.trans {s s' s'' : Station} (h : s.SameMode s') (h' : s'.SameMode s'') :
    s.SameMode s'' :=
  ⟨h'.jobs.trans h.jobs, fun hc => h'.consumer (h.consumer hc)⟩

theorem Station.endSubmission_sameMode (s : Station) : s.SameMode s.endSubmission :=
  ⟨by simp [endSubmission], id⟩

theorem Station.tryEnqueue_sameMode {s s' : Station} {f : Frame} {entered : Bool}
    (h : s.tryEnqueue f = .ok (entered, s')) : s.SameMode s' := by
  rw [(tryEnqueue_fed h).1]
  exact .of_eq rfl rfl

theorem Station.stepConsumer_sameMode {s s' : Station} {here : Surroundings} {cancelled : Bool}
    {d d' : Device} (h : s.stepConsumer here cancelled d = some (s', d')) : s.SameMode s' := by
  cases hc : s.consumer with
  | absent => simp [stepConsumer, hc] at h
  | done => simp [stepConsumer, hc] at h
  | listening =>
    cases hj : s.jobs with
    | none => simp [stepConsumer, hc, hj] at h
    | some jobs =>
      simp only [stepConsumer, hc, hj] at h
      refine ⟨?_, by simp [hc]⟩
      split at h
      · cases h
        simp [endConsumer]
      · split at h <;> cases h <;> simp [endConsumer, hj]
  | working duty =>
    simp only [stepConsumer, hc] at h
    refine ⟨?_, by simp [hc]⟩
    split at h <;> cases h <;> simp [endConsumer]

theorem Station.receive_sameMode (s : Station) (d : Device) (e : Wire.Event) :
    s.SameMode (s.receive d e).1 := by
  unfold receive
  split <;> try exact .of_eq rfl rfl
  -- only a command can reach the queue of commands
  unfold receiveCommand
  split
  · exact .of_eq rfl rfl
  · split
    · exact .of_eq rfl rfl
    · split <;> try exact .of_eq rfl rfl
      next h =>
        obtain ⟨jobs, hj, h⟩ := Option.map_eq_some_iff.mp h
        split at h <;> cases h
        exact ⟨by simp [hj], id⟩

/-! ### Moves other than the writer's -/

/-- The outbound side of a connection: its send queue, the pipe to the peer, the writer and the number
of frames that it has written. -/
structure Outlet where
  queue : Pipe Frame
  toPeer : Pipe String
  writer : Writer
  framesOut : Nat

/-- The outbound side of a connection. -/
def Connection.outlet (c : Connection) : Outlet :=
  ⟨c.station.queue, c.link.toPeer, c.writer, c.session.framesOut⟩

/-- A move has left the writer alone: a frame may have entered the send queue, and the peer may have
taken a text or gone. -/
structure Connection.LeavesWriter (c c' : Connection) (f : Option Frame) (x : Option String)
    (gone : Bool) : Prop where
  queue : c.station.queue.Fed c'.station.queue f
  toPeer : c.link.toPeer.Drawn c'.link.toPeer x gone
  writer : c'.writer = c.writer
  framesOut : c'.session.framesOut = c.session.framesOut
  mode : c.station.SameMode c'.station

namespace Connection

variable {c c' : Connection} {here : Surroundings} {cancelled : Bool} {d d' : Device} {now : Span}

theorem LeavesWriter.of_outlet {f : Option Frame} (hf : f = none) (ho : c'.outlet = c.outlet)
    (hm : c.station.SameMode c'.station) : c.LeavesWriter c' f none false := by
  simp only [outlet, Outlet.mk.injEq] at ho
  obtain ⟨hq, hl, hw, hs⟩ := ho
  exact ⟨hq ▸ .unchanged hf, .nothing hl, hw, hs, hm⟩

/-- The reader's end is nothing to the writer, apart from the shutdown. -/
theorem endReader_leavesWriter (c : Connection) {f : Option Frame} (hf : f = none) :
    c.LeavesWriter c.endReader f none false :=
  .of_outlet hf rfl { c.station.endSubmission_sameMode with }

@[simp] theorem greet_framesOut (s : Wire.Session) (h : Wire.Handshake) :
    (s.greet h).framesOut = s.framesOut := by
  unfold Wire.Session.greet
  split <;> rfl

theorem heard_leavesWriter (c : Connection) (d : Device) (x : Heard) :
    c.LeavesWriter (c.heard d x) none none false := by
  cases x with
  | nothing => exact .of_outlet rfl rfl (.of_eq rfl rfl)
  | handshake h => exact .of_outlet rfl (by simp [heard, outlet]) (.of_eq rfl rfl)
  | ping pong => exact .of_outlet rfl rfl (.of_eq rfl rfl)
  | ending => exact c.endReader_leavesWriter rfl
  | event e =>
    have hq := c.station.receive_queue d e
    have hm := c.station.receive_sameMode d e
    -- what the station makes of the event does not touch the send queue
    unfold heard
    dsimp only
    split
    · next station duty hr =>
      rw [hr] at hq hm
      exact .of_outlet rfl (by simp only [outlet, ← hq]) hm
    · next station hr =>
      rw [hr] at hq hm
      exact .of_outlet rfl (by simp only [outlet, ← hq]; rfl)
        (hm.trans { station.endSubmission_sameMode with })
    · next station e _ hr =>
      rw [hr] at hq hm
      exact .of_outlet rfl (by simp only [outlet, ← hq]) hm

theorem stepReader_leavesWriter (h : c.stepReader here cancelled d = some (c', d')) :
    c.LeavesWriter c' (c.accepted (.read here cancelled d)) none false := by
  cases hr : c.reader with
  | done => simp [stepReader, hr] at h
  | listening =>
    have ha : c.accepted (.read here cancelled d) = none := by simp only [accepted, hr]
    simp only [stepReader, hr] at h
    split at h
    · cases h
      exact c.endReader_leavesWriter ha
    · split at h
      · cases h
        rw [ha]
        exact { heard_leavesWriter _ d _ with }
      · cases h
      · cases h
        exact c.endReader_leavesWriter ha
  | working duty =>
    have ha : c.accepted (.read here cancelled d) = duty.accepted c.station.queue := by
      simp only [accepted, hr]
    have hq := duty.next_fed here d c.station.queue
    simp only [stepReader, hr] at h
    rw [ha]
    cases hn : duty.next here d c.station.queue with
    | moved duty' e queue' =>
      simp only [hn] at h hq
      cases h
      exact ⟨hq, .nothing rfl, rfl, rfl, .of_eq rfl rfl⟩
    | finished =>
      simp only [hn] at h hq
      cases h
      exact .of_outlet hq rfl (.of_eq rfl rfl)
    | failed =>
      simp only [hn] at h hq
      cases h
      exact c.endReader_leavesWriter hq
    | waiting =>
      simp only [hn] at h
      cases h

theorem stepWatch_leavesWriter (h : c.stepWatch now cancelled = some c') :
    c.LeavesWriter c' (c.accepted (.watch now cancelled)) none false := by
  cases stepWatch_cases h with
  | stop hk hc =>
    refine .of_outlet ?_ rfl (.of_eq rfl rfl)
    simp only [accepted, hc, Bool.true_or, if_true]
    split <;> rfl
  | begin hk hc => exact .of_outlet (by simp only [accepted, hk]) rfl (.of_eq rfl rfl)
  | @giveUp k limit hk hc hd hs ht hl =>
    have htick : k.tick c.keepaliveInterval c.keepaliveTimeout now c.session.framesIn = none :=
      Keepalive.tick_eq_none_iff.mpr ⟨hs, limit, ht, hl⟩
    exact .of_outlet (by simp [accepted, hk, htick]) rfl (.of_eq rfl rfl)
  | leave hk hc hq =>
    refine .of_outlet ?_ rfl (.of_eq rfl rfl)
    simp only [accepted, hk, Station.tryEnqueue_of_closed keepaliveFrame hq]
    split
    · rfl
    · split <;> rfl
  | @goOn k k' hk hc hd ht hq =>
    have hput := Station.tryEnqueue_of_receiving keepaliveFrame hq
    have hfed := (Station.tryEnqueue_fed hput).2
    have hmode := Station.tryEnqueue_sameMode hput
    have hdue : ¬now < k.due.nextMilli := Nat.not_lt_of_le hd
    simp only [accepted, hk, hc, hdue, ht, hput]
    cases hfull : c.station.queue.isFull <;> simp only [hfull] at hfed ⊢ <;>
      exact ⟨hfed, .nothing rfl, rfl, rfl, hmode⟩

/-- A move that is not the writer's leaves the writer alone. -/
theorem after_leavesWriter {m : Move} (hm : ∀ cancelled, m ≠ .write cancelled)
    (h : c.after m = some c') :
    c.LeavesWriter c' (c.accepted m) (c.received m) m.isHangUp := by
  cases m with
  | write cancelled => exact absurd rfl (hm cancelled)
  | read here cancelled d =>
    obtain ⟨⟨c₁, d₁⟩, hs, rfl⟩ := Option.map_eq_some_iff.mp h
    exact stepReader_leavesWriter hs
  | consume here cancelled d =>
    obtain ⟨⟨s, d₁⟩, hs, rfl⟩ := Option.map_eq_some_iff.mp h
    exact ⟨Station.stepConsumer_fed hs, .nothing rfl, rfl, rfl, Station.stepConsumer_sameMode hs⟩
  | watch now cancelled => exact stepWatch_leavesWriter h
  | supervise =>
    cases h
    exact .of_outlet rfl rfl (.of_eq rfl rfl)
  | cancel =>
    cases h
    exact .of_outlet rfl rfl (.of_eq rfl rfl)
  | offer f =>
    simp only [after] at h
    simp only [accepted, received]
    cases ht : c.station.tryEnqueue f with
    | error e =>
      simp only [ht, Option.some.injEq] at h
      subst h
      exact .of_outlet rfl rfl (.of_eq rfl rfl)
    | ok r =>
      obtain ⟨entered, station⟩ := r
      simp only [ht, Option.some.injEq] at h
      subst h
      have hq := (Station.tryEnqueue_fed ht).2
      have hm := Station.tryEnqueue_sameMode ht
      cases entered <;> exact ⟨hq, .nothing rfl, rfl, rfl, hm⟩
  | joinLine =>
    simp only [after] at h
    split at h <;> cases h
    exact ⟨Pipe.joinLine_fed _, .nothing rfl, rfl, rfl, .of_eq rfl rfl⟩
  | leaveLine =>
    cases h
    exact ⟨Pipe.leaveLine_fed _, .nothing rfl, rfl, rfl, .of_eq rfl rfl⟩
  | offerInLine f =>
    simp only [after] at h
    simp only [accepted, received]
    cases hp : c.station.queue.putInLine f with
    | entered queue =>
      simp only [hp, Option.some.injEq] at h
      subst h
      exact ⟨Pipe.putInLine_fed hp, .nothing rfl, rfl, rfl, .of_eq rfl rfl⟩
    | full => simp [hp] at h
    | refused => simp [hp] at h
  | hear text =>
    simp only [after] at h
    split at h <;> cases h
    next link hl =>
    unfold Memory.peerWrite at hl
    split at hl <;> cases hl
    exact .of_outlet rfl rfl (.of_eq rfl rfl)
  | deliver =>
    simp only [after] at h
    cases ht : c.link.toPeer.take with
    | item x pipe =>
      simp only [ht, Option.some.injEq] at h
      subst h
      have hx := (Pipe.take_eq_item_iff.mp ht).1
      have hr : c.received .deliver = some x := by simp only [received, hx, List.head?_cons]
      rw [hr]
      exact ⟨.refl _, Pipe.take_drawn ht, rfl, rfl, .of_eq rfl rfl⟩
    | waiting => simp [ht] at h
    | ended => simp [ht] at h
  | hangUp =>
    cases h
    exact ⟨.refl _, .left rfl, rfl, rfl, .of_eq rfl rfl⟩
  | idle =>
    cases h
    exact .of_outlet rfl rfl (.of_eq rfl rfl)

/-! ### The writer -/

/-- What the writer can do, with what it gets to the link and whether that breaks. -/
inductive WriterStep (c : Connection) (cancelled : Bool) : Connection → Option String → Bool → Prop
  /-- The send queue is closed. -/
  | close (hw : c.writer = .listening) (hc : cancelled ∨ c.station.queue.sending = false) :
    WriterStep c cancelled
      { c.withQueue c.station.queue.stopReceiving with writer := .draining } none false
  | take {f queue} (hw : c.writer = .listening) (hc : cancelled = false)
    (hq : c.station.queue.take = .item f queue) :
    WriterStep c cancelled { c.withQueue queue with writer := .writing f } none false
  | draw {f queue} (hw : c.writer = .draining) (hq : c.station.queue.take = .item f queue) :
    WriterStep c cancelled { c.withQueue queue with writer := .flushing f } none false
  /-- Nothing is left in the send queue. -/
  | part (hw : c.writer = .draining) (hq : c.station.queue.items = []) :
    WriterStep c cancelled { c with writer := .parting } none false
  | send {f link} (hw : c.writer = .writing f)
    (hl : c.link.write (String.ofList f.encode) = .done link) :
    WriterStep c cancelled (c.wrote link .listening) (some (String.ofList f.encode)) false
  | flush {f link} (hw : c.writer = .flushing f)
    (hl : c.link.write (String.ofList f.encode) = .done link) :
    WriterStep c cancelled (c.wrote link .draining) (some (String.ofList f.encode)) false
  | farewell {link} (hw : c.writer = .parting)
    (hl : c.link.write (String.ofList Frame.closing.encode) = .done link) :
    WriterStep c cancelled { c with link := link }.endWriter
      (some (String.ofList Frame.closing.encode)) false
  /-- The link breaks before the send queue has been closed, or at the closing frame. -/
  | fail {text e} (hw : ∀ f, c.writer ≠ .flushing f) (ht : c.nextText = some text)
    (hl : c.link.write text = .failed e) : WriterStep c cancelled c.endWriter none true
  | failFlush {f e} (hw : c.writer = .flushing f)
    (hl : c.link.write (String.ofList f.encode) = .failed e) :
    WriterStep c cancelled { c with writer := .parting } none true

theorem stepWriter_cases (h : c.stepWriter cancelled = some c') :
    c.WriterStep cancelled c' (c.written (.write cancelled)) (c.breaks (.write cancelled)) := by
  have hnone (hn : c.nextText = none) :
      c.written (.write cancelled) = none ∧ c.breaks (.write cancelled) = false := by
    simp [written, breaks, hn]
  cases hw : c.writer with
  | listening =>
    obtain ⟨h₁, h₂⟩ := hnone (by simp [nextText, hw])
    rw [h₁, h₂]
    simp only [stepWriter, hw] at h
    -- a shutdown comes before the next frame
    split at h
    · next hc => cases h; exact .close hw (.inl hc)
    · next hc =>
      split at h
      · next hq => cases h; exact .take hw (Bool.not_eq_true _ ▸ hc) hq
      · cases h
      · next hq => cases h; exact .close hw (.inr (Pipe.sending_eq_false_of_take hq))
  | draining =>
    obtain ⟨h₁, h₂⟩ := hnone (by simp [nextText, hw])
    rw [h₁, h₂]
    simp only [stepWriter, hw] at h
    cases hq : c.station.queue.take with
    | item f queue => simp only [hq] at h; cases h; exact .draw hw hq
    | waiting =>
      simp only [hq] at h
      cases h
      exact .part hw (Pipe.items_eq_nil_of_take (by simp [hq]))
    | ended =>
      simp only [hq] at h
      cases h
      exact .part hw (Pipe.items_eq_nil_of_take (by simp [hq]))
  | writing f =>
    have ht : c.nextText = some (String.ofList f.encode) := by simp only [nextText, hw]
    simp only [stepWriter, hw] at h
    cases hl : c.link.write (String.ofList f.encode) with
    | done link =>
      simp only [hl] at h
      cases h
      simpa [written, breaks, ht, hl] using WriterStep.send hw hl
    | waiting => simp [hl] at h
    | failed e =>
      simp only [hl] at h
      cases h
      simpa [written, breaks, ht, hl] using WriterStep.fail (by simp [hw]) ht hl
  | flushing f =>
    have ht : c.nextText = some (String.ofList f.encode) := by simp only [nextText, hw]
    simp only [stepWriter, hw] at h
    cases hl : c.link.write (String.ofList f.encode) with
    | done link =>
      simp only [hl] at h
      cases h
      simpa [written, breaks, ht, hl] using WriterStep.flush hw hl
    | waiting => simp [hl] at h
    | failed e =>
      simp only [hl] at h
      cases h
      simpa [written, breaks, ht, hl] using WriterStep.failFlush hw hl
  | parting =>
    have ht : c.nextText = some (String.ofList Frame.closing.encode) := by simp only [nextText, hw]
    simp only [stepWriter, hw] at h
    cases hl : c.link.write (String.ofList Frame.closing.encode) with
    | done link =>
      simp only [hl] at h
      cases h
      simp only [written, breaks, ht, hl, Option.bind_some, Option.any_some]
      exact .farewell hw hl
    | waiting => simp [hl] at h
    | failed e =>
      simp only [hl] at h
      cases h
      simpa [written, breaks, ht, hl] using WriterStep.fail (by simp [hw]) ht hl
  | done => simp [stepWriter, hw] at h

theorem exists_writerStep (h : c.stepWriter cancelled = some c') :
    ∃ text failed, c.WriterStep cancelled c' text failed :=
  ⟨_, _, stepWriter_cases h⟩

/-- A move is the writer's or leaves the writer alone. -/
theorem after_cases {m : Move} (h : c.after m = some c') :
    (∃ cancelled, m = .write cancelled ∧ c.stepWriter cancelled = some c') ∨
      c.LeavesWriter c' (c.accepted m) (c.received m) m.isHangUp := by
  by_cases hm : ∃ cancelled, m = .write cancelled
  · obtain ⟨cancelled, rfl⟩ := hm
    exact .inl ⟨cancelled, rfl, h⟩
  · exact .inr (after_leavesWriter (fun _ he => hm ⟨_, he⟩) h)

end Connection

/-! ### What holds throughout -/

/-- The send queue has been closed by the writer. -/
def Writer.IsClosing : Writer → Prop
  | .listening | .writing _ => False
  | .draining | .flushing _ | .parting | .done => True

namespace Connection

/-- What holds for a connection over a link in memory from its start. -/
structure Sound (c : Connection) : Prop where
  closed : c.station.queue.receiving = false ↔ c.writer.IsClosing
  /-- Producers never leave the send queue for good. -/
  fed : c.station.queue.sending
  /-- The writer leaves the link when it ends. -/
  joined : c.writer ≠ .done → c.link.toPeer.sending
  lost : c.link.toPeer.receiving = false → c.link.toPeer.items = []
  capacity : c.link.toPeer.capacity = memoryCapacity
  /-- Nobody but the writer waits for room on the link. -/
  line : c.link.toPeer.waiting = 0
  /-- As long as the link holds, the writer parts when nothing is left to write. -/
  parted : c.writer = .parting → c.link.toPeer.receiving → c.station.queue.items = []
  consumer : c.station.jobs = none → c.station.consumer = .absent

variable {c c' : Connection} {m : Move}

/-- Nothing enters once the writer has closed the send queue. -/
theorem LeavesWriter.eq_none {f : Option Frame} {x : Option String} {gone : Bool}
    (hl : c.LeavesWriter c' f x gone) (hs : c.Sound) (hw : c.writer.IsClosing) : f = none := by
  cases f with
  | none => rfl
  | some f => simpa [hs.closed.mpr hw] using hl.queue.entered rfl

theorem Sound.of_leavesWriter {f : Option Frame} {x : Option String} {gone : Bool} (hs : c.Sound)
    (hl : c.LeavesWriter c' f x gone) : c'.Sound := by
  have hjobs : c'.station.jobs = none → c'.station.consumer = .absent := fun hj =>
    hl.mode.consumer (hs.consumer (by simpa [hj] using hl.mode.jobs))
  exact {
    closed := by rw [hl.queue.receiving, hl.writer, hs.closed]
    fed := by rw [hl.queue.sending, hs.fed]
    joined := fun hw => by rw [hl.toPeer.sending, hs.joined (hl.writer ▸ hw)]
    lost := hl.toPeer.items_eq_nil hs.lost
    capacity := by rw [hl.toPeer.capacity, hs.capacity]
    line := by rw [hl.toPeer.waiting, hs.line]
    parted := fun hw hr => by
      rw [hl.writer] at hw
      -- with the send queue closed nothing can have entered
      have hf : f = none := hl.eq_none hs (by rw [hw]; trivial)
      rw [hl.queue.items, hs.parted hw (hl.toPeer.receiving_of hr), hf]
      rfl
    consumer := hjobs }

/-- A link breaks under the writer when the peer has left. -/
theorem Sound.receiving_eq_false {text : String} {e : Link.Error} (hs : c.Sound)
    (hn : c.writer ≠ .done) (hl : c.link.write text = .failed e) :
    c.link.toPeer.receiving = false := by
  rcases Memory.left_of_write_eq_failed hl with h | h
  · simp [hs.joined hn] at h
  · exact h

/-- A text that is written goes to the end of the pipe to the peer. -/
theorem Sound.wrote {link : Memory} {text : String} (hs : c.Sound)
    (hl : c.link.write text = .done link) : { c with link := link }.Sound := by
  obtain ⟨-, hr, -, rfl⟩ := Link.Memory.write_eq_done_iff.mp hl
  exact { hs with
    lost := fun h => by simp [hr] at h
    parted := fun hw _ => hs.parted hw hr }

theorem Sound.endWriter (hs : c.Sound) : c.endWriter.Sound :=
  { hs with
    closed := ⟨fun _ => trivial, fun _ => rfl⟩
    joined := fun h => absurd rfl h
    parted := nofun }

/-- The writer goes on with the send queue as open as it was. -/
theorem Sound.advance {queue : Pipe Frame} {writer : Writer} (hs : c.Sound)
    (hq : ∃ items, queue = { c.station.queue with items := items })
    (hw : writer.IsClosing ↔ c.writer.IsClosing) (hd : c.writer ≠ .done)
    (hp : writer = .parting → c.link.toPeer.receiving → queue.items = []) :
    { c.withQueue queue with writer := writer }.Sound := by
  obtain ⟨items, rfl⟩ := hq
  exact { hs with
    closed := hs.closed.trans hw.symm
    joined := fun _ => hs.joined hd
    parted := hp }

theorem Sound.wrote_advance {link : Memory} {text : String} {writer : Writer} (hs : c.Sound)
    (hl : c.link.write text = .done link) (hw : writer.IsClosing ↔ c.writer.IsClosing)
    (hd : c.writer ≠ .done) (hp : writer ≠ .parting) : (c.wrote link writer).Sound :=
  { hs.wrote hl with
    closed := hs.closed.trans hw.symm
    joined := fun _ => (hs.wrote hl).joined hd
    parted := fun h => absurd h hp }

theorem Sound.after_write {cancelled : Bool} (hs : c.Sound)
    (h : c.stepWriter cancelled = some c') : c'.Sound := by
  obtain ⟨text, failed, hstep⟩ := exists_writerStep h
  cases hstep with
  | close hw hc => exact { hs with
      closed := ⟨fun _ => trivial, fun _ => rfl⟩
      joined := fun _ => hs.joined (by simp [hw])
      parted := nofun }
  | take hw hc hq =>
    exact hs.advance ⟨_, (Pipe.take_eq_item_iff.mp hq).2⟩ (by rw [hw]; rfl) (by simp [hw])
      nofun
  | draw hw hq =>
    exact hs.advance ⟨_, (Pipe.take_eq_item_iff.mp hq).2⟩ (by rw [hw]; rfl) (by simp [hw])
      nofun
  | part hw hq => exact hs.advance ⟨_, rfl⟩ (by rw [hw]; rfl) (by simp [hw]) fun _ _ => hq
  | send hw hl => exact hs.wrote_advance hl (by rw [hw]; rfl) (by simp [hw]) nofun
  | flush hw hl => exact hs.wrote_advance hl (by rw [hw]; rfl) (by simp [hw]) nofun
  | farewell hw hl => exact (hs.wrote hl).endWriter
  | fail hw ht hl => exact hs.endWriter
  | failFlush hw hl =>
    refine hs.advance ⟨_, rfl⟩ (by rw [hw]; rfl) (by simp [hw]) fun _ hr => ?_
    -- frames may be left, but nobody is there to take them
    simp [hs.receiving_eq_false (by simp [hw]) hl] at hr

theorem Sound.after (hs : c.Sound) (h : c.after m = some c') : c'.Sound := by
  rcases after_cases h with ⟨cancelled, rfl, h⟩ | hl
  · exact hs.after_write h
  · exact hs.of_leavesWriter hl

/-- A connection that has just been made. -/
theorem start_sound (config : Config) (parent : Option Nat) (session : Wire.Session) {link : Memory}
    (hl : ∃ items, link.toPeer = { (Pipe.new memoryCapacity : Pipe String) with items := items }) :
    (start config parent session link).Sound := by
  obtain ⟨items, hl⟩ := hl
  have hd : (start config parent session link).station.queue = .new config.sendCapacity := by
    unfold start
    dsimp only
    split <;> rfl
  have hlink : (start config parent session link).link.toPeer = link.toPeer := rfl
  refine ⟨?_, ?_, ?_, ?_, ?_, ?_, nofun, ?_⟩
  · rw [hd]
    exact ⟨nofun, False.elim⟩
  · rw [hd]
    rfl
  · intro _
    rw [hlink, hl]
    rfl
  · intro h
    rw [hlink, hl] at h
    cases h
  · rw [hlink, hl]
    rfl
  · rw [hlink, hl]
    rfl
  · unfold start
    dsimp only
    split
    · exact fun _ => rfl
    · exact nofun

end Connection

end VirtualPrinter.Service
