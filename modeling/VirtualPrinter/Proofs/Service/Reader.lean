import VirtualPrinter.Proofs.Service.Outbound
import VirtualPrinter.Proofs.Service.Run

/-!
# The reader

What the reader can do in one step, and what all other moves leave to it: the reader alone takes the
texts of the peer and gives the session its name.

## Main definitions

* `Connection.replied`, `Connection.execution`: the frame that the reader gets into the send queue,
  and what is around when it executes a line.
* `Connection.ReaderStep`: what the reader can do.
* `Connection.LeavesReader`: what moves other than the reader's do to the inbound side.

## Main results

* `Connection.stepReader_cases`, `Connection.after_leavesReader`: what a move does to the inbound
  side.
-/

namespace VirtualPrinter.Service

open Link (Memory Pipe)
open Wire (Frame)

/-- A bound on the steps that a reader takes until it looks for another text. -/
def Reader.left : Reader → Nat
  | .working duty => 2 * duty.lines.length + duty.reply.isSome.toNat + 1
  | .listening | .done => 0

/-- An event that is worked off at once leaves a duty, or it shuts the connection down. -/
theorem Station.receive_cases {s : Station} (hj : s.jobs = none) (d : Device) (e : Wire.Event) :
    (∃ duty, s.receive d e = (s, .ok duty)) ∨
      s.receive d e = ({ s with cancelled := true }, .ok .nothing) := by
  unfold Station.receive
  split
  case h_2 =>
    left
    unfold Station.receiveCommand
    split
    · exact ⟨_, rfl⟩
    · split
      · exact ⟨_, rfl⟩
      · simp only [Station.submit, hj, Option.map_none]
        exact ⟨_, rfl⟩
  case h_4 => exact .inr rfl
  all_goals exact .inl ⟨_, rfl⟩

namespace Connection

/-- The frame that the reader gets into the send queue. -/
def replied (c : Connection) : Move → Option Frame
  | .read here cancelled d => c.accepted (.read here cancelled d)
  | _ => none

/-- What is around when the reader executes a line, if it executes one. -/
def execution (c : Connection) : Move → Option Surroundings
  | .read here _ _ =>
    match c.reader with
    | .working ⟨none, _, _ :: _, _⟩ => some here
    | _ => none
  | _ => none

namespace History

/-- The frames that the reader has got into the send queue. -/
def replies (h : History) : List Frame := h.filterMap fun (c, m) => c.replied m

/-- What was around at each line that the reader has executed. -/
def executions (h : History) : List Surroundings := h.filterMap fun (c, m) => c.execution m

variable (h k : History) (c : Connection) (m : Move)

@[simp] theorem replies_append : replies (h ++ k) = h.replies ++ k.replies :=
  List.filterMap_append

@[simp] theorem executions_append : executions (h ++ k) = h.executions ++ k.executions :=
  List.filterMap_append

@[simp] theorem replies_singleton : replies [(c, m)] = (c.replied m).toList := by
  simp [replies, List.filterMap_cons]
  cases c.replied m <;> rfl

@[simp] theorem executions_singleton : executions [(c, m)] = (c.execution m).toList := by
  simp [executions, List.filterMap_cons]
  cases c.execution m <;> rfl

end History

variable {c c' : Connection} {here : Surroundings} {cancelled : Bool} {d d' : Device} {m : Move}

/-! ### The reader's own moves -/

@[simp] theorem heard_queue (c : Connection) (d : Device) (x : Heard) :
    (c.heard d x).station.queue = c.station.queue := by
  cases x with
  | event e =>
    have hq := c.station.receive_queue d e
    unfold heard
    dsimp only
    split <;> next h => rw [h] at hq; exact hq
  | _ => rfl

/-- What a text leaves: the reader goes on, with nothing to do if the connection shuts down, or it
ends. -/
theorem heard_cases (hj : c.station.jobs = none) (hr : c.reader = .listening) (d : Device)
    (x : Heard) :
    ((c.heard d x).link = c.link ∧ (c.heard d x).reader ≠ .done ∧
      ((c.heard d x).station.cancelled = c.station.cancelled ∨ (c.heard d x).reader = .working .nothing)) ∨
    c.heard d x = c.endReader := by
  cases x with
  | nothing => exact .inl ⟨rfl, by simp [heard, hr], .inl rfl⟩
  | handshake h => exact .inl ⟨rfl, by simp [heard, hr], .inl rfl⟩
  | ping pong => exact .inl ⟨rfl, by simp [heard], .inl rfl⟩
  | ending => exact .inr rfl
  | event e =>
    left
    rcases Station.receive_cases hj d e with ⟨duty, h⟩ | h
    -- a disconnect shuts the connection down and leaves nothing to do
    · have he : c.heard d (.event e) = { c with reader := .working duty } := by
        simp only [heard, h]
      rw [he]
      exact ⟨rfl, by simp, .inl rfl⟩
    · have he : c.heard d (.event e) = { c.cancel with reader := .working .nothing } := by
        simp only [heard, h, cancel]
      rw [he]
      exact ⟨rfl, by simp, .inr rfl⟩

/-- What the reader can do, with the frame that it gets into the send queue and what is around if it
executes a line. -/
inductive ReaderStep (c : Connection) (here : Surroundings) (cancelled : Bool) (d : Device) :
    Connection → Device → Option Frame → Option Surroundings → Prop
  /-- There is nothing more to read. -/
  | stop (hr : c.reader = .listening) (hc : cancelled ∨ c.link.toClient.items = []) :
    ReaderStep c here cancelled d c.endReader d none none
  | hear {text pipe} (hr : c.reader = .listening) (hc : cancelled = false)
    (ht : c.link.read = .item text pipe) :
    ReaderStep c here cancelled d
      (heard { c with link := c.link.withToClient pipe, session := c.session.touch } d
        (.ofText text.toList)) d none none
  | finish {duty} (hr : c.reader = .working duty) (hd : duty.reply = none) (hl : duty.lines = []) :
    ReaderStep c here cancelled d { c with reader := .listening } d none none
  | fail {duty f} (hr : c.reader = .working duty) (hd : duty.reply = some f)
    (hq : c.station.queue.receiving = false) : ReaderStep c here cancelled d c.endReader d none none
  | enter {duty f queue} (hr : c.reader = .working duty) (hd : duty.reply = some f)
    (hq : duty.offered c.station.queue f = .entered queue) :
    ReaderStep c here cancelled d
      { c.withQueue queue with reader := .working { duty with reply := none, waits := false } } d
      (some f) none
  /-- There is no room, and the reader gets in line. -/
  | join {duty f} (hr : c.reader = .working duty) (hd : duty.reply = some f)
    (hq : duty.offered c.station.queue f = .full) :
    ReaderStep c here cancelled d
      { c.withQueue c.station.queue.joinLine with reader := .working { duty with waits := true } } d
      none none
  | execute {duty line rest} (hr : c.reader = .working duty) (hd : duty.reply = none)
    (hl : duty.lines = line :: rest) :
    ReaderStep c here cancelled d
      { c with
        reader := .working
          ⟨Duty.answerFrame duty.device (d.execute here line).2, duty.device, rest, false⟩ }
      (d.execute here line).1 none (some here)

theorem stepReader_cases (h : c.stepReader here cancelled d = some (c', d')) :
    c.ReaderStep here cancelled d c' d' (c.replied (.read here cancelled d))
      (c.execution (.read here cancelled d)) := by
  cases hr : c.reader with
  | done => simp [stepReader, hr] at h
  | listening =>
    have hf : c.replied (.read here cancelled d) = none := by simp only [replied, accepted, hr]
    have he : c.execution (.read here cancelled d) = none := by simp only [execution, hr]
    rw [hf, he]
    simp only [stepReader, hr] at h
    split at h
    · next hc => cases h; exact .stop hr (.inl hc)
    · next hc =>
      split at h
      · next ht =>
        cases h
        have hc : cancelled = false := Bool.not_eq_true _ ▸ hc
        have hstep : c.ReaderStep here cancelled d _ _ none none := .hear hr hc ht
        simpa only [hr] using hstep
      · cases h
      · next ht =>
        cases h
        have hi : ∀ x q, c.link.toClient.take ≠ .item x q := by
          intro x q hx
          simp [Memory.read, hx] at ht
        exact .stop hr (.inr (Pipe.items_eq_nil_of_take hi))
  | working duty =>
    have hf : c.replied (.read here cancelled d) = duty.accepted c.station.queue := by
      simp only [replied, accepted, hr]
    rw [hf]
    simp only [stepReader, hr] at h
    cases hd : duty.reply with
    | some f =>
      have he : c.execution (.read here cancelled d) = none := by
        obtain ⟨reply, device, lines, waits⟩ := duty
        cases hd
        simp only [execution, hr]
      rw [he, Duty.accepted_of_reply hd]
      rw [Duty.next_of_reply hd] at h
      cases ho : duty.offered c.station.queue f with
      | entered queue =>
        -- the frame enters, or the queue has been closed, or there is no room
        simp only [ho] at h
        cases h
        exact .enter hr hd ho
      | refused =>
        simp only [ho] at h
        cases h
        exact .fail hr hd (Duty.offered_eq_refused_iff.mp ho)
      | full =>
        simp only [ho] at h
        cases hw : duty.waits with
        | true => simp [hw] at h
        | false =>
          simp [hw] at h
          obtain ⟨rfl, rfl⟩ := h
          exact .join hr hd ho
    | none =>
      have hn : duty.accepted c.station.queue = none := by simp only [Duty.accepted, hd]
      rw [hn]
      cases hl : duty.lines with
      | nil =>
        have he : c.execution (.read here cancelled d) = none := by
          obtain ⟨reply, device, lines, waits⟩ := duty
          cases hl
          simp only [execution, hr]
        rw [he]
        rw [Duty.next_of_nothing hd hl] at h
        cases h
        exact .finish hr hd hl
      | cons line rest =>
        have he : c.execution (.read here cancelled d) = some here := by
          obtain ⟨reply, device, lines, waits⟩ := duty
          cases hd
          cases hl
          simp only [execution, hr]
        rw [he]
        rw [Duty.next_of_line hd hl] at h
        cases h
        exact .execute hr hd hl

section ReaderStep

variable {f : Option Frame} {e : Option Surroundings}

theorem ReaderStep.parent (h : c.ReaderStep here cancelled d c' d' f e) : c'.parent = c.parent := by
  cases h with
  | hear =>
    unfold heard
    split <;> try rfl
    split <;> rfl
  | _ => rfl

/-- A reader that finds the connection shut down does not undo it. -/
theorem ReaderStep.cancelled_of (h : c.ReaderStep here true d c' d' f e)
    (hc : c.station.cancelled) : c'.station.cancelled := by
  cases h with
  | hear _ hf => cases hf
  | stop | fail => rfl
  | finish | enter | join | execute => exact hc

end ReaderStep

/-! ### All other moves -/

/-- A move has left the reader alone: the peer may have sent a text. -/
structure LeavesReader (c c' : Connection) (text : Option String) : Prop where
  reader : c'.reader = c.reader
  sid : c'.session.sid = c.session.sid
  items : c'.link.toClient.items = c.link.toClient.items ++ text.toList
  receiving : c'.link.toClient.receiving = c.link.toClient.receiving
  /-- A reader that has ended is sent nothing. -/
  sent : text.isSome → c.link.toClient.receiving

/-- The inbound side is as it was. -/
theorem LeavesReader.of_eq (hr : c'.reader = c.reader) (hs : c'.session.sid = c.session.sid)
    (hl : c'.link.toClient = c.link.toClient) : c.LeavesReader c' none :=
  ⟨hr, hs, by rw [hl, Option.toList_none, List.append_nil], by rw [hl], nofun⟩

theorem stepWriter_leavesReader (h : c.stepWriter cancelled = some c') : c.LeavesReader c' none := by
  obtain ⟨text, failed, hstep⟩ := exists_writerStep h
  cases hstep with
  | close | take | draw | part | fail | failFlush => exact .of_eq rfl rfl rfl
  | send _ hl | flush _ hl | farewell _ hl =>
    obtain ⟨-, -, -, rfl⟩ := Memory.write_eq_done_iff.mp hl
    exact .of_eq rfl rfl rfl

theorem stepWatch_leavesReader {now : Time.Span} (h : c.stepWatch now cancelled = some c') :
    c.LeavesReader c' none := by
  cases stepWatch_cases h <;> exact .of_eq rfl rfl rfl

/-- A move that is not the reader's leaves the reader alone. -/
theorem after_leavesReader (hm : ∀ here cancelled d, m ≠ .read here cancelled d)
    (h : c.after m = some c') : c.LeavesReader c' (c.heardText m) := by
  cases m with
  | read here cancelled d => exact absurd rfl (hm here cancelled d)
  | write cancelled => exact stepWriter_leavesReader h
  | watch now cancelled => exact stepWatch_leavesReader h
  | consume here cancelled d =>
    obtain ⟨s, -, rfl⟩ := Option.map_eq_some_iff.mp h
    exact .of_eq rfl rfl rfl
  | supervise | cancel | leaveLine | idle => cases h; exact .of_eq rfl rfl rfl
  | offer f | joinLine | offerInLine f | deliver =>
    simp only [after] at h
    split at h <;> cases h <;> exact .of_eq rfl rfl rfl
  | hear text =>
    simp only [after] at h
    cases hp : c.link.toClient.put text with
    | full => simp [Memory.peerWrite, hp] at h
    | refused => simp [Memory.peerWrite, hp] at h
    | entered pipe =>
      simp only [Memory.peerWrite, hp, Option.some.injEq] at h
      subst h
      have hq := Pipe.put_fed hp
      -- a text enters only as long as the reader takes texts
      exact ⟨rfl, rfl, hq.items, hq.receiving, hq.entered⟩
  | hangUp =>
    cases h
    exact ⟨rfl, rfl, (List.append_nil _).symm, rfl, by simp [heardText]⟩

theorem replied_eq_none (hm : ∀ here cancelled d, m ≠ .read here cancelled d) :
    c.replied m = none := by
  cases m with
  | read here cancelled d => exact absurd rfl (hm here cancelled d)
  | _ => rfl

theorem execution_eq_none (hm : ∀ here cancelled d, m ≠ .read here cancelled d) :
    c.execution m = none := by
  cases m with
  | read here cancelled d => exact absurd rfl (hm here cancelled d)
  | _ => rfl

theorem eq_of_execution {x : Surroundings} (h : c.execution (.read here cancelled d) = some x) :
    x = here := by
  simp only [execution] at h
  split at h
  · exact (Option.some.inj h).symm
  · cases h

/-- Commands are executed at once as long as they were. -/
theorem jobs_after (h : c.after m = some c') (hj : c.station.jobs = none) :
    c'.station.jobs = none := by
  have hmode : c.station.SameMode c'.station := by
    rcases after_cases h with ⟨cancelled, rfl, h⟩ | hl
    · obtain ⟨text, failed, hstep⟩ := exists_writerStep h
      cases hstep <;> exact .of_eq rfl rfl
    · exact hl.mode
  simpa [hj] using hmode.jobs

theorem start_jobs {config : Config} (hd : config.dispatch = .inline) (parent : Option Nat)
    (session : Wire.Session) (link : Memory) :
    (start config parent session link).station.jobs = none := by
  simp only [start, hd]
  rfl

end Connection

end VirtualPrinter.Service
