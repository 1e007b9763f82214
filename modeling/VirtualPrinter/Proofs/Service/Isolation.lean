import VirtualPrinter.Proofs.Service.Shutdown
import VirtualPrinter.Proofs.Wire.Naming
import VirtualPrinter.Service.Desk

/-!
# Commands reach one printer at most

The same command may come in at several routers, each of which works off events for a printer of its
own.  A router takes the command on only if the command names its printer, and a name means one printer
at most.  Every other router answers with an error, and that is all that it does: the dispatch is
followed step by step, and before every step others may have changed the printer and the send queue.

## Main definitions

* `Duty.Turn`, `Duty.Course`: the steps of a duty in the company of others.
* `Duty.Announces`: all that is done in a course is that one frame enters the send queue.
* `Service.Router`, and `Router.Undertakes`: a router takes a command on.

## Main results

* `Duty.Course.announces`: a duty to enqueue a frame does nothing else.
* `Router.denotes_of_undertakes`: a router takes on the commands for its printer only.
* `Router.commands_isolated`: at most one router takes a command on, and all others turn it away.
* `Desk.dispatch_of_not_denotes`: what turning it away amounts to where there is room.
-/

namespace VirtualPrinter.Service

open Json (printInt)
open Link (Pipe)
open Wire (CommandRequest DeviceId Event Frame readDeviceId)

namespace Duty

/-! ### Duties in the company of others -/

/-- What a duty shares with others: the printer and the send queue. -/
structure Shared where
  device : Device
  queue : Pipe Frame

/-- A step of a duty, as seen from outside: what it finds, the line that it executes, and what it
leaves. -/
structure Turn where
  here : Surroundings
  found : Shared
  line : Option (List Char)
  left : Shared

/-- The frames that enter the send queue. -/
def Turn.entered (t : Turn) : List Frame := t.left.queue.items.drop t.found.queue.items.length

/-- How far a duty has been worked off. -/
inductive Progress where
  | underway (duty : Duty)
  | done
  /-- The send queue was found to let nothing in any more. -/
  | failed (queue : Pipe Frame)

/-- The line that a duty executes next. -/
def line? (duty : Duty) : Option (List Char) :=
  if duty.reply.isNone then duty.lines.head? else none

/-- What becomes of a duty in a number of turns.  What a turn finds is what others have made of what the
turn before it has left. -/
inductive Course (start : Duty) : List Turn → Progress → Prop
  | start : Course start [] (.underway start)
  | turn {turns t duty duty'} (hc : Course start turns (.underway duty)) (hl : t.line = duty.line?)
    (ht : duty.next t.here t.found.device t.found.queue = .moved duty' t.left.device t.left.queue) :
    Course start (turns ++ [t]) (.underway duty')
  | finish {turns duty here device queue} (hc : Course start turns (.underway duty))
    (hf : duty.next here device queue = .finished) : Course start turns .done
  | fail {turns duty here device queue} (hc : Course start turns (.underway duty))
    (hf : duty.next here device queue = .failed) : Course start turns (.failed queue)

/-- All that is done is that one frame enters the send queue.  That takes two turns at most, and nothing
is waited for but room. -/
structure Announces (f : Frame) (turns : List Turn) (p : Progress) : Prop where
  /-- The printer is left as it is found. -/
  printer : ∀ t ∈ turns, t.left.device = t.found.device ∧ t.line = none
  /-- What is in the send queue stays there. -/
  queue : ∀ t ∈ turns, t.left.queue.items = t.found.queue.items ++ t.entered
  length : turns.length ≤ 2
  frames : match p with
    | .underway duty => turns.flatMap Turn.entered ++ duty.reply.toList = [f] ∧
        ∀ here device queue, duty.next here device queue = .waiting →
          queue.receiving ∧ queue.capacity ≤ queue.items.length
    | .done => turns.flatMap Turn.entered = [f]
    | .failed queue => turns.flatMap Turn.entered = [] ∧ queue.receiving = false

/-! ### Duties without lines -/

variable {f : Frame} {duty duty' : Duty} {turns : List Turn} {p : Progress}

theorem Turn.entered_of_items {t : Turn} {fs : List Frame}
    (h : t.left.queue.items = t.found.queue.items ++ fs) : t.entered = fs := by
  rw [Turn.entered, h, List.drop_left]

/-- What a duty without lines does in a turn: its frame enters the send queue, or it gets in line. -/
theorem moved_cases {here : Surroundings} {d d' : Device} {queue queue' : Pipe Frame}
    (hl : duty.lines = []) (h : duty.next here d queue = .moved duty' d' queue') :
    d' = d ∧ duty'.lines = [] ∧
      ((∃ f, duty.reply = some f ∧ duty'.reply = none ∧ queue'.items = queue.items ++ [f]) ∨
        (duty.waits = false ∧ duty'.waits ∧ duty'.reply = duty.reply ∧ duty.reply.isSome ∧
          queue'.items = queue.items)) := by
  cases hr : duty.reply with
  | none =>
    rw [next_of_nothing hr hl] at h
    cases h
  | some f =>
    obtain ⟨hdevice, ⟨rfl, hitems⟩ | ⟨hw, rfl, hitems⟩⟩ := moved_of_reply hr h
    · exact ⟨hdevice, hl, .inl ⟨f, rfl, rfl, hitems⟩⟩
    · exact ⟨hdevice, hl, .inr ⟨hw, rfl, hr, rfl, hitems⟩⟩

/-- The turns that a duty without lines still has before it, if it finds room. -/
def ahead (duty : Duty) : Nat := if duty.reply.isNone then 0 else if duty.waits then 1 else 2

/-- The course so far of a duty to enqueue a frame. -/
structure Underway (f : Frame) (turns : List Turn) (duty : Duty) : Prop where
  lines : duty.lines = []
  printer : ∀ t ∈ turns, t.left.device = t.found.device ∧ t.line = none
  queue : ∀ t ∈ turns, t.left.queue.items = t.found.queue.items ++ t.entered
  length : turns.length + duty.ahead ≤ 2
  frames : turns.flatMap Turn.entered ++ duty.reply.toList = [f]

theorem underway_ofFrame (f : Frame) : Underway f [] (.ofFrame f) where
  lines := rfl
  printer := fun _ ht => absurd ht List.not_mem_nil
  queue := fun _ ht => absurd ht List.not_mem_nil
  length := by simp [ahead, ofFrame]
  frames := rfl

/-- A turn of such a duty. -/
theorem Underway.turn {t : Turn} (h : Underway f turns duty) (hl : t.line = duty.line?)
    (ht : duty.next t.here t.found.device t.found.queue = .moved duty' t.left.device t.left.queue) :
    Underway f (turns ++ [t]) duty' := by
  obtain ⟨hdevice, hlines, hcases⟩ := moved_cases h.lines ht
  -- without lines there is none to execute
  have hline : t.line = none := by
    rw [hl, line?, h.lines, List.head?_nil, ite_self]
  have hsnoc {P : Turn → Prop} (hold : ∀ u ∈ turns, P u) (hnew : P t) : ∀ u ∈ turns ++ [t], P u := by
    simpa [or_imp, forall_and] using ⟨hold, hnew⟩
  have hlength := h.length
  have hframes := h.frames
  rcases hcases with ⟨g, hr, hr', hitems⟩ | ⟨hw, hw', hr', hr, hitems⟩
  · have hentered := Turn.entered_of_items hitems
    refine ⟨hlines, hsnoc h.printer ⟨hdevice, hline⟩, hsnoc h.queue (by rw [hentered, hitems]), ?_, ?_⟩
    · have hahead : 1 ≤ duty.ahead := by
        simp only [ahead, hr, Option.isNone_some, Bool.false_eq_true, if_false]
        split <;> decide
      have hnone : duty'.ahead = 0 := by simp [ahead, hr']
      rw [List.length_append, List.length_singleton, hnone]
      omega
    · rw [hr] at hframes
      simpa [hr', hentered] using hframes
  · have hentered : t.entered = [] := Turn.entered_of_items (by rw [hitems, List.append_nil])
    refine ⟨hlines, hsnoc h.printer ⟨hdevice, hline⟩,
      hsnoc h.queue (by rw [hentered, List.append_nil, hitems]), ?_, ?_⟩
    · obtain ⟨g, hg⟩ := Option.isSome_iff_exists.mp hr
      have htwo : duty.ahead = 2 := by simp [ahead, hg, hw]
      have hone : duty'.ahead = 1 := by simp [ahead, hr', hg, hw']
      rw [List.length_append, List.length_singleton]
      omega
    · simpa [hr', hentered] using hframes

theorem Course.underway (h : (Duty.ofFrame f).Course turns p) (hp : p = .underway duty) :
    Underway f turns duty := by
  -- along the turns; what others do between them is not looked at
  induction h generalizing duty with
  | start =>
    cases hp
    exact underway_ofFrame f
  | turn hc hl ht ih =>
    cases hp
    exact (ih rfl).turn hl ht
  | finish | fail => cases hp

theorem Underway.announces (h : Underway f turns duty) : Announces f turns (.underway duty) where
  printer := h.printer
  queue := h.queue
  length := le_trans (Nat.le_add_right _ _) h.length
  frames := ⟨h.frames, fun here device queue hw =>
    ((next_eq_waiting_iff duty here device queue).mp hw).2.2⟩

theorem reply_of_finished {here : Surroundings} {d : Device} {queue : Pipe Frame}
    (h : duty.next here d queue = .finished) : duty.reply = none := by
  cases hr : duty.reply with
  | none => rfl
  | some g =>
    rw [next_of_reply hr] at h
    cases ho : duty.offered queue g with
    | full => cases hw : duty.waits <;> simp [ho, hw] at h
    | _ => simp [ho] at h

theorem closed_of_failed {here : Surroundings} {d : Device} {queue : Pipe Frame}
    (h : duty.next here d queue = .failed) : duty.reply.isSome ∧ queue.receiving = false := by
  cases hr : duty.reply with
  | none =>
    cases hl : duty.lines with
    | nil => simp [next_of_nothing hr hl] at h
    | cons line rest => simp [next_of_line hr hl] at h
  | some g =>
    rw [next_of_reply hr] at h
    cases ho : duty.offered queue g with
    | refused => exact ⟨rfl, offered_eq_refused_iff.mp ho⟩
    | full => cases hw : duty.waits <;> simp [ho, hw] at h
    | entered q => simp [ho] at h

/-- **A duty to enqueue a frame does nothing else**, whatever others do in the meantime. -/
theorem Course.announces (h : (Duty.ofFrame f).Course turns p) : Announces f turns p := by
  cases h with
  | start => exact (underway_ofFrame f).announces
  | turn hc hl ht => exact ((hc.underway rfl).turn hl ht).announces
  | finish hc hf =>
    have hu := hc.underway rfl
    refine ⟨hu.printer, hu.queue, hu.announces.length, ?_⟩
    have hframes := hu.frames
    rwa [reply_of_finished hf, Option.toList_none, List.append_nil] at hframes
  | fail hc hf =>
    have hu := hc.underway rfl
    refine ⟨hu.printer, hu.queue, hu.announces.length, ?_⟩
    -- the frame is still to be enqueued, so nothing has entered yet
    obtain ⟨hr, hclosed⟩ := closed_of_failed hf
    obtain ⟨g, hg⟩ := Option.isSome_iff_exists.mp hr
    have hframes := hu.frames
    rw [hg, Option.toList_some] at hframes
    exact ⟨(List.append_eq_singleton_iff.mp hframes).elim (·.1) fun h => by simp at h, hclosed⟩

end Duty

/-! ### Routers -/

/-- A printer, and the station that works off events for it. -/
structure Router where
  device : Device
  station : Station

namespace Router

variable {x : Router} {e : Event} {r : CommandRequest}

/-- The router takes a command on: the command gets in line for the consumer, or a line is executed in
the course of what it leads to. -/
def Undertakes (x : Router) (e : Event) : Prop :=
  ∃ s duty, x.station.receive x.device e = (s, .ok duty) ∧
    (s.jobs ≠ x.station.jobs ∨ ∃ turns p, duty.Course turns p ∧ ∃ t ∈ turns, t.line.isSome)

theorem receive_command (hk : e.kind = .command) (s : Station) (d : Device) :
    s.receive d e = s.receiveCommand d e := by
  rw [Station.receive, hk]

/-- A command for another printer leaves the station as it is, and an error to enqueue. -/
theorem receive_of_not_denotes (hk : e.kind = .command) (hr : CommandRequest.ofEvent e = .ok r)
    (hd : ¬r.deviceId.denotes x.device.id) :
    x.station.receive x.device e =
      (x.station, .ok (.ofFrame (.message (Station.notServed r.deviceId)))) := by
  simp only [receive_command hk, Station.receiveCommand, hr, hd, Bool.not_false, if_true]
  rfl

/-- **A router takes on the commands for its printer only.** -/
theorem denotes_of_undertakes (hk : e.kind = .command) (hr : CommandRequest.ofEvent e = .ok r)
    (h : x.Undertakes e) : r.deviceId.denotes x.device.id := by
  by_contra hd
  -- it would be turned away, which queues no command and executes no line
  obtain ⟨s, duty, hreceive, h⟩ := h
  rw [receive_of_not_denotes hk hr hd] at hreceive
  cases hreceive
  rcases h with hjobs | ⟨turns, p, hc, t, ht, hline⟩
  · exact hjobs rfl
  · rw [(hc.announces.printer t ht).2] at hline
    cases hline

/-- Commands are executed at once, or there is room for them in their queue. -/
def TakesMore (x : Router) : Prop :=
  ∀ jobs ∈ x.station.jobs, jobs.receiving ∧ jobs.isFull = false

/-- A router that has room takes on every command for its printer. -/
theorem undertakes_of_denotes (hk : e.kind = .command) (hr : CommandRequest.ofEvent e = .ok r)
    (hroom : x.TakesMore) (hd : r.deviceId.denotes x.device.id) : x.Undertakes e := by
  cases hj : x.station.jobs with
  | none =>
    -- the first line is executed in the first turn
    have hsubmit : x.station.submit r = none := by rw [Station.submit, hj, Option.map_none]
    obtain ⟨line, rest, hlines⟩ : ∃ line rest, Text.lines r.instruction.toList = line :: rest :=
      List.exists_cons_of_ne_nil (Text.lines_ne_nil (CommandRequest.instruction_ne_nil hr))
    have hnext : (Duty.ofRequest r).next ⟨⟨0, 0⟩, .zero, true⟩ x.device x.station.queue = _ :=
      Duty.next_of_line rfl hlines
    have hline : some line = (Duty.ofRequest r).line? := by simp [Duty.line?, Duty.ofRequest, hlines]
    have hturn := Duty.Course.turn (t := ⟨_, ⟨_, _⟩, some line, ⟨_, _⟩⟩) .start hline hnext
    exact ⟨x.station, .ofRequest r, by simp [receive_command hk, Station.receiveCommand, hr, hd, hsubmit],
      .inr ⟨_, _, hturn, _, List.mem_singleton_self _, rfl⟩⟩
  | some jobs =>
    -- the command enters the queue of commands
    obtain ⟨ho, hf⟩ := hroom jobs hj
    have hsubmit : x.station.submit r =
        some (.ok { x.station with jobs := some { jobs with items := jobs.items ++ [r] } }) := by
      rw [Station.submit, hj, Option.map_some, Pipe.put_eq_entered_iff.mpr ⟨ho, hf, rfl⟩]
    refine ⟨{ x.station with jobs := some { jobs with items := jobs.items ++ [r] } }, .nothing,
      by simp [receive_command hk, Station.receiveCommand, hr, hd, hsubmit], .inl ?_⟩
    intro hsame
    have hitems := congrArg (fun j => j.elim 0 (·.items.length)) (hsame.trans hj)
    simp at hitems

/-- **A command reaches one printer at most.**  A name means one printer at most: the number of a printer
means that printer, and an integer of any size the printer with that number.  So of routers for
different printers at most one takes a command on, and every other enqueues one error, which repeats
the name as it stands, and leaves its printer alone. -/
theorem commands_isolated {ι : Type} {routers : ι → Router}
    (hids : Function.Injective fun i => (routers i).device.id) (hk : e.kind = .command)
    (hr : CommandRequest.ofEvent e = .ok r) :
    (∀ (name : DeviceId) (a b : UInt32), a ≠ b → ¬(name.denotes a ∧ name.denotes b)) ∧
    (∀ n m : UInt32, (DeviceId.ofNat n.toNat).denotes m ↔ n = m) ∧
    (∀ k v, Json.read Json.value (printInt k) = .ok v →
      ∃ name, readDeviceId v = .ok name ∧ ∀ id, name.denotes id ↔ k = id.toNat) ∧
    (∀ k : Int, k.natAbs ≤ Number.upperLimit → ∃ v, Json.read Json.value (printInt k) = .ok v) ∧
    (∃ v, CommandRequest.named? e.data = some v ∧ readDeviceId v = .ok r.deviceId) ∧
    (∀ i j, (routers i).Undertakes e → (routers j).Undertakes e → i = j) ∧
    ∀ i, ¬r.deviceId.denotes (routers i).device.id →
      ¬(routers i).Undertakes e ∧
      ∃ error, error = Frame.message (.new "error" (.object [("deviceId", .text r.deviceId.text),
          ("message", .text ("device " ++ r.deviceId.text ++ " is not served by this connection"))])) ∧
        (routers i).station.receive (routers i).device e =
          ((routers i).station, .ok (.ofFrame error)) ∧
        ∀ turns p, (Duty.ofFrame error).Course turns p → Duty.Announces error turns p := by
  refine ⟨fun name a b hne h => hne (DeviceId.eq_of_denotes h.1 h.2), DeviceId.denotes_number,
    fun k v h => DeviceId.denotes_integer h, fun k hk => ?_, CommandRequest.named?_of_ofEvent hr,
    fun i j hi hj => ?_, fun i hi => ⟨fun h => hi (denotes_of_undertakes hk hr h), _, rfl,
      receive_of_not_denotes hk hr hi, fun turns p hc => hc.announces⟩⟩
  · obtain ⟨n, hn⟩ := Json.exists_ofInt_value hk
    exact ⟨.number n, by rw [Json.read_printInt, hn]; rfl⟩
  · exact hids (DeviceId.eq_of_denotes (denotes_of_undertakes hk hr hi) (denotes_of_undertakes hk hr hj))

/-- Two routers, for the printers with the numbers one and two. -/
def pair (i : Fin 2) : Router := ⟨{ Device.standard with id := i.val.toUInt32 + 1 }, .new 4 none⟩

/-- A command for the second of them, by a decimal between blanks. -/
def call : Event := .new "command" (.object [("deviceId", .text " 2e0 "), ("instruction", .text "G28")])

/-- The second router takes the command on, and no other.  The first has an error to enqueue. -/
theorem commands_isolated_pair :
    (pair 1).Undertakes call ∧ (∀ i, (pair i).Undertakes call → i = 1) ∧
      ∃ error, (pair 0).station.receive (pair 0).device call = ((pair 0).station, .ok (.ofFrame error)) ∧
        ∀ turns p, (Duty.ofFrame error).Course turns p → Duty.Announces error turns p := by
  have hids : Function.Injective fun i => (pair i).device.id := by decide
  have hr : CommandRequest.ofEvent call = .ok ⟨⟨" 2e0 "⟩, "G28"⟩ := by rfl
  obtain ⟨-, -, -, -, -, hone, haway⟩ := commands_isolated hids (e := call) rfl hr
  have htwo : (pair 1).Undertakes call :=
    undertakes_of_denotes rfl hr (fun _ h => by cases h) (by decide +kernel)
  obtain ⟨-, error, -, hreceive, hcourse⟩ := haway 0 (by decide +kernel)
  exact ⟨htwo, fun i hi => hone i 1 hi htwo, error, hreceive, hcourse⟩

end Router

/-! ### Desks -/

/-- At a desk with room in its send queue, a command for another printer adds the error to the queue and
changes nothing else. -/
theorem Desk.dispatch_of_not_denotes {d : Desk} {e : Event} {r : CommandRequest} (hk : e.kind = .command)
    (hr : CommandRequest.ofEvent e = .ok r) (hd : ¬r.deviceId.denotes d.device.id)
    (ho : d.station.queue.receiving) (hf : d.station.queue.isFull = false) (drains : Bool) :
    d.dispatch drains e = ([], .done,
      { d with station.queue.items :=
          d.station.queue.items ++ [.message (Station.notServed r.deviceId)] }) := by
  have hreceive := Router.receive_of_not_denotes (x := ⟨d.device, d.station⟩) hk hr hd
  have hput : d.station.queue.put (.message (Station.notServed r.deviceId)) = .entered
      { d.station.queue with
        items := d.station.queue.items ++ [.message (Station.notServed r.deviceId)] } :=
    Pipe.put_eq_entered_iff.mpr ⟨ho, hf, rfl⟩
  rw [dispatch, hreceive]
  simp [attendWithin, Duty.ofFrame, Duty.next, hput]

end VirtualPrinter.Service
