import VirtualPrinter.Proofs.Service.Reader
import VirtualPrinter.Proofs.Service.Timeless

/-!
# What the reader does where commands are queued

Where commands are queued, a well-formed command for the printer enters the queue of commands, or it
is answered with an error if the queue has no room; every other text is dealt with as where commands
are executed at once, and amounts to a frame at most.

## Main definitions

* `Service.Hearing`: a text that the reader has taken.
* `Hearing.command?`, `Hearing.accepted?`: the command that it holds for the printer, and whether that
  has entered the queue.
* `Hearing.due`: the frames that the peer is owed for it.
* `Connection.hearing`: the text that the reader takes in a move.

## Main results

* `Connection.heard_takes`: what a text leaves to the tasks.
* `Served.foldl_hear_accepted`: what the accepted texts amount to is what their commands amount to.
-/

namespace VirtualPrinter.Service

open Link (Pipe)
open Wire (CommandRequest ErrorPayload Event Frame)

/-! ### Texts and what they are owed -/

/-- The well-formed command for a printer that a text holds. -/
def Heard.commandFor? (id : UInt32) : Heard → Option CommandRequest
  | .event e =>
    match e.kind, CommandRequest.ofEvent e with
    | .command, .ok r => if r.deviceId.denotes id then some r else none
    | _, _ => none
  | _ => none

/-- A text that the reader has taken. -/
structure Hearing where
  text : String
  /-- The printer at that time. -/
  device : Device
  /-- The queue of commands had room at that time. -/
  room : Bool

namespace Hearing

/-- The well-formed command for the printer that the text holds. -/
def command? (x : Hearing) : Option CommandRequest :=
  (Heard.ofText x.text.toList).commandFor? x.device.id

/-- The command, if it has entered the queue of commands. -/
def accepted? (x : Hearing) : Option CommandRequest := if x.room then x.command? else none

/-- The frames that the peer is owed for the text: an error for a command that has found no room, and
for everything else what it amounts to where commands are executed at once. -/
def due (clock : Nat → Surroundings) (x : Hearing) : List Frame :=
  match x.command? with
  | some r =>
    if x.room then []
    else [.message (ErrorPayload.toEvent ⟨some r.deviceId, "Job queue full"⟩)]
  | none => (Served.hear clock ⟨x.device, none, [], 0, false⟩ x.text).frames

end Hearing

/-- The text that the reader takes. -/
def Connection.hearing (c : Connection) : Move → Option Hearing
  | .read _ false d =>
    match c.reader, c.link.read with
    | .listening, .item text _ =>
      some ⟨text, d, c.station.jobs.any fun jobs => jobs.receiving && !jobs.isFull⟩
    | _, _ => none
  | _ => none

namespace Connection.History

/-- The texts that the reader has taken, the first one first. -/
def hearings (h : History) : List Hearing := h.filterMap fun (c, m) => c.hearing m

variable (h k : History) (c : Connection) (m : Move)

@[simp] theorem hearings_append : hearings (h ++ k) = h.hearings ++ k.hearings :=
  List.filterMap_append

@[simp] theorem hearings_singleton : hearings [(c, m)] = (c.hearing m).toList := by
  simp [hearings, List.filterMap_cons]
  cases c.hearing m <;> rfl

end Connection.History

/-! ### Commands at once -/

namespace Served

variable {clock : Nat → Surroundings} {s : Served}

@[simp] theorem interpret_id (id : Wire.DeviceId) (s : Served) (line : List Char) :
    (interpret clock id s line).device.id = s.device.id := by
  unfold interpret
  dsimp only
  split <;> exact Device.execute_id _ _ _

@[simp] theorem interpret_ended (id : Wire.DeviceId) (s : Served) (line : List Char) :
    (interpret clock id s line).ended = s.ended := by
  unfold interpret
  dsimp only
  split <;> rfl

/-- A command changes neither the number of the printer nor whether the peer is heard. -/
theorem obey_fixed (s : Served) (r : CommandRequest) :
    (s.obey clock r).device.id = s.device.id ∧ (s.obey clock r).ended = s.ended := by
  unfold obey
  induction r.lines generalizing s with
  | nil => exact ⟨rfl, rfl⟩
  | cons line rest ih =>
    obtain ⟨hid, hended⟩ := ih (interpret clock r.deviceId s line)
    exact ⟨hid.trans (interpret_id _ _ _), hended.trans (interpret_ended _ _ _)⟩

/-- A well-formed command for the printer amounts to its lines. -/
theorem hear_of_command {text : String} {r : CommandRequest} (hs : s.ended = false)
    (h : (Heard.ofText text.toList).commandFor? s.device.id = some r) :
    s.hear clock text = s.obey clock r := by
  rw [hear_eq_ofText clock s hs]
  cases hx : Heard.ofText text.toList with
  | event e =>
    simp only [hx, Heard.commandFor?] at h
    split at h
    · next hk hr =>
      simp only [serve_eq_kind, hk, command, hr]
      split at h <;> cases h
      next hd =>
      rw [if_pos hd]
      rfl
    · cases h
  | nothing | handshake | ping | ending => simp [hx, Heard.commandFor?] at h

/-- What the accepted texts amount to is what their commands amount to. -/
theorem foldl_hear_accepted {xs : List Hearing} (hs : s.ended = false)
    (hid : ∀ x ∈ xs, x.device.id = s.device.id) :
    ((xs.filter fun x => x.accepted?.isSome).map (·.text)).foldl (hear clock) s =
      (xs.filterMap Hearing.accepted?).foldl (obey clock) s := by
  induction xs generalizing s with
  | nil => rfl
  | cons x xs ih =>
    cases hx : x.accepted? with
    | none =>
      rw [List.filter_cons_of_neg (by simp [hx]), List.filterMap_cons_none hx]
      exact ih hs fun y hy => hid y (List.mem_cons_of_mem _ hy)
    | some r =>
      have hr : (Heard.ofText x.text.toList).commandFor? s.device.id = some r := by
        rw [Hearing.accepted?] at hx
        split at hx
        · rw [← hid x List.mem_cons_self]
          exact hx
        · cases hx
      rw [List.filter_cons_of_pos (by simp [hx]), List.filterMap_cons_some hx, List.map_cons,
        List.foldl_cons, List.foldl_cons, hear_of_command hs hr]
      -- the commands behind it find the same printer, and are heard as well
      obtain ⟨hid', hended⟩ := @obey_fixed clock s r
      exact ih (hended.trans hs) fun y hy => (hid y (List.mem_cons_of_mem _ hy)).trans hid'.symm

end Served

/-! ### Commands in a queue -/

variable {jobs : Pipe CommandRequest}

/-- A well-formed command for the printer enters the queue of commands, or it is refused for want of
room. -/
theorem Station.receive_of_command {st : Station} {d : Device} {e : Event} {r : CommandRequest}
    (hj : st.jobs = some jobs) (ho : jobs.receiving)
    (h : (Heard.event e).commandFor? d.id = some r) :
    st.receive d e =
      if jobs.isFull then (st, .ok (.ofEvent (rejected r.deviceId)))
      else ({ st with jobs := some { jobs with items := jobs.items ++ [r] } }, .ok .nothing) := by
  simp only [Heard.commandFor?] at h
  split at h
  · next hk hr =>
    split at h <;> cases h
    next hd =>
    simp only [receive, hk, receiveCommand, hr, hd, submit, hj, Option.map_some]
    cases hf : jobs.isFull with
    | true =>
      rw [Pipe.put_eq_full_iff.mpr ⟨ho, hf⟩]
      simp only [Bool.not_true, Bool.false_eq_true, if_false, if_true]
    | false =>
      rw [Pipe.put_eq_entered_iff.mpr ⟨ho, hf, rfl⟩]
      simp only [Bool.not_true, Bool.false_eq_true, if_false]
  · cases h

/-- Every other event leaves the queue of commands alone.  It amounts to a frame at most, unless it
shuts the connection down. -/
theorem Station.receive_of_other {st : Station} {d : Device} {e : Event}
    (h : (Heard.event e).commandFor? d.id = none) (clock : Nat → Surroundings) :
    st.receive d e = ({ st with cancelled := true }, .ok .nothing) ∨
    ∃ duty, st.receive d e = (st, .ok duty) ∧ duty.lines = [] ∧
      duty.reply.toList = (Served.serve clock ⟨d, none, [], 0, false⟩ e).frames := by
  rw [Served.serve_eq_kind]
  cases hk : e.kind with
  | disconnect => exact .inl (by simp only [receive, hk])
  | registrationRequest =>
    exact .inr ⟨.ofEvent d.registrationEvent, by simp only [receive, hk], rfl, rfl⟩
  | ping => exact .inr ⟨.ofEvent (.new "pong" e.data), by simp only [receive, hk], rfl, rfl⟩
  | serialPortRequest =>
    exact .inr ⟨.ofEvent (serialPortEvent d), by simp only [receive, hk], rfl, rfl⟩
  | pong | info | error | unknown => exact .inr ⟨.nothing, by simp only [receive, hk], rfl, rfl⟩
  | command =>
    right
    simp only [receive, hk, receiveCommand, Served.command]
    cases hr : CommandRequest.ofEvent e with
    | error => exact ⟨.nothing, rfl, rfl, rfl⟩
    | ok r =>
      -- the command is well-formed, so it must be for another printer
      have hd : r.deviceId.denotes d.id = false := by
        cases hd : r.deviceId.denotes d.id with
        | false => rfl
        | true => simp [Heard.commandFor?, hk, hr, hd] at h
      refine ⟨.ofEvent (notServed r.deviceId), by simp [hd], rfl, ?_⟩
      simp only [hd, Bool.false_eq_true, if_false, Served.emit, Served.enqueue, List.nil_append,
        Duty.ofEvent, Duty.ofFrame, Option.toList_some, notServed]

namespace Connection

variable {c c' : Connection} {d : Device}

/-- What a text leaves to the tasks: a command for the consumer, or frames for the reader to enqueue,
or nothing. -/
structure Takes (c c' : Connection) (jobs : Pipe CommandRequest) (accepted : Option CommandRequest)
    (due : List Frame) : Prop where
  reader : c'.reader ≠ .done
  lines : c'.duty.lines = []
  reply : c'.duty.reply.toList = due
  jobs : c'.station.jobs = some { jobs with items := jobs.items ++ accepted.toList }
  consumer : c'.station.consumer = c.station.consumer
  link : c'.link = c.link

/-- A text that leaves the station alone leaves no command. -/
theorem Takes.of_station {due : List Frame} (hj : c.station.jobs = some jobs)
    (hs : c'.station = c.station) (hr : c'.reader ≠ .done) (hl : c'.duty.lines = [])
    (hd : c'.duty.reply.toList = due) (hlink : c'.link = c.link) : c.Takes c' jobs none due :=
  ⟨hr, hl, hd, by rw [hs, hj, Option.toList_none, List.append_nil], by rw [hs], hlink⟩

/-- **What a text leaves to the tasks**, unless it shuts the connection down. -/
theorem heard_takes (hr : c.reader = .listening) (hj : c.station.jobs = some jobs)
    (ho : jobs.receiving) (clock : Nat → Surroundings) (d : Device) (text : String) :
    let x : Hearing := ⟨text, d, !jobs.isFull⟩
    let c' := c.heard d (.ofText text.toList)
    c'.station.cancelled ∨ c.Takes c' jobs x.accepted? (x.due clock) := by
  intro x c'
  have hduty : c.duty = .nothing := duty_of_listening hr
  have hlistening : c.reader ≠ .done := by simp [hr]
  cases hc : x.command? with
  | some r =>
    right
    have hc' : (Heard.ofText text.toList).commandFor? d.id = some r := hc
    cases hx : Heard.ofText text.toList with
    | event e =>
      rw [hx] at hc'
      have hreceive := c.station.receive_of_command hj ho hc'
      cases hf : jobs.isFull with
      | true =>
        have hroom : x.room = false := by simp only [x, hf, Bool.not_true]
        have hc'' : c' = { c with reader := .working (.ofEvent (Station.rejected r.deviceId)) } := by
          simp only [c', hx, heard, hreceive, hf, if_true]
        rw [hc'', Hearing.accepted?, Hearing.due, hc, hroom]
        exact .of_station hj rfl (by simp) rfl rfl rfl
      | false =>
        have hroom : x.room = true := by simp only [x, hf, Bool.not_false]
        have hc'' : c' = { c with
            station := { c.station with jobs := some { jobs with items := jobs.items ++ [r] } }
            reader := .working .nothing } := by
          simp [c', hx, heard, hreceive, hf]
        rw [hc'', Hearing.accepted?, Hearing.due, hc, hroom]
        exact ⟨by simp, rfl, rfl, rfl, rfl, rfl⟩
    | nothing | handshake | ping | ending => simp [hx, Heard.commandFor?] at hc'
  | none =>
    have haccepted : x.accepted? = none := by
      rw [Hearing.accepted?, hc]
      exact ite_self none
    have hdue : x.due clock = (Served.hear clock ⟨d, none, [], 0, false⟩ text).frames := by
      simp only [Hearing.due, hc, x]
    -- a text without a command for the printer is dealt with as where nothing is queued
    rw [haccepted, hdue, Served.hear_eq_ofText clock _ rfl]
    have hc' : (Heard.ofText text.toList).commandFor? d.id = none := hc
    cases hx : Heard.ofText text.toList with
    | nothing =>
      right
      simp only [c', hx, heard]
      exact .of_station hj rfl hlistening (by rw [hduty]; rfl) (by rw [hduty]; rfl) rfl
    | handshake h =>
      right
      have hd' : ({ c with session := c.session.greet h } : Connection).duty = .nothing := hduty
      simp only [c', hx, heard]
      refine .of_station hj rfl hlistening (by rw [hd']; rfl) ?_ rfl
      rw [hd']
      cases h.sid <;> rfl
    | ping pong =>
      right
      simp only [c', hx, heard]
      exact .of_station hj rfl (by simp) rfl rfl rfl
    | ending =>
      left
      simp only [c', hx, heard]
      rfl
    | event e =>
      rw [hx] at hc'
      rcases c.station.receive_of_other hc' clock with h | ⟨duty, h, hlines, hreply⟩
      · left
        simp only [c', hx, heard, h]
      · right
        simp only [c', hx, heard, h]
        exact .of_station hj rfl (by simp) hlines hreply rfl

end Connection

end VirtualPrinter.Service
