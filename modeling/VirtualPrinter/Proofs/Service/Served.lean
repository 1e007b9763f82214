import VirtualPrinter.Proofs.Service.Instruction
import VirtualPrinter.Service.Connection

/-!
# What texts from the peer amount to

The texts that a peer sends amount to frames for the peer, a state of the printer and the name of the
session, whatever the tasks of the connection look like.  Each text is dealt with on its own, in the
order of arrival.  A clock tells what the printer finds around it at each line that it executes.

## Main definitions

* `Service.Served`, and `Served.hear`: what one more text amounts to.
* `Served.settle`: what a duty amounts to.
* `Served.Alike`: the same, apart from the reports at an interval.

## Main results

* `Served.hear_eq_heard`: what a text amounts to is what the reader makes of it, and then the duty
  that the reader has from it.
* `Served.Alike.hear`: the reports at an interval make no difference.
-/

namespace VirtualPrinter.Service

open Wire (CommandRequest CommandResponse DeviceId ErrorPayload Event Frame)

/-- What the texts so far amount to. -/
structure Served where
  device : Device
  /-- The name of the session. -/
  sid : Option String
  /-- The frames for the peer, the first one first. -/
  frames : List Frame
  /-- The number of lines that have been executed. -/
  executed : Nat
  /-- The peer has closed the connection, and nothing more is heard. -/
  ended : Bool

namespace Served

/-- One more frame for the peer. -/
def enqueue (s : Served) (f : Frame) : Served := { s with frames := s.frames ++ [f] }

/-- One more event for the peer. -/
def emit (s : Served) (e : Event) : Served := s.enqueue (.message e)

variable (clock : Nat → Surroundings)

/-- A line for the printer that the peer calls `id`: one answer, if the line has any. -/
def interpret (id : DeviceId) (s : Served) (line : List Char) : Served :=
  let (device, answer) := s.device.execute (clock s.executed) line
  let s := { s with device := device, executed := s.executed + 1 }
  if answer = "" then s else s.emit (CommandResponse.toEvent ⟨id, answer⟩)

/-- A command: its lines in order, or a refusal if another printer is meant. -/
def command (s : Served) (e : Event) : Served :=
  match CommandRequest.ofEvent e with
  | .error _ => s
  | .ok r =>
    if r.deviceId.denotes s.device.id then
      (Text.lines r.instruction.toList).foldl (interpret clock r.deviceId) s
    else
      s.emit (ErrorPayload.toEvent ⟨some r.deviceId,
        "device " ++ r.deviceId.text ++ " is not served by this connection"⟩)

/-- The serial port of the printer, or why it cannot be told. -/
def serialPort (d : Device) : Event :=
  match d.serialPortInfo with
  | .ok info => info.toEvent
  | .error e => ErrorPayload.toEvent ⟨some (.ofNat d.id.toNat), e.message⟩

/-- An event, under its name or an older one. -/
def serve (s : Served) (e : Event) : Served :=
  if e.name = "registration-request" ∨ e.name = "printer_connect" then
    s.emit s.device.registrationEvent
  else if e.name = "command" ∨ e.name = "send_gcode" then s.command clock e
  else if e.name = "ping" then s.emit (.new "pong" e.data)
  else if e.name = "disconnect" ∨ e.name = "printer_disconnect" then { s with ended := true }
  else if e.name = "serial-port-request" ∨ e.name = "fake_serial_port" then
    s.emit (serialPort s.device)
  else s

/-- A text. -/
def hear (s : Served) (text : String) : Served :=
  if s.ended then s
  else match Frame.decode text.toList with
    | .error _ => s
    | .ok f =>
      match f.kind with
      | .opening =>
        match f.handshake?.bind (·.sid) with
        | some sid => { s with sid := some sid }
        | none => s
      | .closing => { s with ended := true }
      | .ping => s.enqueue ⟨.pong, f.payload⟩
      | .pong => s
      | .message =>
        match f.event with
        | .error _ => s
        | .ok e => s.serve clock e

/-- What the frame and the lines of a duty amount to. -/
def settle (s : Served) (duty : Duty) : Served :=
  let s := match duty.reply with
    | some f => s.enqueue f
    | none => s
  duty.lines.foldl (interpret clock duty.device) s

/-! ### Frames and events that are not understood -/

/-- No text ends the connection by being undecodable. -/
theorem isRecoverable_of_decode {text : List Char} {e : Wire.Error}
    (h : Frame.decode text = .error e) : e.isRecoverable := by
  unfold Frame.decode Frame.decodeTrimmed at h
  split at h
  · cases h
  · split at h
    · cases h
      rfl
    · next c rest _ =>
      cases hk : Wire.Kind.ofMarker? c with
      | none =>
        simp only [hk, Except.error.injEq] at h
        subst h
        rfl
      | some kind =>
        simp only [hk] at h
        generalize (if rest.isEmpty then none else some (String.ofList rest)) = payload at h
        by_cases hp : kind = .message ∧ payload = none
        · simp only [if_pos hp, Except.error.injEq] at h
          subst h
          rfl
        · simp only [if_neg hp, reduceCtorEq] at h

/-- Nor does a message frame by having no event in it. -/
theorem isRecoverable_of_event {f : Frame} {e : Wire.Error} (h : f.event = .error e) :
    e.isRecoverable := by
  unfold Frame.event at h
  split at h
  · unfold Event.read at h
    split at h
    · cases h
    · split at h
      · split at h <;> cases h
        rfl
      · cases h
        rfl
  · cases h
    rfl

/-! ### The reader's view -/

/-- What the reader's understanding of a text amounts to. -/
theorem hear_eq_ofText (s : Served) (hs : s.ended = false) (text : String) :
    s.hear clock text = match Heard.ofText text.toList with
      | .nothing => s
      | .handshake h =>
        match h.sid with
        | some sid => { s with sid := some sid }
        | none => s
      | .ping pong => s.enqueue pong
      | .event e => s.serve clock e
      | .ending => { s with ended := true } := by
  unfold hear Heard.ofText
  rw [hs]
  cases hd : Frame.decode text.toList with
  | error e => simp [Heard.ofError, isRecoverable_of_decode hd]
  | ok f =>
    cases hk : f.kind with
    -- what a frame means is decided by its kind, on both sides
    | opening => cases hh : f.handshake? <;> simp [hk, hh]
    | closing => simp [hk]
    | ping => simp [hk, Frame.pongFor]
    | pong => simp [hk]
    | message =>
      cases he : f.event with
      | error e => simp [hk, he, Heard.ofError, isRecoverable_of_event he]
      | ok e => simp [hk, he]

theorem ofName_eq (name : String) :
    Wire.EventKind.ofName name =
      if name = "registration-request" ∨ name = "printer_connect" then .registrationRequest
      else if name = "command" ∨ name = "send_gcode" then .command
      else if name = "ping" then .ping
      else if name = "disconnect" ∨ name = "printer_disconnect" then .disconnect
      else if name = "serial-port-request" ∨ name = "fake_serial_port" then .serialPortRequest
      else if name = "pong" then .pong
      else if name = "info" then .info
      else if name = "error" then .error
      else .unknown := by
  unfold Wire.EventKind.ofName
  split <;> simp_all

/-- What is done about an event depends on its name through its kind. -/
theorem serve_eq_kind (s : Served) (e : Event) :
    s.serve clock e = match e.kind with
      | .registrationRequest => s.emit s.device.registrationEvent
      | .command => s.command clock e
      | .ping => s.emit (.new "pong" e.data)
      | .disconnect => { s with ended := true }
      | .serialPortRequest => s.emit (serialPort s.device)
      | .pong | .info | .error | .unknown => s := by
  unfold serve Event.kind
  rw [ofName_eq]
  -- the first five tests are made in the same order on both sides
  iterate 5
    split
    · rfl
  by_cases hp : e.name = "pong"
  · simp only [if_pos hp]
  by_cases hi : e.name = "info"
  · simp only [if_neg hp, if_pos hi]
  by_cases he : e.name = "error"
  · simp only [if_neg hp, if_neg hi, if_pos he]
  simp only [if_neg hp, if_neg hi, if_neg he]

@[simp] theorem settle_nothing (s : Served) : s.settle clock .nothing = s := rfl

@[simp] theorem settle_ofFrame (s : Served) (f : Frame) :
    s.settle clock (.ofFrame f) = s.enqueue f := rfl

@[simp] theorem settle_ofEvent (s : Served) (e : Event) :
    s.settle clock (.ofEvent e) = s.emit e := rfl

theorem settle_of_done (s : Served) {duty : Duty} (hd : duty.reply = none)
    (hl : duty.lines = []) : s.settle clock duty = s := by
  simp only [settle, hd, hl, List.foldl_nil]

theorem settle_of_reply (s : Served) {duty : Duty} {f : Frame} (hd : duty.reply = some f) :
    s.settle clock duty = (s.enqueue f).settle clock { duty with reply := none, waits := false } := by
  simp only [settle, hd]

theorem settle_ofRequest (s : Served) (r : CommandRequest) :
    s.settle clock (.ofRequest r) =
      (Text.lines r.instruction.toList).foldl (interpret clock r.deviceId) s := rfl

/-- The frame of an answer is for the peer. -/
theorem settle_answer {here : Surroundings} (s : Served) (device : DeviceId) (line : List Char)
    (rest : List (List Char)) (hclock : clock s.executed = here) :
    settle clock { s with
        device := (s.device.execute here line).1, executed := s.executed + 1 }
      ⟨Duty.answerFrame device (s.device.execute here line).2, device, rest, false⟩ =
    (line :: rest).foldl (interpret clock device) s := by
  rw [List.foldl_cons]
  unfold settle interpret Duty.answerFrame
  simp only [hclock, String.isEmpty_iff]
  by_cases h : (s.device.execute here line).2 = ""
  · simp only [h, if_true]
  · simp only [h, if_false]
    rfl

/-- A station that executes commands at once has a duty from every event, which amounts to what the
event amounts to. -/
theorem serve_eq_receive {st : Station} (hj : st.jobs = none) (s : Served)
    (hs : s.ended = st.cancelled) (e : Event) :
    ∃ st' duty, st.receive s.device e = (st', .ok duty) ∧
      s.serve clock e = settle clock { s with ended := st'.cancelled } duty := by
  have hself : { s with ended := st.cancelled } = s := by rw [← hs]
  rw [serve_eq_kind]
  cases hk : e.kind with
  | registrationRequest =>
    -- all kinds but two leave the station as it is, with a duty of one frame or of none
    exact ⟨st, .ofEvent s.device.registrationEvent, by simp only [Station.receive, hk],
      by rw [hself, settle_ofEvent]⟩
  | ping =>
    exact ⟨st, .ofEvent (.new "pong" e.data), by simp only [Station.receive, hk],
      by rw [hself, settle_ofEvent]⟩
  | disconnect =>
    exact ⟨{ st with cancelled := true }, .nothing, by simp only [Station.receive, hk], rfl⟩
  | serialPortRequest =>
    exact ⟨st, .ofEvent (Station.serialPortEvent s.device), by simp only [Station.receive, hk],
      by rw [hself, settle_ofEvent]; rfl⟩
  | pong | info | error | unknown =>
    exact ⟨st, .nothing, by simp only [Station.receive, hk], by rw [hself, settle_nothing]⟩
  | command =>
    simp only [Station.receive, hk, Station.receiveCommand, command]
    cases hr : CommandRequest.ofEvent e with
    | error => exact ⟨st, .nothing, rfl, by rw [hself, settle_nothing]⟩
    | ok r =>
      by_cases hd : r.deviceId.denotes s.device.id
      -- the lines are left to the duty, since there is no queue of commands
      · refine ⟨st, .ofRequest r, by simp [hd, Station.submit, hj], ?_⟩
        simp only [hd, if_true, hself, settle_ofRequest]
      · refine ⟨st, .ofEvent (Station.notServed r.deviceId), by simp [hd], ?_⟩
        simp only [hd, hself, settle_ofEvent]
        rfl

end Served

/-- What the reader of a connection has still to do before it looks for another text. -/
def Connection.duty (c : Connection) : Duty :=
  match c.reader with
  | .working duty => duty
  | .listening | .done => .nothing

theorem Connection.duty_of_working {c : Connection} {duty : Duty}
    (hr : c.reader = .working duty) : c.duty = duty := by
  simp only [Connection.duty, hr]

theorem Connection.duty_of_listening {c : Connection} (hr : c.reader = .listening) : c.duty = .nothing := by
  simp only [Connection.duty, hr]

namespace Served

variable (clock : Nat → Surroundings)

/-- **What a text amounts to** is what the reader makes of it at once, and then the duty that the
reader has from it. -/
theorem hear_eq_heard {c : Connection} (hr : c.reader = .listening) (hj : c.station.jobs = none)
    (s : Served) (hsid : s.sid = c.session.sid) (hs : s.ended = false)
    (hc : c.station.cancelled = false) (text : String) :
    let c' := c.heard s.device (.ofText text.toList)
    s.hear clock text =
      settle clock { s with sid := c'.session.sid, ended := c'.station.cancelled } c'.duty := by
  have hself : { s with sid := c.session.sid, ended := c.station.cancelled } = s := by
    rw [hc, ← hs, ← hsid]
  have hduty : c.duty = .nothing := by simp only [Connection.duty, hr]
  dsimp only
  rw [hear_eq_ofText clock s hs]
  cases Heard.ofText text.toList with
  | nothing => simp only [Connection.heard, hduty, settle_nothing, hself]
  | handshake h =>
    cases hh : h.sid with
    | none =>
      simp only [Connection.heard, Connection.duty, hr, settle_nothing, Wire.Session.greet, hh, hself]
    | some sid =>
      simp only [Connection.heard, Connection.duty, hr, settle_nothing, Wire.Session.greet, hh, hc, hs]
  | ping pong =>
    simp only [Connection.heard, Connection.duty, settle_ofFrame, hself]
  | event e =>
    obtain ⟨st, duty, hreceive, hserve⟩ :=
      -- the only text that the device has a say in
      serve_eq_receive clock hj s (hs.trans hc.symm) e
    simp only [Connection.heard, hreceive, Connection.duty, hserve, ← hsid]
  | ending =>
    have hsid' : c.endReader.session.sid = s.sid := hsid.symm
    simp only [Connection.heard, hsid']
    rfl

/-! ### The end -/

/-- Nothing is heard after the end. -/
theorem hear_of_ended {s : Served} (h : s.ended) (text : String) : s.hear clock text = s := by
  simp only [hear, h, if_true]

theorem foldl_hear_of_ended {s : Served} (h : s.ended) (texts : List String) :
    texts.foldl (hear clock) s = s := by
  induction texts with
  | nil => rfl
  | cons text rest ih => rw [List.foldl_cons, hear_of_ended clock h, ih]

/-! ### Nothing is taken back -/

theorem frames_interpret (id : DeviceId) (s : Served) (line : List Char) :
    s.frames <+: (interpret clock id s line).frames := by
  unfold interpret
  dsimp only
  split
  · exact List.prefix_refl _
  · exact List.prefix_append _ _

theorem frames_interpretAll (id : DeviceId) (s : Served) (lines : List (List Char)) :
    s.frames <+: (lines.foldl (interpret clock id) s).frames := by
  induction lines generalizing s with
  | nil => exact List.prefix_refl _
  | cons line rest ih => exact (frames_interpret clock id s line).trans (ih _)

/-- The frame of a duty is for the peer. -/
theorem frames_settle (s : Served) (duty : Duty) :
    s.frames ++ duty.reply.toList <+: (s.settle clock duty).frames := by
  unfold settle
  cases duty.reply with
  | none =>
    rw [Option.toList_none, List.append_nil]
    exact frames_interpretAll clock _ _ _
  | some f => exact frames_interpretAll clock _ (s.enqueue f) _

theorem frames_serve (s : Served) (e : Event) : s.frames <+: (s.serve clock e).frames := by
  rw [serve_eq_kind]
  split
  case h_2 =>
    unfold command
    split
    · exact List.prefix_refl _
    · split
      · exact frames_interpretAll clock _ _ _
      · exact List.prefix_append _ _
  all_goals first | exact List.prefix_refl _ | exact List.prefix_append _ _

theorem frames_hear (s : Served) (text : String) : s.frames <+: (s.hear clock text).frames := by
  cases hs : s.ended with
  | true =>
    simp only [hear, hs, if_true]
    exact List.prefix_refl _
  | false =>
    rw [hear_eq_ofText clock s hs]
    split
    · exact List.prefix_refl _
    · split <;> exact List.prefix_refl _
    · exact List.prefix_append _ _
    · exact frames_serve clock s _
    · exact List.prefix_refl _

theorem frames_foldl_hear (s : Served) (texts : List String) :
    s.frames <+: (texts.foldl (hear clock) s).frames := by
  induction texts generalizing s with
  | nil => exact List.prefix_refl _
  | cons text rest ih => exact (frames_hear clock s text).trans (ih _)

/-! ### Reports at an interval make no difference -/

/-- The same, apart from the reports at an interval. -/
structure Alike (s t : Served) : Prop where
  device : s.device.Alike t.device
  sid : s.sid = t.sid
  frames : s.frames = t.frames
  executed : s.executed = t.executed
  ended : s.ended = t.ended

variable {s t : Served}

theorem Alike.refl (s : Served) : s.Alike s := ⟨.refl _, rfl, rfl, rfl, rfl⟩

theorem Alike.trans {u : Served} (h : s.Alike t) (h' : t.Alike u) : s.Alike u :=
  ⟨h.device.trans h'.device, h.sid.trans h'.sid, h.frames.trans h'.frames,
    h.executed.trans h'.executed, h.ended.trans h'.ended⟩

theorem Alike.enqueue (h : s.Alike t) (f : Frame) : (s.enqueue f).Alike (t.enqueue f) :=
  { h with frames := by rw [Served.enqueue, Served.enqueue, h.frames] }

theorem Alike.emit (h : s.Alike t) (e : Event) : (s.emit e).Alike (t.emit e) :=
  h.enqueue _

section

variable {clock : Nat → Surroundings} (hclock : ∀ k, (clock k).runsTasks)

include hclock

theorem Alike.interpret (h : s.Alike t) (id : DeviceId) (line : List Char) :
    (Served.interpret clock id s line).Alike (Served.interpret clock id t line) := by
  -- where tasks can be started, the answer does not tell whether reports are running
  obtain ⟨hd, ha⟩ := Device.execute_alike h.device (hclock t.executed) line
  have hnext : Alike
      { s with device := (s.device.execute (clock t.executed) line).1, executed := t.executed + 1 }
      { t with device := (t.device.execute (clock t.executed) line).1, executed := t.executed + 1 } :=
    ⟨hd, h.sid, h.frames, rfl, h.ended⟩
  simp only [Served.interpret, h.executed, ha]
  split
  · exact hnext
  · exact hnext.emit _

theorem Alike.interpretAll (h : s.Alike t) (id : DeviceId) (lines : List (List Char)) :
    (lines.foldl (Served.interpret clock id) s).Alike
      (lines.foldl (Served.interpret clock id) t) := by
  induction lines generalizing s t with
  | nil => exact h
  | cons line rest ih => exact ih (h.interpret hclock id line)

theorem Alike.settle (h : s.Alike t) (duty : Duty) :
    (s.settle clock duty).Alike (t.settle clock duty) := by
  unfold Served.settle
  cases duty.reply with
  | none => exact h.interpretAll hclock _ _
  | some f => exact (h.enqueue f).interpretAll hclock _ _

theorem Alike.serve (h : s.Alike t) (e : Event) :
    (s.serve clock e).Alike (t.serve clock e) := by
  rw [serve_eq_kind, serve_eq_kind]
  cases e.kind with
  | registrationRequest =>
    have he : s.device.registrationEvent = t.device.registrationEvent := by
      rw [Device.registrationEvent, Device.registrationEvent, h.device.state]
    simpa only [he] using h.emit _
  | serialPortRequest =>
    have he : serialPort s.device = serialPort t.device := by
      simp only [serialPort, Device.serialPortInfo, Device.storedText, h.device.state, h.device.id]
    simpa only [he] using h.emit _
  | command =>
    simp only [Served.command, h.device.id]
    split
    · exact h
    · split
      · exact h.interpretAll hclock _ _
      · exact h.emit _
  | ping => exact h.emit _
  | disconnect => exact { h with ended := rfl }
  | pong | info | error | unknown => exact h

/-- The reports at an interval make no difference to what a text amounts to. -/
theorem Alike.hear (h : s.Alike t) (text : String) :
    (s.hear clock text).Alike (t.hear clock text) := by
  cases ht : t.ended with
  | true =>
    simp only [Served.hear, h.ended, ht, if_true]
    exact h
  | false =>
    rw [hear_eq_ofText clock s (h.ended.trans ht), hear_eq_ofText clock t ht]
    cases Heard.ofText text.toList with
    | nothing => exact h
    | handshake hs =>
      cases hsid : hs.sid with
      | none =>
        simp only [hsid]
        exact h
      | some sid =>
        simp only [hsid]
        exact { h with sid := rfl }
    | ping pong => exact h.enqueue pong
    | event e => exact h.serve hclock e
    | ending => exact { h with ended := rfl }

theorem Alike.foldl_hear (h : s.Alike t) (texts : List String) :
    (texts.foldl (Served.hear clock) s).Alike (texts.foldl (Served.hear clock) t) := by
  induction texts generalizing s t with
  | nil => exact h
  | cons text rest ih => exact ih (h.hear hclock text)

end

end Served

end VirtualPrinter.Service
