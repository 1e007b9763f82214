import VirtualPrinter.Proofs.Machine.Lifesign
import VirtualPrinter.Proofs.Service.Served

/-!
# Clocks make no difference

What instruction lines amount to depends on the clock only in the last sign of life of the printer.
So two printers that agree apart from that and from their reports go on to agree, line by line, even
if each of them follows a clock of its own.

## Main definitions

* `Device.Akin`: the same printer on the same connection, apart from its reports and its last sign of
  life.
* `Served.Akin`: the same printer and the same frames.
* `Served.obey`: what the lines of a command amount to.

## Main results

* `Device.execute_akin`: such printers do and answer the same.
* `Served.Akin.settle`, `Served.Akin.obey`: so do duties and commands, each on a clock of its own.
-/

namespace VirtualPrinter.Wire

/-- The lines of a command. -/
def CommandRequest.lines (r : CommandRequest) : List (List Char) := Text.lines r.instruction.toList

end VirtualPrinter.Wire

namespace VirtualPrinter.Service

open Wire (CommandRequest DeviceId Event Frame)

namespace Device

/-- The same printer on the same connection, apart from its reports and its last sign of life. -/
structure Akin (d e : Device) : Prop where
  id : d.id = e.id
  state : d.state.Akin e.state
  binding : d.binding = e.binding

variable {d e f : Device} {here here' : Surroundings}

theorem Akin.refl (d : Device) : d.Akin d := ⟨rfl, .refl _, rfl⟩

theorem Akin.symm (h : d.Akin e) : e.Akin d := ⟨h.id.symm, h.state.symm, h.binding.symm⟩

theorem Akin.trans (h : d.Akin e) (h' : e.Akin f) : d.Akin f :=
  ⟨h.id.trans h'.id, h.state.trans h'.state, h.binding.trans h'.binding⟩

theorem Alike.akin (h : d.Alike e) : d.Akin e := ⟨h.id, h.state ▸ .refl _, h.binding⟩

theorem perform_akin (h : d.Akin e) (hr : here.runsTasks) (hr' : here'.runsTasks)
    (c : Gcode.Command) :
    (d.perform here c).1.Akin (e.perform here' c).1 ∧
      (d.perform here c).2 = (e.perform here' c).2 := by
  unfold perform
  split
  · next interval =>
    split
    · exact ⟨{ h with }, rfl⟩
    · rcases startTelemetry_of_binding h.id h.binding hr hr' interval with
        ⟨s, s', hd, he⟩ | ⟨error, hd, he⟩
      · rw [hd, he]
        exact ⟨{ h with }, rfl⟩
      · rw [hd, he]
        exact ⟨h, rfl⟩
  · have hstate := Machine.execute_akin h.state here.time here'.time c
    generalize Machine.execute here.time d.state c = x at hstate ⊢
    generalize Machine.execute here'.time e.state c = y at hstate ⊢
    cases hstate with
    | done hs => exact ⟨⟨h.id, hs, h.binding⟩, rfl⟩
    | refused e => exact ⟨h, rfl⟩

/-- Neither the clocks nor the reports make a difference to an answer. -/
theorem execute_akin (h : d.Akin e) (hr : here.runsTasks) (hr' : here'.runsTasks)
    (line : List Char) :
    (d.execute here line).1.Akin (e.execute here' line).1 ∧
      (d.execute here line).2 = (e.execute here' line).2 := by
  unfold execute
  dsimp only
  split
  · exact ⟨h, rfl⟩
  · split
    · exact perform_akin h hr hr' _
    · exact ⟨h, rfl⟩

end Device

namespace Served

/-- The same printer and the same frames, apart from reports and the last sign of life. -/
structure Akin (s t : Served) : Prop where
  device : s.device.Akin t.device
  frames : s.frames = t.frames

variable {s t u : Served}

theorem Akin.refl (s : Served) : s.Akin s := ⟨.refl _, rfl⟩

theorem Akin.symm (h : s.Akin t) : t.Akin s := ⟨h.device.symm, h.frames.symm⟩

theorem Akin.trans (h : s.Akin t) (h' : t.Akin u) : s.Akin u :=
  ⟨h.device.trans h'.device, h.frames.trans h'.frames⟩

theorem Akin.enqueue (h : s.Akin t) (f : Frame) : (s.enqueue f).Akin (t.enqueue f) :=
  ⟨h.device, by rw [Served.enqueue, Served.enqueue, h.frames]⟩

/-! ### Lines, duties and commands -/

/-- What the lines of a command amount to. -/
def obey (clock : Nat → Surroundings) (s : Served) (r : CommandRequest) : Served :=
  r.lines.foldl (interpret clock r.deviceId) s

section

variable {clock clock' : Nat → Surroundings} (hclock : ∀ k, (clock k).runsTasks)
  (hclock' : ∀ k, (clock' k).runsTasks)

include hclock hclock'

theorem Akin.interpret (h : s.Akin t) (id : DeviceId) (line : List Char) :
    (Served.interpret clock id s line).Akin (Served.interpret clock' id t line) := by
  obtain ⟨hd, ha⟩ := Device.execute_akin h.device (hclock s.executed) (hclock' t.executed) line
  have hnext : Akin
      { s with device := (s.device.execute (clock s.executed) line).1, executed := s.executed + 1 }
      { t with device := (t.device.execute (clock' t.executed) line).1, executed := t.executed + 1 } :=
    ⟨hd, h.frames⟩
  simp only [Served.interpret, ha]
  split
  · exact hnext
  · exact hnext.enqueue _

theorem Akin.interpretAll (h : s.Akin t) (id : DeviceId) (lines : List (List Char)) :
    (lines.foldl (Served.interpret clock id) s).Akin
      (lines.foldl (Served.interpret clock' id) t) := by
  induction lines generalizing s t with
  | nil => exact h
  | cons line rest ih => exact ih (h.interpret hclock hclock' id line)

/-- What a duty amounts to does not depend on the clock. -/
theorem Akin.settle (h : s.Akin t) (duty : Duty) :
    (s.settle clock duty).Akin (t.settle clock' duty) := by
  unfold Served.settle
  cases duty.reply with
  | none => exact h.interpretAll hclock hclock' _ _
  | some f => exact (h.enqueue f).interpretAll hclock hclock' _ _

/-- Nor does what a command amounts to. -/
theorem Akin.obey (h : s.Akin t) (r : CommandRequest) :
    (s.obey clock r).Akin (t.obey clock' r) :=
  h.interpretAll hclock hclock' _ _

end

variable (clock : Nat → Surroundings)

/-- Nothing is taken back by further commands. -/
theorem frames_foldl_obey (s : Served) (rs : List CommandRequest) :
    s.frames <+: (rs.foldl (obey clock) s).frames := by
  induction rs generalizing s with
  | nil => exact List.prefix_refl _
  | cons r rest ih => exact (frames_interpretAll clock r.deviceId s _).trans (ih _)

/-- A line that has been executed, whatever the time was, leaves its answer and the lines behind
it. -/
theorem settle_answer_akin (hclock : ∀ k, (clock k).runsTasks) {here : Surroundings}
    (hr : here.runsTasks) (s : Served) (device : DeviceId) (line : List Char)
    (rest : List (List Char)) :
    (settle clock { s with device := (s.device.execute here line).1 }
        ⟨Duty.answerFrame device (s.device.execute here line).2, device, rest, false⟩).Akin
      ((line :: rest).foldl (interpret clock device) s) := by
  -- with a clock that stands still the two are the same
  have hstill := settle_answer (fun _ => here) s device line rest rfl
  have hback : (settle (fun _ => here)
      { s with device := (s.device.execute here line).1, executed := s.executed + 1 }
        ⟨Duty.answerFrame device (s.device.execute here line).2, device, rest, false⟩).Akin
      ((line :: rest).foldl (interpret clock device) s) := by
    rw [hstill]
    exact (Akin.refl s).interpretAll (fun _ => hr) hclock device _
  have hnext : Akin { s with device := (s.device.execute here line).1 }
      { s with device := (s.device.execute here line).1, executed := s.executed + 1 } :=
    ⟨.refl _, rfl⟩
  exact (hnext.settle hclock (fun _ => hr) _).trans hback

end Served

end VirtualPrinter.Service
