import VirtualPrinter.Proofs.Outcome
import VirtualPrinter.Service.Device

/-!
# What an instruction line can do

An instruction line changes the state of a printer by a command that was not refused, or it concerns
the streamer, or it changes nothing.  The number of the printer and the connection it is bound to
stay in every case.

## Main definitions

* `Device.standard`: a printer to look at.
* `Device.Alike`: the same printer, apart from its reports.

## Main results

* `perform_cases`, `execute_cases`: what a command and a line can do.
* `execute_state`: what a line keeps.
* `execute_id`, `execute_binding`: what they never do.
* `execute_alike`: the reports make no difference to an answer.
-/

namespace VirtualPrinter.Service.Device

open Outcome (map_eq_ok_iff)

/-- A new printer of the standard size. -/
def standard : Device :=
  .ofState (.new (.new 1 "Prusa MK4" "Printer1" ⟨1704164645, 0⟩) (.at .origin) .standard)

/-- Reports can start only on a printer that stays as it is otherwise. -/
theorem startTelemetry_eq_ok {d e : Device} {here : Surroundings} {interval : Time.Span}
    (h : d.startTelemetry here interval = .ok e) :
    ∃ streamer, e = { d with streamer := streamer } := by
  unfold startTelemetry at h
  split at h
  · cases h
  · obtain ⟨⟨_, streamer⟩, -, rfl⟩ := map_eq_ok_iff.mp h
    exact ⟨streamer, rfl⟩

/-- What a command can do. -/
theorem perform_cases (d : Device) (here : Surroundings) (c : Gcode.Command) :
    (∃ state answer, Machine.execute here.time d.state c = .ok (state, answer) ∧
      d.perform here c = ({ d with state := state }, answer)) ∨
    ∃ streamer answer, d.perform here c = ({ d with streamer := streamer }, answer) := by
  unfold perform
  split
  · right
    split
    · exact ⟨_, _, rfl⟩
    · split
      · next h =>
        obtain ⟨streamer, rfl⟩ := startTelemetry_eq_ok h
        exact ⟨streamer, _, rfl⟩
      · exact ⟨d.streamer, _, rfl⟩
  · split
    · next h => exact .inl ⟨_, _, h, rfl⟩
    · exact .inr ⟨d.streamer, _, rfl⟩

/-- What a line can do. -/
theorem execute_cases (d : Device) (here : Surroundings) (line : List Char) :
    (∃ c state answer, Machine.execute here.time d.state c = .ok (state, answer) ∧
      d.execute here line = ({ d with state := state }, answer)) ∨
    ∃ streamer answer, d.execute here line = ({ d with streamer := streamer }, answer) := by
  unfold execute
  dsimp only
  split
  · exact .inr ⟨d.streamer, _, rfl⟩
  · split
    · next c _ =>
      rcases d.perform_cases here c with ⟨state, answer, h, he⟩ | h
      · exact .inl ⟨c, state, answer, h, he⟩
      · exact .inr h
    · exact .inr ⟨d.streamer, _, rfl⟩

/-- What holds of a state, and of whatever a command makes of it, holds after a line. -/
theorem execute_state {P : Machine.State → Prop} {d : Device} (h : P d.state)
    (hc : ∀ {now c state answer}, Machine.execute now d.state c = .ok (state, answer) → P state)
    (here : Surroundings) (line : List Char) : P (d.execute here line).1.state := by
  rcases d.execute_cases here line with ⟨c, state, answer, hok, he⟩ | ⟨streamer, answer, he⟩
  · rw [he]
    exact hc hok
  · rwa [he]

@[simp] theorem execute_id (d : Device) (here : Surroundings) (line : List Char) :
    (d.execute here line).1.id = d.id := by
  rcases d.execute_cases here line with ⟨_, _, _, _, h⟩ | ⟨_, _, h⟩ <;> rw [h]

@[simp] theorem execute_binding (d : Device) (here : Surroundings) (line : List Char) :
    (d.execute here line).1.binding = d.binding := by
  rcases d.execute_cases here line with ⟨_, _, _, _, h⟩ | ⟨_, _, h⟩ <;> rw [h]

/-- The same printer on the same connection, apart from its reports at an interval. -/
structure Alike (d e : Device) : Prop where
  id : d.id = e.id
  state : d.state = e.state
  binding : d.binding = e.binding

theorem Alike.refl (d : Device) : d.Alike d := ⟨rfl, rfl, rfl⟩

theorem Alike.symm {d e : Device} (h : d.Alike e) : e.Alike d :=
  ⟨h.id.symm, h.state.symm, h.binding.symm⟩

theorem Alike.trans {d e f : Device} (h : d.Alike e) (h' : e.Alike f) : d.Alike f :=
  ⟨h.id.trans h'.id, h.state.trans h'.state, h.binding.trans h'.binding⟩

/-- Where tasks can be started, reports can start on a bound printer, whether or not they are
running. -/
theorem startTelemetry_of_bound {d : Device} {connection : Nat} (hb : d.binding = some connection)
    {here : Surroundings} (hr : here.runsTasks) (interval : Time.Span) :
    ∃ streamer, d.startTelemetry here interval = .ok { d with streamer := streamer } := by
  unfold startTelemetry
  split
  · next h =>
    rw [h] at hb
    cases hb
  · next bound _ =>
    rcases d.streamer.request_cases here.runsTasks here.now interval bound with
      ⟨-, h⟩ | ⟨-, -, h⟩ | ⟨-, hnot, -⟩
    · exact ⟨_, by rw [h]; rfl⟩
    · exact ⟨_, by rw [h]; rfl⟩
    · rw [hr] at hnot
      cases hnot

/-- Where tasks can be started, it depends on the binding alone whether reports can start. -/
theorem startTelemetry_of_binding {d e : Device} (hid : d.id = e.id) (hb : d.binding = e.binding)
    {here here' : Surroundings} (hr : here.runsTasks) (hr' : here'.runsTasks)
    (interval : Time.Span) :
    (∃ s s', d.startTelemetry here interval = .ok { d with streamer := s } ∧
      e.startTelemetry here' interval = .ok { e with streamer := s' }) ∨
    ∃ error, d.startTelemetry here interval = .error error ∧
      e.startTelemetry here' interval = .error error := by
  rcases Option.eq_none_or_eq_some e.binding with he | ⟨connection, he⟩
  · right
    refine ⟨.notConnected e.id, ?_, ?_⟩ <;> simp only [startTelemetry, hb, he, hid]
  · obtain ⟨s, hs⟩ := startTelemetry_of_bound (hb.trans he) hr interval
    obtain ⟨s', hs'⟩ := startTelemetry_of_bound he hr' interval
    exact .inl ⟨s, s', hs, hs'⟩

theorem perform_alike {d e : Device} (h : d.Alike e) {here : Surroundings} (hr : here.runsTasks)
    (c : Gcode.Command) :
    (d.perform here c).1.Alike (e.perform here c).1 ∧
      (d.perform here c).2 = (e.perform here c).2 := by
  unfold perform
  split
  · next interval =>
    split
    · exact ⟨{ h with }, rfl⟩
    · rcases startTelemetry_of_binding h.id h.binding hr hr interval with
        ⟨s, s', hd, he⟩ | ⟨error, hd, he⟩
      · rw [hd, he]
        exact ⟨{ h with }, rfl⟩
      · rw [hd, he]
        exact ⟨h, rfl⟩
  · rw [h.state]
    split
    · exact ⟨⟨h.id, rfl, h.binding⟩, rfl⟩
    · exact ⟨h, rfl⟩

/-- The reports at an interval make no difference to an answer. -/
theorem execute_alike {d e : Device} (h : d.Alike e) {here : Surroundings} (hr : here.runsTasks)
    (line : List Char) :
    (d.execute here line).1.Alike (e.execute here line).1 ∧
      (d.execute here line).2 = (e.execute here line).2 := by
  unfold execute
  dsimp only
  split
  · exact ⟨h, rfl⟩
  · split
    · exact perform_alike h hr _
    · exact ⟨h, rfl⟩

end VirtualPrinter.Service.Device
