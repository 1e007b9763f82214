import VirtualPrinter.Proofs.Machine.Footprint
import VirtualPrinter.Proofs.Service.Spelling

/-!
# Independent commands

A device changes field by field: a command writes the fields of its footprint, and a field keeps the
value that the last command left that was accepted and had it in its footprint.  Commands of different
subsystems do not meet: none looks at what the other writes, so they may be given in either order.

## Main definitions

* `Device.Settles`: a line is an accepted command that has a field in its footprint.
* `Device.Spares`: no line of a script settles a field.

## Main results

* `perform_frame`: a command leaves the fields outside of its footprint alone.
* `get_converse`: a script leaves a field as its last settling line has left it.
* `perform_comm`: commands of different subsystems commute, with their answers.
* `commands_separate`: all three.
-/

namespace VirtualPrinter.Service.Device

open Gcode (Command)
open Machine (Field Subsystem State)

variable {d e : Device} {here here' : Surroundings} {c c' : Command} {f : Field}

/-! ### One command -/

/-- A command leaves the fields outside of its footprint alone. -/
theorem perform_frame (d : Device) (here : Surroundings) (hf : f ∉ c.footprint) :
    (d.perform here c).1.state.get f = d.state.get f := by
  rcases d.perform_cases here c with ⟨state, answer, h, he⟩ | ⟨streamer, answer, he⟩
  · rw [he]
    exact Machine.execute_frame h hf
  · rw [he]

/-- Other commands than those about reports leave all but the state alone. -/
theorem perform_eq_withState (d : Device) (here : Surroundings)
    (hc : ∀ interval, c ≠ .periodicTelemetry interval) :
    (d.perform here c).1 = { d with state := (d.perform here c).1.state } := by
  rw [perform_of_state hc]
  cases Machine.execute here.time d.state c <;> rfl

theorem perform_perform_eq (hc : ∀ interval, c ≠ .periodicTelemetry interval)
    (hc' : ∀ interval, c' ≠ .periodicTelemetry interval) (d : Device)
    (here here' : Surroundings) : ((d.perform here c).1.perform here' c').1 =
      { d with state := ((d.perform here c).1.perform here' c').1.state } :=
  (perform_eq_withState _ here' hc').trans <|
    congrArg (fun e : Device => { e with state := ((d.perform here c).1.perform here' c').1.state })
      (d.perform_eq_withState here hc)

/-- A command on two devices whose states agree on its subsystem. -/
theorem perform_agreeOn {u : Subsystem} (hc : ∀ interval, c ≠ .periodicTelemetry interval)
    (hu : c.subsystem? = some u) (h : d.state.AgreeOn u e.state) (here : Surroundings) :
    (d.perform here c).1.state.AgreeOn u (e.perform here c).1.state ∧
      (d.perform here c).2 = (e.perform here c).2 := by
  have hagree := Machine.execute_agreeOn hu h here.time
  rw [perform_of_state hc, perform_of_state hc]
  generalize Machine.execute here.time d.state c = x at hagree ⊢
  generalize Machine.execute here.time e.state c = y at hagree ⊢
  cases hagree with
  | done hr => exact hr
  | refused => exact ⟨h, rfl⟩

/-- Reports start and end whatever the state is. -/
theorem startTelemetry_withState (d : Device) (here : Surroundings) (interval : Time.Span)
    (state : State) : ({ d with state := state } : Device).startTelemetry here interval =
      (d.startTelemetry here interval).map fun e => { e with state := state } := by
  unfold startTelemetry
  dsimp only
  cases d.binding with
  | none => rfl
  | some connection =>
    dsimp only
    cases d.streamer.request here.runsTasks here.now interval connection <;> rfl

/-- Commands about reports do not look at the state. -/
theorem perform_telemetry_withState (d : Device) (here : Surroundings) (interval : Time.Span)
    (state : State) :
    ({ d with state := state } : Device).perform here (.periodicTelemetry interval) =
      ({ (d.perform here (.periodicTelemetry interval)).1 with state := state },
        (d.perform here (.periodicTelemetry interval)).2) := by
  simp only [perform, startTelemetry_withState]
  split
  · rfl
  · cases d.startTelemetry here interval <;> rfl

/-! ### Two commands -/

/-- Two commands may be given in either order: they leave the same device, and each answers as it
would alone. -/
structure Commutes (d : Device) (here : Surroundings) (c : Command) (here' : Surroundings)
    (c' : Command) : Prop where
  device : ((d.perform here c).1.perform here' c').1 = ((d.perform here' c').1.perform here c).1
  answer : ((d.perform here' c').1.perform here c).2 = (d.perform here c).2
  answer' : ((d.perform here c).1.perform here' c').2 = (d.perform here' c').2

theorem Commutes.symm (h : d.Commutes here c here' c') : d.Commutes here' c' here c :=
  ⟨h.device.symm, h.answer', h.answer⟩

/-- A command about reports commutes with every other. -/
theorem telemetry_commutes {interval : Time.Span} (hc : ∀ interval, c ≠ .periodicTelemetry interval)
    (d : Device) (here here' : Surroundings) :
    d.Commutes here (.periodicTelemetry interval) here' c := by
  have hstate := d.perform_telemetry_withState here interval
  have hsame : (d.perform here (.periodicTelemetry interval)).1.state = d.state :=
    congrArg (fun r => r.1.state) (hstate d.state)
  have hfirst : (d.perform here (.periodicTelemetry interval)).1.perform here' c =
      ({ (d.perform here (.periodicTelemetry interval)).1 with
          state := (d.perform here' c).1.state }, (d.perform here' c).2) := by
    rw [perform_of_state hc, perform_of_state hc, hsame]
    cases Machine.execute here'.time d.state c <;> simp [← hsame]
  have hlast := hstate (d.perform here' c).1.state
  rw [← d.perform_eq_withState here' hc] at hlast
  exact ⟨by rw [hfirst, hlast], by rw [hlast], by rw [hfirst]⟩

/-- A command leaves the fields of all other subsystems alone. -/
theorem perform_agreeOn_self {u u' : Subsystem} (hc : c.subsystem? = some u) (hne : u ≠ u')
    (d : Device) (here : Surroundings) : (d.perform here c).1.state.AgreeOn u' d.state := by
  intro f hf
  refine d.perform_frame here fun hmem => hne ?_
  exact Option.some.inj (hc.symm.trans ((Machine.subsystem_of_mem_footprint hmem).symm.trans hf))

/-- **Commands of different subsystems commute.** -/
theorem perform_comm {u u' : Subsystem} (hc : c.subsystem? = some u) (hc' : c'.subsystem? = some u')
    (hne : u ≠ u') (d : Device) (here here' : Surroundings) : d.Commutes here c here' c' := by
  by_cases ht : ∃ interval, c = .periodicTelemetry interval
  · obtain ⟨interval, rfl⟩ := ht
    cases hc
    refine telemetry_commutes ?_ d here here'
    rintro interval' rfl
    cases hc'
    exact hne rfl
  by_cases ht' : ∃ interval, c' = .periodicTelemetry interval
  · obtain ⟨interval, rfl⟩ := ht'
    exact (telemetry_commutes (fun i hi => ht ⟨i, hi⟩) d here' here).symm
  have ht : ∀ interval, c ≠ .periodicTelemetry interval := fun i hi => ht ⟨i, hi⟩
  have ht' : ∀ interval, c' ≠ .periodicTelemetry interval := fun i hi => ht' ⟨i, hi⟩
  -- each of them finds the fields of its subsystem as they were before the other
  obtain ⟨hfields, hanswer⟩ :=
    perform_agreeOn ht hc (perform_agreeOn_self hc' hne.symm d here') here
  obtain ⟨hfields', hanswer'⟩ :=
    perform_agreeOn ht' hc' (perform_agreeOn_self hc hne d here) here'
  refine ⟨?_, hanswer, hanswer'⟩
  have hstate : ((d.perform here c).1.perform here' c').1.state =
      ((d.perform here' c').1.perform here c).1.state := by
    refine State.ext_get fun f => ?_
    by_cases hu : f.subsystem? = some u
    · have hout := perform_agreeOn_self hc' hne.symm (d.perform here c).1 here' f hu
      exact hout.trans (hfields f hu).symm
    by_cases hu' : f.subsystem? = some u'
    · have hout := perform_agreeOn_self hc hne (d.perform here' c').1 here f hu'
      exact (hfields' f hu').trans hout.symm
    · -- a field of neither is left alone by both
      have hf : f ∉ c.footprint := fun h => hu ((Machine.subsystem_of_mem_footprint h).trans hc)
      have hf' : f ∉ c'.footprint := fun h => hu' ((Machine.subsystem_of_mem_footprint h).trans hc')
      rw [perform_frame _ _ hf', perform_frame _ _ hf, perform_frame _ _ hf, perform_frame _ _ hf']
  calc ((d.perform here c).1.perform here' c').1
    _ = { d with state := ((d.perform here c).1.perform here' c').1.state } :=
      perform_perform_eq ht ht' d here here'
    _ = { d with state := ((d.perform here' c').1.perform here c).1.state } := by rw [hstate]
    _ = ((d.perform here' c').1.perform here c).1 := (perform_perform_eq ht' ht d here' here).symm

/-- At other times, the devices that they leave differ in dates alone. -/
theorem perform_of_undated (hd : d.undated = e.undated) (hr : here.runsTasks = here'.runsTasks)
    (c : Command) : (d.perform here c).1.undated = (e.perform here' c).1.undated ∧
      (d.perform here c).2 = (e.perform here' c).2 := by
  have hhere : here.undated = here'.undated := by rw [Surroundings.undated, hr]; rfl
  obtain ⟨hdevice, hanswer⟩ := d.perform_undated here c
  obtain ⟨hdevice', hanswer'⟩ := e.perform_undated here' c
  rw [← hdevice, ← hdevice', ← hanswer, ← hanswer', hd, hhere]
  exact ⟨rfl, rfl⟩

/-- Given at any four times, the two commands answer alike in either order, and the devices that
they leave differ in dates alone. -/
theorem Commutes.undated {first first' second second' : Surroundings}
    (h : d.Commutes first c second c') (hr : first.runsTasks = first'.runsTasks)
    (hr' : second.runsTasks = second'.runsTasks) :
    ((d.perform first c).1.perform second c').1.undated =
        ((d.perform second' c').1.perform first' c).1.undated ∧
      (d.perform first c).2 = ((d.perform second' c').1.perform first' c).2 ∧
      ((d.perform first c).1.perform second c').2 = (d.perform second' c').2 := by
  obtain ⟨hdevice, hanswer⟩ := perform_of_undated (d := d) rfl hr' c'
  obtain ⟨hdevice', hanswer'⟩ := perform_of_undated hdevice hr c
  rw [h.device, hdevice', ← h.answer, hanswer', h.answer', hanswer]
  exact ⟨rfl, rfl, rfl⟩

/-! ### Scripts -/

/-- A line is an accepted command that has a field in its footprint. -/
def Settles (d : Device) (here : Surroundings) (line : List Char) (f : Field) : Prop :=
  ∃ c, command? line = some c ∧ d.rejection? here c = none ∧ f ∈ c.footprint

/-- No line of a script settles a field. -/
def Spares (d : Device) : List (Surroundings × List Char) → Field → Prop
  | [], _ => True
  | (here, line) :: rest, f => ¬d.Settles here line f ∧ (d.execute here line).1.Spares rest f

/-- A line that does not settle a field leaves it alone. -/
theorem get_execute {line : List Char} (h : ¬d.Settles here line f) :
    (d.execute here line).1.state.get f = d.state.get f := by
  cases hc : command? line with
  | none => rcases execute_of_noCommand d here hc with he | he <;> rw [he]
  | some c =>
    rw [execute_of_command hc]
    cases hr : d.rejection? here c with
    | some reason => rw [perform_of_rejection hr]
    | none => exact d.perform_frame here fun hf => h ⟨c, hc, hr, hf⟩

/-- A script leaves a field as it was, or as the last line that settles it has left it. -/
theorem get_converse (d : Device) (script : List (Surroundings × List Char)) (f : Field) :
    d.Spares script f ∧ (d.converse script).1.state.get f = d.state.get f ∨
    ∃ before here line after, script = before ++ (here, line) :: after ∧
      (d.converse before).1.Settles here line f ∧
      ((d.converse before).1.execute here line).1.Spares after f ∧
      (d.converse script).1.state.get f =
        ((d.converse before).1.execute here line).1.state.get f := by
  induction script generalizing d with
  | nil => exact .inl ⟨trivial, rfl⟩
  | cons entry rest ih =>
    obtain ⟨here, line⟩ := entry
    rcases ih (d.execute here line).1 with ⟨hspares, hget⟩ | ⟨before, here', line', after, rfl, h⟩
    · by_cases hs : d.Settles here line f
      · exact .inr ⟨[], here, line, rest, rfl, hs, hspares, hget⟩
      · exact .inl ⟨⟨hs, hspares⟩, hget.trans (get_execute hs)⟩
    · exact .inr ⟨(here, line) :: before, here', line', after, rfl, h⟩

/-- **Every command keeps to its own fields.**  It leaves those outside of its footprint alone, and
unless it is about reports all else of the device; so after a script every field has the value that the
last accepted command left that has it in its footprint, or the one from before the script.  Commands
of different subsystems may be given in either order: they leave the same device and have the same
answers, and at other times the devices differ in dates alone. -/
theorem commands_separate (d : Device) :
    (∀ here c, (∀ f, f ∉ c.footprint → (d.perform here c).1.state.get f = d.state.get f) ∧
      ((∀ interval, c ≠ .periodicTelemetry interval) →
        (d.perform here c).1 = { d with state := (d.perform here c).1.state })) ∧
    (∀ script f, d.Spares script f ∧ (d.converse script).1.state.get f = d.state.get f ∨
      ∃ before here line after, script = before ++ (here, line) :: after ∧
        (d.converse before).1.Settles here line f ∧
        ((d.converse before).1.execute here line).1.Spares after f ∧
        (d.converse script).1.state.get f =
          ((d.converse before).1.execute here line).1.state.get f) ∧
    (∀ c c' u u', c.subsystem? = some u → c'.subsystem? = some u' → u ≠ u' →
      (∀ here here', d.Commutes here c here' c') ∧
      ∀ first first' second second' : Surroundings, first.runsTasks = first'.runsTasks →
        second.runsTasks = second'.runsTasks →
        ((d.perform first c).1.perform second c').1.undated =
            ((d.perform second' c').1.perform first' c).1.undated ∧
          (d.perform first c).2 = ((d.perform second' c').1.perform first' c).2 ∧
          ((d.perform first c).1.perform second c').2 = (d.perform second' c').2) := by
  refine ⟨fun here c => ⟨fun f hf => d.perform_frame here hf, d.perform_eq_withState here⟩,
    d.get_converse, fun c c' u u' hc hc' hne => ⟨d.perform_comm hc hc' hne, ?_⟩⟩
  intro first first' second second' hr hr'
  exact (d.perform_comm hc hc' hne first second).undated hr hr'

/-- A motor beside the one that is turned off, and a bed that is heated during a move in inches. -/
theorem commands_separate_heating :
    let here : Surroundings := ⟨⟨0, 0⟩, .zero, true⟩
    let later : Surroundings := ⟨⟨60, 0⟩, .ofSeconds 60, true⟩
    let d := (standard.execute here "G20".toList).1
    let heat := Command.waitBedTemp (some 60)
    let move := Command.moveLinear (some 5) none none (some 1200)
    .motor 0 ∉ (Command.motorDisable ⟨2⟩).footprint ∧
      (d.perform here (.motorDisable ⟨2⟩)).1.state.get (.motor 0) = d.state.get (.motor 0) ∧
      (d.perform here heat).1 = { d with state := (d.perform here heat).1.state } ∧
      d.Commutes here heat later move ∧
      ((d.perform here heat).1.perform later move).1.undated =
        ((d.perform here move).1.perform later heat).1.undated := by
  intro here later d heat move
  obtain ⟨hframe, -, hcomm⟩ := commands_separate d
  have hmotor : .motor 0 ∉ (Command.motorDisable ⟨2⟩).footprint := by decide
  obtain ⟨hboth, hdated⟩ := hcomm heat move .bed .motion rfl rfl nofun
  exact ⟨hmotor, (hframe here _).1 _ hmotor, (hframe here heat).2 nofun, hboth here later,
    (hdated here later later here rfl rfl).1⟩

end VirtualPrinter.Service.Device
