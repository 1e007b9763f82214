import VirtualPrinter.Proofs.Machine.Heating
import VirtualPrinter.Proofs.Service.Spelling

/-!
# Waiting for a heater

A peer that waits for a heater polls it by the same line until it is told so.  Each answer tells
exactly whether the heater is below its target, and while nothing is measured every poll answers the
same and changes nothing.  In between temperatures are measured, and other lines may come.  Through
all of that the bed stops heating only at a poll that is acknowledged, so that a bed that does not
heat is not below its target as long as it has not cooled down.

## Main definitions

* `Service.Happening`, `Device.meet`: a line, or a temperature that is measured.
* `Device.NeverCooled`: no measurement of a run finds the bed colder than before.

## Main results

* `execute_wait`, `converse_again`: a poll is a command of the state, and can be repeated.
* `bedRests_of_isPrefix`: along every run a bed that does not heat is not below its target.
* `stops_heating`: what ends the heating.
* `waits_for_heaters`: all of that.
-/

namespace VirtualPrinter.Service

open Machine (Heater State heatingText okay refusalMark)

/-- What happens to a printer: an instruction line, or a temperature that is measured. -/
inductive Happening where
  | line (here : Surroundings) (text : List Char)
  | measured (heater : Heater) (temperature : Float)

namespace Device

variable {d : Device} {here : Surroundings} {line : List Char}

/-! ### Polls -/

/-- A poll concerns the state alone. -/
theorem execute_of_wait {h : Heater} {target : Option Float}
    (hc : command? line = some (h.wait target)) (here : Surroundings) :
    d.execute here line = match Machine.execute here.time d.state (h.wait target) with
      | .ok (state, answer) => ({ d with state := state }, answer)
      | .error e => (d, refusal e.message) := by
  have hstate (interval : Time.Span) : h.wait target ≠ .periodicTelemetry interval := by
    cases h <;> nofun
  exact (execute_of_command hc).trans (perform_of_state hstate)

/-- What a poll that is not refused has done. -/
theorem execute_wait {h : Heater} {target : Option Float}
    (hc : command? line = some (h.wait target))
    (ha : ¬refusalMark <+: (d.execute here line).2.toList) :
    ∃ u answer, Machine.execute here.time d.state (h.wait target) = .ok (u, answer) ∧
      d.execute here line = ({ d with state := u }, answer) := by
  rw [execute_of_wait hc] at ha ⊢
  cases he : Machine.execute here.time d.state (h.wait target) with
  | ok r => exact ⟨r.1, r.2, rfl, rfl⟩
  | error e =>
    rw [he] at ha
    exact absurd (refusal_startsWith_mark _) ha

/-- A line that leaves the device as it is can be repeated. -/
theorem converse_again {answer : String} (h : ∀ here, d.execute here line = (d, answer))
    (places : List Surroundings) :
    d.converse (places.map (·, line)) = (d, places.map fun _ => answer) := by
  induction places with
  | nil => rfl
  | cons place places ih => simp only [List.map_cons, converse, h, ih]

/-! ### Runs -/

/-- The device after a happening; a temperature that is refused changes nothing. -/
def meet (d : Device) : Happening → Device
  | .line here text => (d.execute here text).1
  | .measured heater x => match heater.measure d.state x with
    | .ok s => { d with state := s }
    | .error _ => d

theorem meet_measured_cases (d : Device) (heater : Heater) (x : Float) :
    (∃ s, heater.measure d.state x = .ok s ∧
      d.meet (.measured heater x) = { d with state := s }) ∨ d.meet (.measured heater x) = d := by
  simp only [meet]
  cases heater.measure d.state x with
  | ok s => exact .inl ⟨s, rfl, rfl⟩
  | error => exact .inr rfl

/-- The device after a run. -/
def meetAll (d : Device) (run : List Happening) : Device := run.foldl meet d

/-- A happening does not find the bed colder than before; a temperature that is refused does not
count. -/
def NotCooledBy (d : Device) (happening : Happening) : Prop :=
  ∀ x s, happening = .measured .bed x → Heater.bed.measure d.state x = .ok s →
    d.state.heatbed.temperature ≤ s.heatbed.temperature

/-- No measurement of a run finds the bed colder than before. -/
def NeverCooled (d : Device) : List Happening → Prop
  | [] => True
  | happening :: rest => d.NotCooledBy happening ∧ (d.meet happening).NeverCooled rest

theorem execute_bedRests (h : d.state.BedRests) (here : Surroundings) (line : List Char) :
    (d.execute here line).1.state.BedRests :=
  execute_state h (fun hc => h.execute hc) here line

/-- What a happening keeps. -/
theorem meet_bedRests {happening : Happening} (h : d.state.BedRests)
    (hx : d.NotCooledBy happening) : (d.meet happening).state.BedRests := by
  cases happening with
  | line here text => exact execute_bedRests h here text
  | measured heater x =>
    rcases d.meet_measured_cases heater x with ⟨s, hm, he⟩ | he
    · rw [he]
      refine h.measure hm fun hbed => ?_
      subst hbed
      exact hx x s rfl hm
    · rw [he]
      exact h

/-- **Along every run a bed that does not heat is not below its target**, if it is never cooled. -/
theorem bedRests_of_isPrefix {before run : List Happening} (h : d.state.BedRests)
    (hr : d.NeverCooled run) (hb : before <+: run) : (d.meetAll before).state.BedRests := by
  induction before generalizing d run with
  | nil => exact h
  | cons happening before ih =>
    obtain ⟨rest, rfl⟩ := hb
    exact ih (meet_bedRests h hr.1) hr.2 (List.prefix_append before rest)

/-- What ends the heating of the bed: a poll of it that is acknowledged. -/
theorem stops_heating {happening : Happening} (hon : d.state.heatbed.heating = true)
    (hoff : (d.meet happening).state.heatbed.heating = false) :
    ∃ here text target, happening = .line here text ∧
      command? text = some (.waitBedTemp target) ∧ (d.execute here text).2 = okay := by
  cases happening with
  | line here text =>
    change (d.execute here text).1.state.heatbed.heating = false at hoff
    cases hc : command? text with
    | none =>
      exfalso
      rcases execute_of_noCommand d here hc with he | he <;>
      · rw [he] at hoff
        cases hon.symm.trans hoff
    | some c =>
      have hline : d.execute here text = d.perform here c := execute_of_command hc
      rw [hline] at hoff
      rcases d.perform_cases here c with ⟨state, answer, hs, he⟩ | ⟨streamer, answer, he⟩
      · rw [he] at hoff hline
        cases Machine.execute_bed hs with
        | stays _ hheating => cases hon.symm.trans (hheating.symm.trans hoff)
        | heats hheating => cases hheating.symm.trans hoff
        | @rests target hcommand hanswer =>
          refine ⟨here, text, target, rfl, hcommand ▸ hc, ?_⟩
          rw [hline]
          exact hanswer
      · rw [he] at hoff
        cases hon.symm.trans hoff
  | measured heater x =>
    exfalso
    rcases d.meet_measured_cases heater x with ⟨s, hm, he⟩ | he
    · rw [he] at hoff
      cases hon.symm.trans ((Heater.heating_measure hm).symm.trans hoff)
    · rw [he] at hoff
      cases hon.symm.trans hoff

/-- **Waiting for a heater.**  A poll that is not refused sets the target that it tells, if it tells
one, and answers with the progress exactly if the heater is below its target, and with the plain
acknowledgement otherwise; repeated at any times, it has the same answer each time and the device
stays as it is.  Along every run of lines and of measurements that do not find the bed colder than
before, a bed that does not heat is not below its target, if that holds at first.  It stops heating
at an acknowledged poll and at nothing else. -/
theorem waits_for_heaters (d : Device) :
    (∀ (h : Heater) here line target, command? line = some (h.wait target) →
      ¬refusalMark <+: (d.execute here line).2.toList →
      let e := (d.execute here line).1
      let answer := (d.execute here line).2
      h.target e.state = target.getD (h.target d.state) ∧
      h.temperature e.state = h.temperature d.state ∧
      (answer = heatingText h.label (h.temperature d.state) (h.target e.state) ↔
        h.temperature d.state < h.target e.state) ∧
      (answer = okay ↔ ¬h.temperature d.state < h.target e.state) ∧
      ∀ places : List Surroundings,
        e.converse (places.map (·, line)) = (e, places.map fun _ => answer)) ∧
    (d.state.BedRests → ∀ run, d.NeverCooled run → ∀ before, before <+: run →
      (d.meetAll before).state.BedRests) ∧
    ∀ before happening, (d.meetAll before).state.heatbed.heating = true →
      ((d.meetAll before).meet happening).state.heatbed.heating = false →
      ∃ here text target, happening = .line here text ∧
        command? text = some (.waitBedTemp target) ∧
        ((d.meetAll before).execute here text).2 = okay := by
  refine ⟨fun h here line target hc ha => ?_, fun h run hr before => bedRests_of_isPrefix h hr,
    fun before happening => stops_heating⟩
  obtain ⟨u, answer, hu, he⟩ := execute_wait hc ha
  obtain ⟨htarget, htemperature, hbelow, hokay⟩ := Heater.wait_tells hu
  have hagain : ∀ here', Device.execute { d with state := u } here' line =
      ({ d with state := u }, answer) := fun here' => by
    rw [execute_of_wait hc, Heater.wait_again hu]
  rw [he]
  exact ⟨htarget, htemperature, hbelow, hokay, converse_again hagain⟩

/-- A new printer whose bed is to reach 60 degrees: it is polled, measured twice, the second time in
vain, and polled again. -/
theorem waits_for_heaters_bed :
    let here : Surroundings := ⟨⟨0, 0⟩, .zero, true⟩
    let later : Surroundings := ⟨⟨60, 0⟩, .ofSeconds 60, true⟩
    let line := "M190 S60".toList
    let polled := (standard.execute here line).1
    let run : List Happening :=
      [.line here line, .measured .bed 60.5, .measured .bed 500, .line later "M190".toList]
    ((standard.execute here line).2 = heatingText "B" 20 60 ∧
      polled.converse [(later, line), (later, line)] =
        (polled, [(standard.execute here line).2, (standard.execute here line).2])) ∧
    (standard.state.BedRests ∧ standard.NeverCooled run ∧ (standard.meetAll run).state.BedRests) ∧
    (standard.meetAll (run.take 3)).state.heatbed.heating = true ∧
      (standard.meetAll run).state.heatbed.heating = false ∧
      ∃ target, command? "M190".toList = some (.waitBedTemp target) ∧
        ((standard.meetAll (run.take 3)).execute later "M190".toList).2 = okay := by
  intro here later line polled run
  obtain ⟨hpolls, hrests, hstops⟩ := waits_for_heaters standard
  obtain ⟨hline, haccepted, hcold, hon, hoff⟩ : command? line = some (Heater.bed.wait (some 60)) ∧
      ¬refusalMark <+: (standard.execute here line).2.toList ∧
      Heater.bed.temperature standard.state < Heater.bed.target polled.state ∧
      (standard.meetAll (run.take 3)).state.heatbed.heating = true ∧
      (standard.meetAll run).state.heatbed.heating = false := by
    decide +kernel
  obtain ⟨-, -, hbelow, -, hagain⟩ := hpolls .bed here line (some 60) hline haccepted
  have hrest : standard.state.BedRests := fun _ => by decide +kernel
  have hcooled : standard.NeverCooled run := by
    simp only [run, NeverCooled, NotCooledBy, and_true, reduceCtorEq, IsEmpty.forall_iff,
      implies_true, true_and, Happening.measured.injEq]
    refine ⟨?_, ?_⟩
    · rintro x s ⟨-, rfl⟩ hs
      obtain ⟨-, rfl⟩ := Heater.measure_eq_ok_iff.mp hs
      decide +kernel
    · rintro x s ⟨-, rfl⟩ hs
      -- no bed is measured at 500 degrees
      exact absurd (Heater.measure_eq_ok_iff.mp hs).1 (by decide +kernel)
  obtain ⟨_, _, target, heq, hcommand, hokay⟩ :=
    hstops (run.take 3) (.line later "M190".toList) hon hoff
  cases heq
  refine ⟨⟨hbelow.mpr hcold, hagain [later, later]⟩,
    ⟨hrest, hcooled, hrests hrest run hcooled run (List.prefix_refl run)⟩, hon, hoff, target,
    hcommand, hokay⟩

end Device

end VirtualPrinter.Service
