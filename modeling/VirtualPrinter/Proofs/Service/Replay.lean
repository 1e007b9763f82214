import VirtualPrinter.Proofs.Machine.Report
import VirtualPrinter.Proofs.Service.Blueprint
import VirtualPrinter.Proofs.Service.Registration
import VirtualPrinter.Proofs.Service.Spelling

/-!
# The report of settings, read back

A printer may be told its own report, line by line.  Whatever instructions it has had before, none of
the lines is refused, and the modes stay as they are.  So do the motors, unless none that has a letter
is enabled: the report then names none, which means all of them.

## Main results

* `settingsFit_of_built`: a new printer has its settings in their ranges.
* `settingsFit_of_mem_course`: settings stay in their ranges along every script.
* `report_replays`: what a report does that is read back.
-/

namespace VirtualPrinter.Service.Device

open Gcode (Command)
open Machine (Echoes Entry Extruder Heatbed Magnitude Motors State auxMax bedMax fanMax hotendMax modes
  motorsLine refusalMark settingsFit_iff within)
open Outcome (bind_eq_ok_iff map_eq_ok_iff)

variable {d e : Device} {here : Surroundings} {line : List Char} {s : State}

/-! ### Settings in their ranges -/

/-- A printer is built with its heaters off, its fan at rest and no magnitude set. -/
theorem settingsFit_build {b : Blueprint} {extruder : Extruder} {heatbed : Heatbed}
    (h : b.build = .ok d) (hextruder : b.extruder = some extruder) (hheatbed : b.heatbed = some heatbed)
    (hhotend : extruder.targetTemperature = 0) (hfan : extruder.fanSpeed = 0)
    (hbed : heatbed.targetTemperature = 0) : d.state.SettingsFit := by
  obtain ⟨extruder', heatbed', attributes, data, he, hb, rfl⟩ := Blueprint.state_of_build h
  obtain rfl := Option.some.inj (hextruder.symm.trans he)
  obtain rfl := Option.some.inj (hheatbed.symm.trans hb)
  refine settingsFit_iff.mpr ⟨?_, ?_, ?_, ?_, ?_, ?_⟩
  · change within 0 hotendMax extruder.targetTemperature
    rw [hhotend]
    decide +kernel
  · change within 0 bedMax heatbed.targetTemperature
    rw [hbed]
    decide +kernel
  · change within 0 auxMax 0
    decide +kernel
  · change within 0 fanMax extruder.fanSpeed
    rw [hfan]
    decide +kernel
  · change Magnitude 0
    decide +kernel
  · change Magnitude 0
    decide +kernel

/-- Neither the temperature of a bed nor a home position is a setting. -/
theorem withStartTemperature_settingsFit {entry : Entry} {t : State} (hs : s.SettingsFit)
    (h : withStartTemperature entry s = .ok t) : t.SettingsFit := by
  unfold withStartTemperature at h
  split at h
  · obtain ⟨_, -, rfl⟩ := map_eq_ok_iff.mp h
    exact settingsFit_iff.mpr ((settingsFit_iff (s := s)).mp hs)
  · cases h
    exact hs

theorem withHome_settingsFit {entry : Entry} {t : State} (hs : s.SettingsFit)
    (h : withHome entry s = .ok t) : t.SettingsFit := by
  unfold withHome at h
  split at h
  · obtain ⟨_, -, rfl⟩ := map_eq_ok_iff.mp h
    exact settingsFit_iff.mpr ((settingsFit_iff (s := s)).mp hs)
  · cases h
    exact hs

theorem settingsFit_ofEntry {entry : Entry} {createdAt : Time.Timestamp}
    (h : ofEntry entry createdAt = .ok d) : d.state.SettingsFit := by
  unfold ofEntry at h
  split at h
  · cases h
  · obtain ⟨d', hbuild, h⟩ := bind_eq_ok_iff.mp h
    obtain ⟨t, hstate, h⟩ := bind_eq_ok_iff.mp h
    cases h
    have hhead : (extruderOf entry).targetTemperature = 0 ∧ (extruderOf entry).fanSpeed = 0 := by
      unfold extruderOf
      split <;> exact ⟨rfl, rfl⟩
    have hbed : (heatbedOf entry).targetTemperature = 0 := by
      unfold heatbedOf
      split <;> rfl
    have hbuilt := settingsFit_build hbuild rfl rfl hhead.1 hhead.2 hbed
    cases hset : (withStartTemperature entry d'.state).bind (withHome entry) with
    | error r => rw [hset] at hstate; cases hstate
    | ok t' =>
      rw [hset] at hstate
      cases hstate
      obtain ⟨u, hu, ht⟩ := bind_eq_ok_iff.mp hset
      exact withHome_settingsFit (withStartTemperature_settingsFit hbuilt hu) ht

/-- **A new printer has its settings in their ranges.** -/
theorem settingsFit_of_built (h : d.Built) : d.state.SettingsFit := by
  cases h with
  | ofRegistry _ _ built => exact settingsFit_ofEntry built
  | standard built => exact settingsFit_build built rfl rfl rfl rfl rfl

theorem execute_settingsFit (d : Device) (here : Surroundings) (line : List Char)
    (h : d.state.SettingsFit) : (d.execute here line).1.state.SettingsFit :=
  execute_state h (fun hc => Machine.execute_settingsFit hc h) here line

/-- **Settings stay in their ranges along every script.** -/
theorem settingsFit_of_mem_course {script : List (Surroundings × List Char)}
    (he : e ∈ d.course script) (h : d.state.SettingsFit) : e.state.SettingsFit :=
  rel_of_mem_course (R := fun s t => s.SettingsFit → t.SettingsFit) (fun _ h => h)
    (fun hst htu h => htu (hst h)) execute_settingsFit he h

/-! ### Lines of a report -/

/-- A line of a report is not refused, and leaves modes that are as they are told, and motors. -/
theorem execute_echoes (d : Device) (here : Surroundings) (h : Echoes s line) :
    (∀ f ∈ modes, d.state.get f = s.get f → (d.execute here line).1.state.get f = s.get f) ∧
      (d.execute here line).1.state.enabledMotors = d.state.enabledMotors ∧
      ¬refusalMark <+: (d.execute here line).2.toList := by
  cases hc : command? line with
  | none =>
    have hempty : ¬refusalMark <+: "".toList := by decide
    have hunknown : ¬refusalMark <+: Machine.unknownCommand.toList := by decide
    rcases execute_of_noCommand d here hc with he | he
    · rw [he]
      exact ⟨fun _ _ h => h, rfl, hempty⟩
    · rw [he]
      exact ⟨fun _ _ h => h, rfl, hunknown⟩
  | some c =>
    have hrestores := h c hc
    obtain ⟨t, answer, hx⟩ := hrestores.accepted here.time d.state
    obtain ⟨hmodes, hmotors⟩ := hrestores.execute hx
    have hstate : ∀ interval, c ≠ .periodicTelemetry interval := by
      cases hrestores <;> exact nofun
    rw [execute_of_command hc, perform_of_state hstate, hx]
    exact ⟨hmodes, hmotors, (Machine.execute_acknowledges hx).not_refusal⟩

/-- Nor are several of them. -/
theorem converse_echoes (d : Device) {script : List (Surroundings × List Char)}
    (h : ∀ entry ∈ script, Echoes s entry.2) :
    (∀ f ∈ modes, d.state.get f = s.get f → (d.converse script).1.state.get f = s.get f) ∧
      (d.converse script).1.state.enabledMotors = d.state.enabledMotors ∧
      ∀ answer ∈ (d.converse script).2, ¬refusalMark <+: answer.toList := by
  induction script generalizing d with
  | nil => exact ⟨fun _ _ h => h, rfl, nofun⟩
  | cons entry script ih =>
    rw [List.forall_mem_cons] at h
    obtain ⟨hmodes, hmotors, hanswer⟩ := d.execute_echoes entry.1 h.1
    obtain ⟨hmodes', hmotors', hanswers⟩ := ih (d.execute entry.1 entry.2).1 h.2
    exact ⟨fun f hf => hmodes' f hf ∘ hmodes f hf, hmotors'.trans hmotors,
      List.forall_mem_cons.mpr ⟨hanswer, hanswers⟩⟩

/-- The line about motors enables those that it tells, and nothing else. -/
theorem execute_motorsLine (d : Device) (here : Surroundings) (m : Motors) :
    (∀ f ∈ modes, (d.execute here (motorsLine m)).1.state.get f = d.state.get f) ∧
      (d.execute here (motorsLine m)).1.state.enabledMotors = d.state.enabledMotors.union m.told ∧
      ¬refusalMark <+: (d.execute here (motorsLine m)).2.toList := by
  have hc : command? (motorsLine m) = some (.motorEnable m.told) := Machine.parse?_motorsLine m
  have hx : Machine.execute here.time d.state (.motorEnable m.told) =
      .ok (d.state.enableMotors m.told, "Motors " ++ m.told.text ++ " enabled\n") := rfl
  rw [execute_of_command hc, perform_of_state (fun _ => Command.noConfusion), hx]
  refine ⟨?_, rfl, (Machine.execute_acknowledges hx).not_refusal⟩
  simp only [modes, List.forall_mem_cons]
  exact ⟨rfl, rfl, rfl, rfl, nofun⟩

/-! ### Reports -/

/-- A report changes nothing. -/
theorem execute_reportSettings (d : Device) (here : Surroundings)
    (h : command? line = some .reportSettings) :
    d.execute here line = (d, Machine.report d.state) := by
  rw [execute_of_command h]
  rfl

/-- **A report that is read back changes no mode.**  The printer may have had any instructions before,
if its names hold no line feed and its settings were in their ranges at first, as those of every new
printer are.  No line of the report is refused; units and both ways to understand words stay, and so does
the permission to extrude cold; and the enabled motors stay if one of them has a letter.  Without one the
report names no motor, which enables all that have letters. -/
theorem report_replays (d : Device) (hfit : d.state.SettingsFit)
    (hname : '\n' ∉ d.state.info.name.toList) (hmodel : '\n' ∉ d.state.info.device.toList)
    (script : List (Surroundings × List Char)) :
    ∀ e ∈ d.course script, ∀ here line replay, command? line = some .reportSettings →
      replay.map Prod.snd = Text.lines (e.execute here line).2.toList →
        let after := (e.execute here line).1.converse replay
        after.1.state.units = e.state.units ∧ after.1.state.positioning = e.state.positioning ∧
          after.1.state.extruder.positioning = e.state.extruder.positioning ∧
          after.1.state.coldExtrusion = e.state.coldExtrusion ∧
          after.1.state.enabledMotors = (if e.state.enabledMotors.letters = [] then
            e.state.enabledMotors.union .all else e.state.enabledMotors) ∧
          ∀ answer ∈ after.2, ¬refusalMark <+: answer.toList := by
  intro e he here line replay hline hreplay after
  have hfit := settingsFit_of_mem_course he hfit
  have hinfo := (sameProperties_of_mem_course he).info
  rw [← hinfo] at hname hmodel
  rw [execute_reportSettings e here hline] at hreplay
  obtain ⟨before, later, hlines, hbefore, hlater⟩ := Machine.exists_reportLines hfit
  rw [Machine.lines_report hfit hname hmodel, hlines] at hreplay
  -- what is read back: modes and numbers, the motors, and the acknowledgement
  obtain ⟨first, rest, rfl, rfl, hrest⟩ := List.map_eq_append_iff.mp hreplay
  obtain ⟨⟨now, motors⟩, last, rfl, hmotors, rfl⟩ := List.map_eq_cons_iff.mp hrest
  obtain rfl : motors = motorsLine e.state.enabledMotors := hmotors
  have hfirst : ∀ entry ∈ first, Echoes e.state entry.2 := fun entry h =>
    hbefore _ (List.mem_map_of_mem h)
  have hlast : ∀ entry ∈ last, Echoes e.state entry.2 := fun entry h =>
    hlater _ (List.mem_map_of_mem h)
  obtain ⟨hmodes, hmotors, hanswers⟩ := e.converse_echoes hfirst
  obtain ⟨hkeep, henable, hanswer⟩ :=
    (e.converse first).1.execute_motorsLine now e.state.enabledMotors
  obtain ⟨hmodes', hmotors', hanswers'⟩ :=
    ((e.converse first).1.execute now (motorsLine e.state.enabledMotors)).1.converse_echoes hlast
  have hafter : after = e.converse (first ++ (now, motorsLine e.state.enabledMotors) :: last) := by
    change (e.execute here line).1.converse _ = _
    rw [execute_reportSettings e here hline]
  rw [converse_append] at hafter
  have hmode : ∀ f ∈ modes, after.1.state.get f = e.state.get f := by
    intro f hf
    rw [hafter]
    exact hmodes' f hf ((hkeep f hf).trans (hmodes f hf rfl))
  have hset : after.1.state.enabledMotors = e.state.enabledMotors.union e.state.enabledMotors.told := by
    rw [hafter]
    exact hmotors'.trans (henable.trans (congrArg (Motors.union · _) hmotors))
  refine ⟨hmode .units ?_, hmode .positioning ?_, hmode .extruderPositioning ?_,
    hmode .coldExtrusion ?_, hset.trans (Motors.union_told _), ?_⟩
  · decide
  · decide
  · decide
  · decide
  · rw [hafter]
    exact List.forall_mem_append.mpr ⟨hanswers, List.forall_mem_cons.mpr ⟨hanswer, hanswers'⟩⟩

/-- A printer in inches that moves by steps, with a motor off and a heater on: the report of all that is
read back a minute later. -/
theorem report_replays_inches :
    let here : Surroundings := ⟨⟨0, 0⟩, .zero, true⟩
    let later : Surroundings := ⟨⟨60, 0⟩, .zero, true⟩
    ∃ e ∈ standard.course [(here, "G20".toList), (here, "G91".toList), (here, "M302 P1".toList),
        (here, "M18 E".toList), (here, "M104 S210.5".toList)],
      let replay := (Text.lines (e.execute later "M503".toList).2.toList).map fun line => (later, line)
      let after := (e.execute later "M503".toList).1.converse replay
      replay.length = 13 ∧ e.state.enabledMotors.letters = ["X", "Y", "Z"] ∧
        after.1.state.units = .inches ∧ after.1.state.positioning = .relative ∧
        after.1.state.extruder.positioning = .absolute ∧ after.1.state.coldExtrusion = true ∧
        after.1.state.enabledMotors = e.state.enabledMotors ∧
        ∀ answer ∈ after.2, ¬refusalMark <+: answer.toList := by
  intro here later
  let script : List (Surroundings × List Char) := [(here, "G20".toList), (here, "G91".toList),
    (here, "M302 P1".toList), (here, "M18 E".toList), (here, "M104 S210.5".toList)]
  obtain ⟨e, he, hcheck⟩ : ∃ e, (standard.course script).getLast? = some e ∧
      (Text.lines (e.execute later "M503".toList).2.toList).length = 13 ∧
      e.state.enabledMotors.letters = ["X", "Y", "Z"] ∧ e.state.units = .inches ∧
      e.state.positioning = .relative ∧ e.state.extruder.positioning = .absolute ∧
      e.state.coldExtrusion = true :=
    ⟨_, rfl, by decide +kernel⟩
  obtain ⟨hlength, hletters, hunits, hpositioning, hextruder, hcold⟩ := hcheck
  have hmem : e ∈ standard.course script := List.mem_of_getLast? he
  have hbuilt : standard.Built := @Built.standard _ (.new 1 "Prusa MK4" "Printer1" ⟨1704164645, 0⟩) rfl
  obtain ⟨hunits', hpositioning', hextruder', hcold', hmotors', hanswers⟩ :=
    report_replays standard (settingsFit_of_built hbuilt) (by decide) (by decide) script e hmem later
      "M503".toList ((Text.lines (e.execute later "M503".toList).2.toList).map fun line => (later, line))
      rfl (by simp [Function.comp_def])
  rw [hletters, if_neg (List.cons_ne_nil _ _)] at hmotors'
  exact ⟨e, hmem, (List.length_map _).trans hlength, hletters, hunits'.trans hunits,
    hpositioning'.trans hpositioning, hextruder'.trans hextruder, hcold'.trans hcold, hmotors', hanswers⟩

/-- **A report need not tell which motors are enabled**: a printer whose motors have all been disabled
enables them all when it reads its report. -/
theorem report_enables_motors :
    let here : Surroundings := ⟨⟨0, 0⟩, .zero, true⟩
    standard.Built ∧ '\n' ∉ standard.state.info.name.toList ∧
      '\n' ∉ standard.state.info.device.toList ∧
      ∃ e ∈ standard.course [(here, "M18".toList)], ∃ line, command? line = some .reportSettings ∧
        ∃ replay, replay.map Prod.snd = Text.lines (e.execute here line).2.toList ∧
          e.state.enabledMotors = .none ∧
          ((e.execute here line).1.converse replay).1.state.enabledMotors = .all := by
  intro here
  let off := (standard.execute here "M18".toList).1
  have hmem : off ∈ standard.course [(here, "M18".toList)] := List.mem_cons_of_mem _ List.mem_cons_self
  let replay := (Text.lines (off.execute here "M503".toList).2.toList).map fun line => (here, line)
  exact ⟨@Built.standard _ (.new 1 "Prusa MK4" "Printer1" ⟨1704164645, 0⟩) rfl, by decide, by decide,
    off, hmem, "M503".toList, rfl, replay, by simp [replay, Function.comp_def], by decide +kernel,
    by decide +kernel⟩

end VirtualPrinter.Service.Device
