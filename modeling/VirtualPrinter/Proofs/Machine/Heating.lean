import VirtualPrinter.Proofs.Machine.Answers
import VirtualPrinter.Proofs.Machine.Bounds
import VirtualPrinter.Proofs.Machine.Footprint
import VirtualPrinter.Proofs.Number.Order

/-!
# Heaters

The hotend and the bed are polled by commands of one kind: a poll may set the target first, and then
tells whether the heater is below its target.  Polled again in the same way it tells the same, since
nothing is simulated.  Only the bed notes that it is heating: from a target that is set until a poll
finds that it is not below its target.  A bed that does not heat is therefore not below its target,
as long as nothing else cools it.

## Main definitions

* `Machine.Heater`, with its temperature, its target and its poll.
* `State.BedRests`: a bed that does not heat is not below its target.

## Main results

* `execute_wait`: what a command that polls a heater does.
* `wait_tells`, `wait_again`: what it answers, and that it answers the same again.
* `execute_bed`: what a command can do to the bed.
* `BedRests.execute`, `BedRests.measure`: a resting bed stays at its target.
-/

namespace VirtualPrinter.Machine

open Gcode (Command)
open Outcome (bind_eq_ok_iff map_eq_ok_iff)

/-! ### Polls -/

/-- The heaters that have a poll. -/
inductive Heater where
  | hotend
  | bed
deriving DecidableEq

namespace Heater

/-- The measured temperature. -/
def temperature : Heater → State → Float
  | .hotend, s => s.extruder.temperature
  | .bed, s => s.heatbed.temperature

/-- The target. -/
def target : Heater → State → Float
  | .hotend, s => s.extruder.targetTemperature
  | .bed, s => s.heatbed.targetTemperature

/-- What an answer calls the heater. -/
def label : Heater → String
  | .hotend => "T"
  | .bed => "B"

/-- The greatest temperature. -/
def max : Heater → Float
  | .hotend => hotendMax
  | .bed => bedMax

/-- Sets the target. -/
def setTarget : Heater → State → Float → Except Refusal State
  | .hotend => State.setHotendTarget
  | .bed => State.setBedTarget

/-- Sets the measured temperature. -/
def measure : Heater → State → Float → Except Refusal State
  | .hotend => State.setHotendTemperature
  | .bed => State.setBedTemperature

/-- The command that polls the heater, and may set a target first. -/
def wait : Heater → Option Float → Command
  | .hotend => .waitHotendTemp
  | .bed => .waitBedTemp

/-- The state with a target. -/
def aim : Heater → State → Float → State
  | .hotend, s, x => { s with extruder := { s.extruder with targetTemperature := x } }
  | .bed, s, x => { s with heatbed := { s.heatbed with targetTemperature := x, heating := true } }

/-- The state with a temperature that has been measured. -/
def measured : Heater → State → Float → State
  | .hotend, s, x => { s with extruder := { s.extruder with temperature := x } }
  | .bed, s, x => { s with heatbed := { s.heatbed with temperature := x } }

/-- The state after a poll that did not find the heater below its target. -/
def rest : Heater → State → State
  | .hotend, s => s
  | .bed, s => s.setBedHeating false

/-- What a poll does and tells, once the target is set. -/
def poll (h : Heater) (s : State) : State × String :=
  if h.temperature s < h.target s then (s, heatingText h.label (h.temperature s) (h.target s))
  else (h.rest s, okay)

variable {h : Heater} {s t u : State} {target : Option Float} {now now' : Time.Timestamp}
  {answer : String}

@[simp] theorem temperature_aim (h : Heater) (s : State) (x : Float) :
    h.temperature (h.aim s x) = h.temperature s := by cases h <;> rfl

@[simp] theorem target_aim (h : Heater) (s : State) (x : Float) : h.target (h.aim s x) = x := by
  cases h <;> rfl

@[simp] theorem temperature_rest (h : Heater) (s : State) :
    h.temperature (h.rest s) = h.temperature s := by cases h <;> rfl

@[simp] theorem target_rest (h : Heater) (s : State) : h.target (h.rest s) = h.target s := by
  cases h <;> rfl

@[simp] theorem aim_aim (h : Heater) (s : State) (x y : Float) :
    h.aim (h.aim s x) y = h.aim s y := by
  cases h <;> rfl

@[simp] theorem aim_rest (h : Heater) (s : State) (x : Float) : h.aim (h.rest s) x = h.aim s x := by
  cases h <;> rfl

@[simp] theorem rest_rest (h : Heater) (s : State) : h.rest (h.rest s) = h.rest s := by
  cases h <;> rfl

/-- A target is set if it is in its range. -/
theorem setTarget_eq_ok_iff {x : Float} :
    h.setTarget s x = .ok t ↔ within 0 h.max x ∧ h.aim s x = t := by
  cases h <;> exact map_eq_ok_iff.trans (by simp [State.checkRange_eq_ok_iff, max, aim])

/-- So is a measured temperature. -/
theorem measure_eq_ok_iff {x : Float} :
    h.measure s x = .ok t ↔ within 0 h.max x ∧ h.measured s x = t := by
  cases h <;> exact map_eq_ok_iff.trans (by simp [State.checkRange_eq_ok_iff, max, measured])

/-- A target that may be left out. -/
theorem withTarget_eq_ok_iff : withTarget s h.setTarget target = .ok t ↔
    (∀ x ∈ target, within 0 h.max x) ∧ target.elim s (h.aim s) = t := by
  cases target with
  | none => simp [withTarget]
  | some x => simp [withTarget, setTarget_eq_ok_iff]

/-- What a command that polls a heater does. -/
theorem execute_wait (h : Heater) (now : Time.Timestamp) (s : State) (target : Option Float) :
    execute now s (h.wait target) = (withTarget s h.setTarget target).map h.poll := by
  -- both commands set the target, if there is one, and tell what they find then
  cases h with
  | hotend =>
    change (withTarget s State.setHotendTarget target >>= _) =
      (withTarget s State.setHotendTarget target).map _
    cases withTarget s State.setHotendTarget target with
    | error => rfl
    | ok t => exact (apply_ite Except.ok _ _ _).symm
  | bed =>
    change (withTarget s State.setBedTarget target >>= _) =
      (withTarget s State.setBedTarget target).map _
    cases withTarget s State.setBedTarget target with
    | error => rfl
    | ok t => exact (apply_ite Except.ok _ _ _).symm

theorem heatingText_ne_okay (h : Heater) (x y : Float) : heatingText h.label x y ≠ okay := by
  have hstart : differ h.label.toList okay.toList := by cases h <;> decide
  simp only [heatingText, String.append_assoc]
  exact append_ne_of_differ hstart _

/-- A poll tells by its answer whether the heater is below its target. -/
theorem poll_cases (h : Heater) (s : State) :
    h.temperature s < h.target s ∧
      h.poll s = (s, heatingText h.label (h.temperature s) (h.target s)) ∨
    ¬h.temperature s < h.target s ∧ h.poll s = (h.rest s, okay) := by
  unfold poll
  split
  · next hb => exact .inl ⟨hb, rfl⟩
  · next hb => exact .inr ⟨hb, rfl⟩

/-- A poll changes neither the temperature nor the target, and its answer tells how they are to each
other. -/
theorem poll_tells (h : Heater) (s : State) :
    h.target (h.poll s).1 = h.target s ∧ h.temperature (h.poll s).1 = h.temperature s ∧
      ((h.poll s).2 = heatingText h.label (h.temperature s) (h.target s) ↔
        h.temperature s < h.target s) ∧
      ((h.poll s).2 = okay ↔ ¬h.temperature s < h.target s) := by
  have hne := h.heatingText_ne_okay (h.temperature s) (h.target s)
  rcases h.poll_cases s with ⟨hb, hp⟩ | ⟨hb, hp⟩
  · rw [hp]
    exact ⟨rfl, rfl, iff_of_true rfl hb, iff_of_false hne (not_not_intro hb)⟩
  · rw [hp]
    exact ⟨target_rest h s, temperature_rest h s, iff_of_false hne.symm hb, iff_of_true rfl hb⟩

/-- Polled again, a heater tells the same, and nothing happens. -/
theorem poll_poll (h : Heater) (s : State) : h.poll (h.poll s).1 = h.poll s := by
  rcases h.poll_cases s with ⟨-, hp⟩ | ⟨hb, hp⟩
  · rw [hp]
    exact hp
  · have hb' : ¬h.temperature (h.rest s) < h.target (h.rest s) := by simpa using hb
    rw [hp, poll, if_neg hb', rest_rest]

/-- A target that was set before a poll is set again without a difference. -/
theorem aim_poll (h : Heater) (s : State) (x : Float) :
    h.aim (h.poll (h.aim s x)).1 x = h.aim s x := by
  rcases h.poll_cases (h.aim s x) with ⟨-, hp⟩ | ⟨-, hp⟩ <;> rw [hp] <;> simp

/-- **What a poll answers**: a target that it is given is set, and then it tells that the heater is
below its target, or that it is not by the plain acknowledgement. -/
theorem wait_tells (hw : execute now s (h.wait target) = .ok (u, answer)) :
    h.target u = target.getD (h.target s) ∧ h.temperature u = h.temperature s ∧
      (answer = heatingText h.label (h.temperature s) (h.target u) ↔
        h.temperature s < h.target u) ∧
      (answer = okay ↔ ¬h.temperature s < h.target u) := by
  rw [execute_wait] at hw
  obtain ⟨t, ht, hw⟩ := map_eq_ok_iff.mp hw
  obtain ⟨-, rfl⟩ := withTarget_eq_ok_iff.mp ht
  have htarget : h.target (target.elim s (h.aim s)) = target.getD (h.target s) := by
    cases target <;> simp
  have htemperature : h.temperature (target.elim s (h.aim s)) = h.temperature s := by
    cases target <;> simp
  obtain ⟨hu, hu', hbelow, hokay⟩ := h.poll_tells (target.elim s (h.aim s))
  rw [hw] at hu hu' hbelow hokay
  rw [← htemperature, hu]
  exact ⟨htarget, hu', hbelow, hokay⟩

/-- **A poll answers the same again**, and nothing happens. -/
theorem wait_again (hw : execute now s (h.wait target) = .ok (u, answer)) (now' : Time.Timestamp) :
    execute now' u (h.wait target) = .ok (u, answer) := by
  rw [execute_wait] at hw ⊢
  obtain ⟨t, ht, hw⟩ := map_eq_ok_iff.mp hw
  obtain ⟨hx, rfl⟩ := withTarget_eq_ok_iff.mp ht
  cases target with
  | none =>
    have hagain := h.poll_poll s
    rw [show h.poll s = (u, answer) from hw] at hagain
    exact congrArg Except.ok hagain
  | some x =>
    have haim := h.aim_poll s x
    rw [show h.poll (h.aim s x) = (u, answer) from hw] at haim
    have hset : withTarget u h.setTarget (some x) = .ok (h.aim s x) :=
      withTarget_eq_ok_iff.mpr ⟨hx, haim⟩
    rw [hset]
    exact congrArg Except.ok hw

end Heater

/-! ### The bed -/

/-- A bed that does not heat is not below its target. -/
def State.BedRests (s : State) : Prop :=
  s.heatbed.heating = false → ¬s.heatbed.temperature < s.heatbed.targetTemperature

/-- What a command can do to the bed, with what it answers: nothing, or make it heat, or find by a
poll that it is not below its target. -/
inductive BedStep (c : Command) (answer : String) (s t : State) : Prop
  | stays (target : t.heatbed.targetTemperature = s.heatbed.targetTemperature)
      (heating : t.heatbed.heating = s.heatbed.heating)
  | heats (heating : t.heatbed.heating = true)
  | rests {target : Option Float} (command : c = .waitBedTemp target) (answered : answer = okay)
      (notBelow : ¬t.heatbed.temperature < t.heatbed.targetTemperature)

variable {s t : State} {c : Command} {now : Time.Timestamp} {answer : String}

theorem bedStep_setBedTemp {target : Option Float}
    (h : execute now s (.setBedTemp target) = .ok (t, answer)) :
    BedStep (.setBedTemp target) answer s t := by
  obtain ⟨u, hu, hanswer⟩ := bind_eq_ok_iff.mp h
  cases hanswer
  obtain ⟨-, rfl⟩ := Heater.withTarget_eq_ok_iff (h := .bed).mp hu
  cases target with
  | none => exact .stays rfl rfl
  | some => exact .heats rfl

theorem bedStep_waitBedTemp {target : Option Float}
    (h : execute now s (.waitBedTemp target) = .ok (t, answer)) :
    BedStep (.waitBedTemp target) answer s t := by
  change execute now s (Heater.bed.wait target) = _ at h
  rw [Heater.execute_wait] at h
  obtain ⟨u, hu, hpoll⟩ := map_eq_ok_iff.mp h
  rcases Heater.bed.poll_cases u with ⟨-, hp⟩ | ⟨hb, hp⟩
  · cases hp.symm.trans hpoll
    obtain ⟨-, rfl⟩ := Heater.withTarget_eq_ok_iff.mp hu
    cases target with
    | none => exact .stays rfl rfl
    | some => exact .heats rfl
  · cases hp.symm.trans hpoll
    exact .rests rfl rfl hb

/-- **What a command can do to the bed**: commands of other subsystems leave it alone. -/
theorem execute_bed (h : execute now s c = .ok (t, answer)) : BedStep c answer s t := by
  by_cases hc : c.subsystem? = some .bed
  · cases c with
    | setBedTemp target => exact bedStep_setBedTemp h
    | waitBedTemp target => exact bedStep_waitBedTemp h
    | _ => cases hc
  · have hframe {f : Field} (hf : f.subsystem? = some .bed) : t.get f = s.get f :=
      execute_frame h fun hm => hc ((subsystem_of_mem_footprint hm).symm.trans hf)
    exact .stays (hframe (f := .bedTarget) rfl) (hframe (f := .bedHeating) rfl)

/-- A measurement does not change whether the bed is heating. -/
theorem Heater.heating_measure {h : Heater} {x : Float} (ht : h.measure s x = .ok t) :
    t.heatbed.heating = s.heatbed.heating := by
  obtain ⟨-, rfl⟩ := measure_eq_ok_iff.mp ht
  cases h <;> rfl

namespace State

/-- **No command makes a bed rest below its target.** -/
theorem BedRests.execute (hs : s.BedRests) (h : execute now s c = .ok (t, answer)) :
    t.BedRests := by
  intro hoff
  have htemperature : t.heatbed.temperature = s.heatbed.temperature :=
    (execute_keeps h).frame.bedTemperature
  cases execute_bed h with
  | stays htarget hheating =>
    rw [htemperature, htarget]
    exact hs (hheating.symm.trans hoff)
  | heats hheating => cases hheating.symm.trans hoff
  | rests _ _ hb => exact hb

/-- Nor does a measurement, unless it finds the bed colder than before. -/
theorem BedRests.measure (hs : s.BedRests) {h : Heater} {x : Float} (ht : h.measure s x = .ok t)
    (hx : h = .bed → s.heatbed.temperature ≤ t.heatbed.temperature) : t.BedRests := by
  obtain ⟨-, rfl⟩ := Heater.measure_eq_ok_iff.mp ht
  cases h with
  | hotend => exact hs
  | bed => exact fun hoff hb => hs hoff (Number.float_lt_of_le_of_lt (hx rfl) hb)

end State

end VirtualPrinter.Machine
