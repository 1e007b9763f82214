import VirtualPrinter.Proofs.Number.Truncation
import VirtualPrinter.Proofs.Outcome
import VirtualPrinter.Proofs.Service.Instruction

/-!
# The bounds of a printer

Whatever a printer is told, its head stays inside the travel volume, its heaters and its fan inside
their ranges, and its magnitudes finite and not negative.  Every setter checks its value before it
changes anything, so each of them is described once, as a change that keeps the bounds and touches
nothing that instructions must not touch; a command is a composition of setters, an instruction line
is a command at most, and a script is a sequence of lines.

## Main definitions

* `State.Bounded`: the bounds of a printer.
* `State.SameFrame`: what no instruction changes.
* `Device.course`: the devices that a script leads through.

## Main results

* `execute_keeps`: a command keeps the bounds and the frame.
* `course_bounded`: so does every line of every script.
-/

namespace VirtualPrinter.Machine

open Outcome (map_eq_ok_iff bind_eq_ok_iff)

/-! ### The bounds -/

theorem within_iff {min max value : Float} : within min max value ↔ min ≤ value ∧ value ≤ max := by
  simp [within]

/-- A point lies in the box between the origin and a far corner. -/
structure Point.Inside (p corner : Point) : Prop where
  x : within 0 corner.x p.x
  y : within 0 corner.y p.y
  z : within 0 corner.z p.z

/-- A value is finite and not negative. -/
structure Magnitude (value : Float) : Prop where
  finite : value.isFinite
  nonneg : 0 ≤ value

/-- The bounds of a printer. -/
structure State.Bounded (s : State) : Prop where
  position : s.position.Inside s.travelLimits
  hotendTemperature : within 0 hotendMax s.extruder.temperature
  hotendTarget : within 0 hotendMax s.extruder.targetTemperature
  bedTemperature : within 0 bedMax s.heatbed.temperature
  bedTarget : within 0 bedMax s.heatbed.targetTemperature
  auxTarget : within 0 auxMax s.auxTargetTemperature
  fanSpeed : within 0 fanMax s.extruder.fanSpeed
  progress : s.progress ≤ 100
  feedRate : Magnitude s.feedRate
  acceleration : Magnitude s.acceleration
  linearAdvance : Magnitude s.linearAdvance

instance (p corner : Point) : Decidable (p.Inside corner) :=
  decidable_of_iff (within 0 corner.x p.x ∧ within 0 corner.y p.y ∧ within 0 corner.z p.z)
    ⟨fun h => ⟨h.1, h.2.1, h.2.2⟩, fun h => ⟨h.x, h.y, h.z⟩⟩

instance (value : Float) : Decidable (Magnitude value) :=
  decidable_of_iff (value.isFinite ∧ 0 ≤ value) ⟨fun h => ⟨h.1, h.2⟩, fun h => ⟨h.finite, h.nonneg⟩⟩

instance (s : State) : Decidable s.Bounded :=
  decidable_of_iff
    ((s.position.Inside s.travelLimits ∧ within 0 hotendMax s.extruder.temperature ∧
      within 0 hotendMax s.extruder.targetTemperature ∧ within 0 bedMax s.heatbed.temperature ∧
      within 0 bedMax s.heatbed.targetTemperature ∧ within 0 auxMax s.auxTargetTemperature) ∧
      within 0 fanMax s.extruder.fanSpeed ∧ s.progress ≤ 100 ∧ Magnitude s.feedRate ∧
      Magnitude s.acceleration ∧ Magnitude s.linearAdvance)
    ⟨fun ⟨⟨a, b, c, d, e, f⟩, g, h, i, j, k⟩ => ⟨a, b, c, d, e, f, g, h, i, j, k⟩,
      fun b => ⟨⟨b.1, b.2, b.3, b.4, b.5, b.6⟩, b.7, b.8, b.9, b.10, b.11⟩⟩

/-- What no instruction changes: the travel volume, the home and what is measured. -/
structure State.SameFrame (s t : State) : Prop where
  travelLimits : t.travelLimits = s.travelLimits
  homePosition : t.homePosition = s.homePosition
  hotendTemperature : t.extruder.temperature = s.extruder.temperature
  bedTemperature : t.heatbed.temperature = s.heatbed.temperature

/-- A change that keeps the bounds, and the frame. -/
structure State.Keeps (s t : State) : Prop where
  bounded : s.Bounded → t.Bounded
  frame : s.SameFrame t

namespace State

variable {s t u : State}

theorem SameFrame.refl (s : State) : s.SameFrame s := ⟨rfl, rfl, rfl, rfl⟩

theorem SameFrame.trans (h : s.SameFrame t) (k : t.SameFrame u) : s.SameFrame u :=
  ⟨k.travelLimits.trans h.travelLimits, k.homePosition.trans h.homePosition,
    k.hotendTemperature.trans h.hotendTemperature, k.bedTemperature.trans h.bedTemperature⟩

theorem Keeps.refl (s : State) : s.Keeps s := ⟨id, .refl s⟩

theorem Keeps.trans (h : s.Keeps t) (k : t.Keeps u) : s.Keeps u :=
  ⟨k.bounded ∘ h.bounded, h.frame.trans k.frame⟩

/-! ### Checks -/

theorem checkRange_eq_ok_iff {quantity : String} {value max : Float} {r : Unit} :
    checkRange quantity value max = .ok r ↔ within 0 max value := by
  unfold checkRange
  split <;> simp_all

theorem checkMagnitude_eq_ok_iff {quantity : String} {value : Float} {r : Unit} :
    checkMagnitude quantity value = .ok r ↔ Magnitude value := by
  have hm : Magnitude value ↔ (value.isFinite && decide (0 ≤ value)) = true := by
    rw [Bool.and_eq_true, decide_eq_true_eq]
    exact ⟨fun m => ⟨m.finite, m.nonneg⟩, fun h => ⟨h.1, h.2⟩⟩
  unfold checkMagnitude
  split <;> simp_all

theorem checkAxis_eq_ok_iff {axis : Char} {value max : Float} {r : Unit} :
    checkAxis axis value max = .ok r ↔ within 0 max value := by
  unfold checkAxis
  split <;> simp_all

theorem checkBounds_eq_ok_iff {p : Point} {r : Unit} :
    s.checkBounds p = .ok r ↔ p.Inside s.travelLimits := by
  simp only [checkBounds, bind_eq_ok_iff, checkAxis_eq_ok_iff, exists_and_left, exists_const]
  exact ⟨fun ⟨x, y, z⟩ => ⟨x, y, z⟩, fun h => ⟨h.x, h.y, h.z⟩⟩

/-! ### Setters -/

theorem withPosition_keeps {p : Point} (h : p.Inside s.travelLimits) : s.Keeps (s.withPosition p) :=
  ⟨fun b => { b with position := h }, ⟨rfl, rfl, rfl, rfl⟩⟩

theorem setPosition_keeps {p : Point} (h : s.setPosition p = .ok t) : s.Keeps t := by
  obtain ⟨_, hp, rfl⟩ := map_eq_ok_iff.mp h
  exact withPosition_keeps (checkBounds_eq_ok_iff.mp hp)

theorem moveTo_keeps {p : Point} (h : s.moveTo p = .ok t) : s.Keeps t := by
  unfold moveTo at h
  split at h
  · cases h
  · exact setPosition_keeps h

theorem setFeedRate_keeps {rate : Float} (h : s.setFeedRate rate = .ok t) : s.Keeps t := by
  obtain ⟨_, hr, rfl⟩ := map_eq_ok_iff.mp h
  exact ⟨fun b => { b with feedRate := checkMagnitude_eq_ok_iff.mp hr }, ⟨rfl, rfl, rfl, rfl⟩⟩

theorem setHotendTarget_keeps {target : Float} (h : s.setHotendTarget target = .ok t) :
    s.Keeps t := by
  obtain ⟨_, hr, rfl⟩ := map_eq_ok_iff.mp h
  exact ⟨fun b => { b with hotendTarget := checkRange_eq_ok_iff.mp hr }, ⟨rfl, rfl, rfl, rfl⟩⟩

theorem setBedTarget_keeps {target : Float} (h : s.setBedTarget target = .ok t) : s.Keeps t := by
  obtain ⟨_, hr, rfl⟩ := map_eq_ok_iff.mp h
  exact ⟨fun b => { b with bedTarget := checkRange_eq_ok_iff.mp hr }, ⟨rfl, rfl, rfl, rfl⟩⟩

theorem setAuxTarget_keeps {target : Float} (h : s.setAuxTarget target = .ok t) : s.Keeps t := by
  obtain ⟨_, hr, rfl⟩ := map_eq_ok_iff.mp h
  exact ⟨fun b => { b with auxTarget := checkRange_eq_ok_iff.mp hr }, ⟨rfl, rfl, rfl, rfl⟩⟩

theorem setFanSpeed_keeps {speed : Float} (h : s.setFanSpeed speed = .ok t) : s.Keeps t := by
  obtain ⟨_, hr, rfl⟩ := map_eq_ok_iff.mp h
  exact ⟨fun b => { b with fanSpeed := checkRange_eq_ok_iff.mp hr }, ⟨rfl, rfl, rfl, rfl⟩⟩

theorem setAcceleration_keeps {acceleration : Float}
    (h : s.setAcceleration acceleration = .ok t) : s.Keeps t := by
  obtain ⟨_, hr, rfl⟩ := map_eq_ok_iff.mp h
  exact ⟨fun b => { b with acceleration := checkMagnitude_eq_ok_iff.mp hr }, ⟨rfl, rfl, rfl, rfl⟩⟩

theorem setLinearAdvance_keeps {factor : Float} (h : s.setLinearAdvance factor = .ok t) :
    s.Keeps t := by
  obtain ⟨_, hr, rfl⟩ := map_eq_ok_iff.mp h
  exact ⟨fun b => { b with linearAdvance := checkMagnitude_eq_ok_iff.mp hr }, ⟨rfl, rfl, rfl, rfl⟩⟩

/-- The one setter that does not keep the number it has checked, but its whole part. -/
theorem setProgress_keeps {percent : Float} {minutes : UInt32}
    (h : s.setProgress percent minutes = .ok t) : s.Keeps t := by
  obtain ⟨_, hr, rfl⟩ := map_eq_ok_iff.mp h
  have hle : percent ≤ 100 := (within_iff.mp (checkRange_eq_ok_iff.mp hr)).2
  exact ⟨fun b => { b with progress := Number.toUInt8_le_hundred hle }, ⟨rfl, rfl, rfl, rfl⟩⟩

theorem setBedHeating_keeps (s : State) (heating : Bool) : s.Keeps (s.setBedHeating heating) :=
  ⟨fun b => { b with }, ⟨rfl, rfl, rfl, rfl⟩⟩

end State

/-! ### Commands -/

variable {s t : State}

/-- A rate that is refused leaves the feed rate as it was. -/
theorem withFeedRate_keeps (s : State) (rate : Option Float) : s.Keeps (withFeedRate s rate) := by
  unfold withFeedRate
  split
  · split
    · split
      · next h => exact State.setFeedRate_keeps h
      · exact .refl s
    · exact .refl s
  · exact .refl s

theorem withTarget_keeps {set : State → Float → Except Refusal State}
    (hset : ∀ {target t}, set s target = .ok t → s.Keeps t) {target : Option Float}
    (h : withTarget s set target = .ok t) : s.Keeps t := by
  cases target with
  | none => cases h; exact .refl s
  | some target => exact hset h

/-- A command that sets something and tells about it keeps what the setter keeps. -/
theorem keeps_of_answer {x : Except Refusal State} {tell : State → String} {answer : String}
    (hx : ∀ {u}, x = .ok u → s.Keeps u)
    (h : (x >>= fun u => pure (u, tell u)) = .ok (t, answer)) : s.Keeps t := by
  obtain ⟨u, hu, ht⟩ := bind_eq_ok_iff.mp h
  cases ht
  exact hx hu

/-- A command keeps the bounds and the frame. -/
theorem execute_keeps {now : Time.Timestamp} {c : Gcode.Command} {answer : String}
    (h : execute now s c = .ok (t, answer)) : s.Keeps t := by
  cases c with
  | home => exact keeps_of_answer State.moveTo_keeps h
  | moveLinear x y z feedRate =>
    obtain ⟨u, hu, ht⟩ := bind_eq_ok_iff.mp h
    cases ht
    exact (State.moveTo_keeps hu).trans (withFeedRate_keeps u feedRate)
  | moveArc direction radius z feedRate =>
    obtain ⟨u, hu, ht⟩ := bind_eq_ok_iff.mp h
    cases ht
    exact (State.moveTo_keeps hu).trans (withFeedRate_keeps u feedRate)
  | setPosition x y z => exact keeps_of_answer State.setPosition_keeps h
  | setHotendTemp target =>
    exact keeps_of_answer (withTarget_keeps State.setHotendTarget_keeps) h
  | waitHotendTemp target =>
    obtain ⟨u, hu, ht⟩ := bind_eq_ok_iff.mp h
    have hk := withTarget_keeps State.setHotendTarget_keeps hu
    -- whether the heater is on its way changes the answer alone
    split at ht <;> cases ht <;> exact hk
  | setBedTemp target => exact keeps_of_answer (withTarget_keeps State.setBedTarget_keeps) h
  | waitBedTemp target =>
    obtain ⟨u, hu, ht⟩ := bind_eq_ok_iff.mp h
    have hk := withTarget_keeps State.setBedTarget_keeps hu
    split at ht
    · cases ht
      exact hk
    · cases ht
      exact hk.trans (State.setBedHeating_keeps u false)
  | setAuxTemp target => exact keeps_of_answer (withTarget_keeps State.setAuxTarget_keeps) h
  | setFan speed => exact keeps_of_answer State.setFanSpeed_keeps h
  | fanOff => exact keeps_of_answer State.setFanSpeed_keeps h
  | setAccel acceleration => exact keeps_of_answer State.setAcceleration_keeps h
  | setLinearAdvance factor => exact keeps_of_answer State.setLinearAdvance_keeps h
  | setProgress percent minutes => exact keeps_of_answer State.setProgress_keeps h
  | setPositioning | setExtruderPositioning | setUnits | coldExtrusion | motorEnable | motorDisable
  | emergencyStop | pause | resume | keepalive =>
    -- what these change has no bounds
    cases h
    exact ⟨fun b => { b with }, ⟨rfl, rfl, rfl, rfl⟩⟩
  | dwell | reportPosition | reportFirmware | reportSettings | reportProgress | reportMachine
  | periodicTelemetry =>
    cases h
    exact .refl s

end VirtualPrinter.Machine

namespace VirtualPrinter.Service.Device

open Machine (State)

/-! ### Lines and scripts -/

/-- The devices that a script leads through, line by line, with what each line finds around it; the
first is the device before the script. -/
def course (d : Device) : List (Surroundings × List Char) → List Device
  | [] => [d]
  | (here, line) :: rest => d :: (d.execute here line).1.course rest

/-- A line keeps the bounds and the frame, whatever it holds. -/
theorem execute_keeps (d : Device) (here : Surroundings) (line : List Char) :
    d.state.Keeps (d.execute here line).1.state :=
  execute_state (P := d.state.Keeps) (.refl _) Machine.execute_keeps here line

/-- What every line keeps, a whole course keeps. -/
theorem rel_of_mem_course {R : State → State → Prop} (refl : ∀ s, R s s)
    (trans : ∀ {s t u}, R s t → R t u → R s u)
    (step : ∀ (d : Device) here line, R d.state (d.execute here line).1.state) {d e : Device}
    {script : List (Surroundings × List Char)} (h : e ∈ d.course script) : R d.state e.state := by
  induction script generalizing d with
  | nil =>
    obtain rfl := List.mem_singleton.mp h
    exact refl _
  | cons entry rest ih =>
    obtain ⟨here, line⟩ := entry
    rcases List.mem_cons.mp h with rfl | h
    · exact refl _
    · exact trans (step d here line) (ih h)

/-- All devices of a course have come from the first by changes that keep the bounds and the
frame. -/
theorem keeps_of_mem_course {d e : Device} {script : List (Surroundings × List Char)}
    (h : e ∈ d.course script) : d.state.Keeps e.state :=
  rel_of_mem_course .refl .trans execute_keeps h

/-- **The bounds hold after every line of every script**, and no line changes the travel volume, the
home or what is measured. -/
theorem course_bounded (d : Device) (h : d.state.Bounded)
    (script : List (Surroundings × List Char)) :
    ∀ e ∈ d.course script, e.state.Bounded ∧ d.state.SameFrame e.state := fun _ he =>
  ⟨(keeps_of_mem_course he).bounded h, (keeps_of_mem_course he).frame⟩

/-- Inches, offsets, a move that leads out of the travel volume, a pause and a value that is passed
over, on a new printer. -/
theorem course_bounded_standard :
    standard.state.Bounded ∧
      ∀ e ∈ standard.course [(⟨⟨0, 0⟩, .zero, true⟩, "G20 ; inches".toList),
          (⟨⟨0, 0⟩, .zero, true⟩, "g91".toList), (⟨⟨1, 0⟩, .zero, true⟩, "G1 X9.5 F1e3".toList),
          (⟨⟨1, 0⟩, .zero, false⟩, "G1 X9.5".toList), (⟨⟨2, 0⟩, .zero, true⟩, "M112".toList),
          (⟨⟨2, 0⟩, .zero, true⟩, "G1 Y-1".toList), (⟨⟨3, 0⟩, .zero, true⟩, "M73 P99.9 R7".toList)],
        e.state.Bounded ∧ standard.state.SameFrame e.state :=
  ⟨by decide +kernel, course_bounded standard (by decide +kernel) _⟩

end VirtualPrinter.Service.Device
