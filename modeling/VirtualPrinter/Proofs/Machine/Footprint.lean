import VirtualPrinter.Proofs.Machine.Fields
import VirtualPrinter.Proofs.Machine.Writes

/-!
# What a command reads and writes

A command writes the fields of its footprint and no other.  The fields are divided among the
subsystems of a printer, and so are the commands, apart from the report of all settings: what a
command does and answers depends on the fields of its own subsystem alone.

## Main definitions

* `Command.footprint`: the fields that a command may write.
* `Machine.Subsystem`, with `Field.subsystem?` and `Command.subsystem?`: who has which fields and
  which commands.
* `State.AgreeOn`: two states have the same values in the fields of a subsystem.

## Main results

* `execute_frame`: a command leaves the fields outside of its footprint alone.
* `subsystem_of_mem_footprint`: the footprint of a command lies in its subsystem.
* `execute_agreeOn`: a command does not look at the fields of other subsystems.
-/

namespace VirtualPrinter.Machine

/-! ### Subsystems -/

/-- A part of a printer that has fields and commands of its own. -/
inductive Subsystem where
  /-- The head, its modes and units, and the pause that stops it. -/
  | motion
  | hotend
  | bed
  | aux
  | fan
  | motors
  | acceleration
  | linearAdvance
  | extruderMode
  | coldExtrusion
  | progress
  | keepalive
  /-- What the printer is. -/
  | identity
  /-- Reports at an interval; they have no field of the state. -/
  | telemetry
deriving DecidableEq

/-- The subsystem that a field belongs to.  Home and the free properties belong to none. -/
def Field.subsystem? : Field → Option Subsystem
  | .position | .feedRate | .positioning | .units | .paused | .bedWidth | .bedLength
  | .maxZHeight => some .motion
  | .hotendTemperature | .hotendTarget => some .hotend
  | .bedTemperature | .bedTarget | .bedHeating => some .bed
  | .auxTarget => some .aux
  | .fanSpeed => some .fan
  | .motor _ => some .motors
  | .acceleration => some .acceleration
  | .linearAdvance => some .linearAdvance
  | .extruderPositioning => some .extruderMode
  | .coldExtrusion => some .coldExtrusion
  | .progress | .remainingMinutes => some .progress
  | .lastKeepalive => some .keepalive
  | .info => some .identity
  | .homePosition | .attributes | .data => none

end VirtualPrinter.Machine

namespace VirtualPrinter.Gcode.Command

open Machine (Field Subsystem)

/-- The fields that a command may write. -/
def footprint : Command → List Field
  | .home | .setPosition .. => [.position]
  | .moveLinear .. | .moveArc .. => [.position, .feedRate]
  | .setPositioning _ => [.positioning]
  | .setExtruderPositioning _ => [.extruderPositioning]
  | .setUnits _ => [.units]
  | .setHotendTemp _ | .waitHotendTemp _ => [.hotendTarget]
  | .setBedTemp _ | .waitBedTemp _ => [.bedTarget, .bedHeating]
  | .setAuxTemp _ => [.auxTarget]
  | .coldExtrusion _ => [.coldExtrusion]
  | .setFan _ | .fanOff => [.fanSpeed]
  | .motorEnable motors | .motorDisable motors => motors.fields
  | .setAccel _ => [.acceleration]
  | .setLinearAdvance _ => [.linearAdvance]
  | .setProgress .. => [.progress, .remainingMinutes]
  | .emergencyStop | .pause | .resume => [.paused]
  | .keepalive => [.lastKeepalive]
  | .dwell _ | .reportPosition | .reportFirmware | .reportSettings | .reportProgress
  | .reportMachine | .periodicTelemetry _ => []

/-- The subsystem that a command belongs to.  The report of all settings belongs to none. -/
def subsystem? : Command → Option Subsystem
  | .home | .moveLinear .. | .moveArc .. | .dwell _ | .setPositioning _ | .setUnits _
  | .setPosition .. | .reportPosition | .emergencyStop | .pause | .resume => some .motion
  | .setHotendTemp _ | .waitHotendTemp _ => some .hotend
  | .setBedTemp _ | .waitBedTemp _ => some .bed
  | .setAuxTemp _ => some .aux
  | .setFan _ | .fanOff => some .fan
  | .motorEnable _ | .motorDisable _ => some .motors
  | .setAccel _ => some .acceleration
  | .setLinearAdvance _ => some .linearAdvance
  | .setExtruderPositioning _ => some .extruderMode
  | .coldExtrusion _ => some .coldExtrusion
  | .setProgress .. | .reportProgress => some .progress
  | .keepalive => some .keepalive
  | .reportFirmware | .reportMachine => some .identity
  | .periodicTelemetry _ => some .telemetry
  | .reportSettings => none

end VirtualPrinter.Gcode.Command

namespace VirtualPrinter.Machine

open Gcode (Command)
open Outcome (map_eq_ok_iff)

/-- A command writes fields of its own subsystem. -/
theorem subsystem_of_mem_footprint {c : Command} {f : Field} (h : f ∈ c.footprint) :
    f.subsystem? = c.subsystem? := by
  cases c with
  | motorEnable motors | motorDisable motors =>
    obtain ⟨i, -, rfl⟩ := List.mem_map.mp h
    rfl
  | dwell | reportPosition | reportFirmware | reportSettings | reportProgress | reportMachine
  | periodicTelemetry => cases h
  | moveLinear | moveArc | setBedTemp | waitBedTemp | setProgress =>
    obtain rfl | h := List.mem_cons.mp h
    · rfl
    · obtain rfl := List.mem_singleton.mp h
      rfl
  | _ =>
    obtain rfl := List.mem_singleton.mp h
    rfl

/-! ### Writes -/

namespace Write

variable {fields : List Field} {g : State → State}

/-- A write that leaves all other fields alone. -/
def Within (fields : List Field) (w : Write) : Prop :=
  ∀ s t, w.set s = .ok t → ∀ f ∉ fields, t.get f = s.get f

theorem within_free (h : Sets fields g) : (free g).Within fields := by
  rintro s t ⟨⟩ f hf
  exact h.frame s f hf

theorem within_checked {check : State → Except Refusal Unit} {lenient : Bool}
    (h : Sets fields g) : Within fields ⟨fun s => (check s).map fun _ => g s, lenient⟩ := by
  intro s t hw f hf
  obtain ⟨_, -, rfl⟩ := map_eq_ok_iff.mp hw
  exact h.frame s f hf

/-- A write of some fields leaves all others alone. -/
theorem Within.mono {fields' : List Field} {w : Write} (h : w.Within fields)
    (hf : fields ⊆ fields') : w.Within fields' :=
  fun s t hw f hn => h s t hw f fun hm => hn (hf hm)

theorem within_moveTo (p : State → Point) : (strict fun s => s.moveTo (p s)).Within [.position] := by
  intro s t hw f hf
  change s.moveTo (p s) = .ok t at hw
  unfold State.moveTo at hw
  split at hw
  · cases hw
  · obtain ⟨_, -, rfl⟩ := map_eq_ok_iff.mp hw
    exact (sets_put .position (p s)).frame s f hf

theorem within_targetWrite {set : State → Float → Except Refusal State} {target : Option Float}
    (h : ∀ target, (strict (set · target)).Within fields) :
    ∀ w ∈ targetWrite set target, w.Within fields := by
  cases target with
  | none => exact fun _ hw => absurd hw List.not_mem_nil
  | some target => exact List.forall_mem_singleton.mpr (h target)

theorem within_feedRateWrite (s : State) (rate : Option Float) :
    ∀ w ∈ feedRateWrite s rate, w.Within [.feedRate] := by
  unfold feedRateWrite
  split
  · split
    · exact List.forall_mem_singleton.mpr (within_checked (sets_put .feedRate _))
    · exact fun _ hw => absurd hw List.not_mem_nil
  · exact fun _ hw => absurd hw List.not_mem_nil

theorem within_bedTarget (target : Option Float) :
    ∀ w ∈ targetWrite State.setBedTarget target, w.Within [.bedTarget, .bedHeating] :=
  within_targetWrite fun target => within_checked (sets_bedTarget target)

/-- The writes of a command lie in its footprint. -/
theorem within_writes (now : Time.Timestamp) (s : State) (c : Command) :
    ∀ w ∈ writes now s c, w.Within c.footprint := by
  cases c with
  | home => exact List.forall_mem_singleton.mpr (within_moveTo _)
  | moveLinear | moveArc =>
    refine List.forall_mem_cons.mpr ⟨(within_moveTo _).mono (by simp [Command.footprint]), ?_⟩
    exact fun w hw => (within_feedRateWrite s _ w hw).mono (by simp [Command.footprint])
  | setPosition => exact List.forall_mem_singleton.mpr (within_checked (sets_put .position _))
  | setPositioning mode => exact List.forall_mem_singleton.mpr (within_free (sets_put .positioning _))
  | setExtruderPositioning mode =>
    exact List.forall_mem_singleton.mpr (within_free (sets_put .extruderPositioning _))
  | setUnits => exact List.forall_mem_singleton.mpr (within_free (sets_put .units _))
  | setHotendTemp | waitHotendTemp =>
    exact within_targetWrite fun _ => within_checked (sets_put .hotendTarget _)
  | setBedTemp => exact within_bedTarget _
  | waitBedTemp =>
    refine List.forall_mem_append.mpr ⟨within_bedTarget _, List.forall_mem_singleton.mpr ?_⟩
    rintro s t ⟨⟩ f hf
    have hheating := (sets_put .bedHeating false).frame s f (by simp_all [Command.footprint])
    dsimp only
    split
    · rfl
    · exact hheating
  | setAuxTemp => exact within_targetWrite fun _ => within_checked (sets_put .auxTarget _)
  | coldExtrusion => exact List.forall_mem_singleton.mpr (within_free (sets_put .coldExtrusion _))
  | setFan | fanOff => exact List.forall_mem_singleton.mpr (within_checked (sets_put .fanSpeed _))
  | motorEnable motors => exact List.forall_mem_singleton.mpr (within_free (sets_enableMotors motors))
  | motorDisable motors =>
    exact List.forall_mem_singleton.mpr (within_free (sets_disableMotors motors))
  | setAccel => exact List.forall_mem_singleton.mpr (within_checked (sets_put .acceleration _))
  | setLinearAdvance =>
    exact List.forall_mem_singleton.mpr (within_checked (sets_put .linearAdvance _))
  | setProgress percent minutes =>
    exact List.forall_mem_singleton.mpr (within_checked (sets_progress percent.toUInt8 minutes))
  | emergencyStop | pause => exact List.forall_mem_singleton.mpr (within_free (sets_put .paused true))
  | resume => exact List.forall_mem_singleton.mpr (within_free (sets_put .paused false))
  | keepalive =>
    exact List.forall_mem_singleton.mpr (within_free (sets_put .lastKeepalive (some now)))
  | dwell | reportPosition | reportFirmware | reportSettings | reportProgress | reportMachine
  | periodicTelemetry => exact fun _ hw => absurd hw List.not_mem_nil

/-- What each of some writes leaves alone, all of them do. -/
theorem run_within {ws : List Write} (h : ∀ w ∈ ws, w.Within fields) (s : State) {f : Field}
    (hf : f ∉ fields) : (run ws s).2.get f = s.get f := by
  induction ws generalizing s with
  | nil => rfl
  | cons w ws ih =>
    have hrest := ih fun v hv => h v (List.mem_cons_of_mem _ hv)
    rw [run]
    split
    · next t ht => exact (hrest t).trans (h w List.mem_cons_self s t ht f hf)
    · split
      · exact hrest s
      · rfl

end Write

variable {s t : State} {u : Subsystem} {c : Command} {now : Time.Timestamp} {answer : String}

/-- **A command leaves the fields outside of its footprint alone.** -/
theorem execute_frame (h : execute now s c = .ok (t, answer)) {f : Field} (hf : f ∉ c.footprint) :
    t.get f = s.get f := by
  have hrun := Write.run_within (Write.within_writes now s c) s hf
  rwa [run_writes, h] at hrun

/-! ### What a command looks at -/

/-- Two states have the same values in the fields of a subsystem. -/
def State.AgreeOn (u : Subsystem) (s t : State) : Prop :=
  ∀ f : Field, f.subsystem? = some u → s.get f = t.get f

/-- States that agree still do after the same change. -/
theorem Sets.agreeOn {fields : List Field} {g : State → State} (hg : Sets fields g)
    (h : s.AgreeOn u t) : (g s).AgreeOn u (g t) :=
  fun f hf => hg.separate s t f (h f hf)

/-- Two outcomes are of one kind: both are there and related, or both are the same refusal. -/
inductive Parallel {α β : Type} (R : α → β → Prop) : Except Refusal α → Except Refusal β → Prop
  | done {a b} (h : R a b) : Parallel R (.ok a) (.ok b)
  | refused (e : Refusal) : Parallel R (.error e) (.error e)

/-- Two outcomes of a command answer alike and agree on a subsystem. -/
abbrev AnswersAgree (u : Subsystem) :
    Except Refusal (State × String) → Except Refusal (State × String) → Prop :=
  Parallel fun r r' => r.1.AgreeOn u r'.1 ∧ r.2 = r'.2

theorem Parallel.bind {x y : Except Refusal State} {k l : State → Except Refusal (State × String)}
    (h : Parallel (State.AgreeOn u) x y)
    (hk : ∀ a b : State, a.AgreeOn u b → AnswersAgree u (k a) (l b)) :
    AnswersAgree u (x >>= k) (y >>= l) := by
  cases h with
  | done h => exact hk _ _ h
  | refused e => exact .refused e

theorem parallel_checked {check : Except Refusal Unit} {f g : Unit → State}
    (h : (f ()).AgreeOn u (g ())) : Parallel (State.AgreeOn u) (check.map f) (check.map g) := by
  cases check with
  | ok => exact .done h
  | error e => exact .refused e

theorem parallel_withTarget {set : State → Float → Except Refusal State} {target : Option Float}
    (h : s.AgreeOn u t) (hset : ∀ x, Parallel (State.AgreeOn u) (set s x) (set t x)) :
    Parallel (State.AgreeOn u) (withTarget s set target) (withTarget t set target) := by
  cases target with
  | none => exact .done h
  | some x => exact hset x

/-! ### Motion -/

theorem checkBounds_agreeOn (h : s.AgreeOn .motion t) (p : Point) :
    s.checkBounds p = t.checkBounds p := by
  have hw : s.heatbed.width = t.heatbed.width := h .bedWidth rfl
  have hl : s.heatbed.length = t.heatbed.length := h .bedLength rfl
  have hz : s.extruder.maxZHeight = t.extruder.maxZHeight := h .maxZHeight rfl
  simp only [State.checkBounds, State.travelLimits, hw, hl, hz]

theorem moveTo_agreeOn (h : s.AgreeOn .motion t) (p : Point) :
    Parallel (State.AgreeOn .motion) (s.moveTo p) (t.moveTo p) := by
  have hp : s.paused = t.paused := h .paused rfl
  simp only [State.moveTo, hp, checkBounds_agreeOn h]
  split
  · exact .refused .paused
  · exact parallel_checked ((sets_put .position p).agreeOn h)

theorem axisTarget_agreeOn (h : s.AgreeOn .motion t) (word : Option Float) (current : Float) :
    axisTarget s word current = axisTarget t word current := by
  have hm : s.positioning = t.positioning := h .positioning rfl
  have hu : s.units = t.units := h .units rfl
  simp only [axisTarget, hm, hu]

theorem withFeedRate_agreeOn (h : s.AgreeOn .motion t) (rate : Option Float) :
    (withFeedRate s rate).AgreeOn .motion (withFeedRate t rate) := by
  cases rate with
  | none => exact h
  | some r =>
    by_cases hr : 0 < r
    · have hrate : r * s.units.scale = r * t.units.scale :=
        congrArg (fun units : Units => r * units.scale) (h .units rfl)
      simp only [withFeedRate, if_pos hr, hrate, State.setFeedRate]
      cases checkMagnitude "feed rate" (r * t.units.scale) with
      | ok => exact (sets_put .feedRate (r * t.units.scale)).agreeOn h
      | error => exact h
    · simpa only [withFeedRate, if_neg hr] using h

/-- A move and its feed rate. -/
theorem move_agreeOn (h : s.AgreeOn .motion t) (p : Point) (feedRate : Option Float)
    (answer : String) :
    AnswersAgree .motion (s.moveTo p >>= fun a => pure (withFeedRate a feedRate, answer))
      (t.moveTo p >>= fun b => pure (withFeedRate b feedRate, answer)) :=
  (moveTo_agreeOn h p).bind fun _ _ hab => .done ⟨withFeedRate_agreeOn hab feedRate, rfl⟩

/-! ### Commands -/

/-- **A command looks at the fields of its own subsystem alone**: where these are the same, it answers
the same, and they are the same afterwards. -/
theorem execute_agreeOn (hc : c.subsystem? = some u) (h : s.AgreeOn u t) (now : Time.Timestamp) :
    AnswersAgree u (execute now s c) (execute now t c) := by
  cases c with
  | reportSettings => cases hc
  | home =>
    cases hc
    refine (moveTo_agreeOn h _).bind fun a b hab => .done ⟨hab, ?_⟩
    have hp : a.position = b.position := hab .position rfl
    rw [hp]
  | moveLinear x y z feedRate =>
    cases hc
    have hp : s.position = t.position := h .position rfl
    simp only [execute, moveTarget, axisTarget_agreeOn h, hp]
    exact move_agreeOn h _ feedRate _
  | moveArc direction radius z feedRate =>
    cases hc
    have hp : s.position = t.position := h .position rfl
    have hu : s.units = t.units := h .units rfl
    simp only [execute, arcTarget, axisTarget_agreeOn h, hp, hu]
    exact move_agreeOn h _ feedRate _
  | setPosition x y z =>
    cases hc
    have hu : s.units = t.units := h .units rfl
    simp only [execute, State.setPosition, checkBounds_agreeOn h, hu]
    refine (parallel_checked ?_).bind fun a b hab => .done ⟨hab, rfl⟩
    exact (sets_put .position _).agreeOn h
  | setHotendTemp target =>
    cases hc
    refine (parallel_withTarget h fun x => ?_).bind fun a b hab => .done ⟨hab, rfl⟩
    exact parallel_checked ((sets_put .hotendTarget x).agreeOn h)
  | waitHotendTemp target =>
    cases hc
    refine (parallel_withTarget h fun x => ?_).bind fun a b hab => ?_
    · exact parallel_checked ((sets_put .hotendTarget x).agreeOn h)
    · have hnow : a.extruder.temperature = b.extruder.temperature := hab .hotendTemperature rfl
      have hgoal : a.extruder.targetTemperature = b.extruder.targetTemperature :=
        hab .hotendTarget rfl
      simp only [hnow, hgoal]
      split <;> exact .done ⟨hab, rfl⟩
  | setBedTemp target =>
    cases hc
    refine (parallel_withTarget h fun x => ?_).bind fun a b hab => .done ⟨hab, rfl⟩
    exact parallel_checked ((sets_bedTarget x).agreeOn h)
  | waitBedTemp target =>
    cases hc
    refine (parallel_withTarget h fun x => ?_).bind fun a b hab => ?_
    · exact parallel_checked ((sets_bedTarget x).agreeOn h)
    · have hnow : a.heatbed.temperature = b.heatbed.temperature := hab .bedTemperature rfl
      have hgoal : a.heatbed.targetTemperature = b.heatbed.targetTemperature := hab .bedTarget rfl
      simp only [hnow, hgoal]
      split
      · exact .done ⟨hab, rfl⟩
      · exact .done ⟨(sets_put .bedHeating false).agreeOn hab, rfl⟩
  | setAuxTemp target =>
    cases hc
    refine (parallel_withTarget h fun x => ?_).bind fun a b hab => .done ⟨hab, ?_⟩
    · exact parallel_checked ((sets_put .auxTarget x).agreeOn h)
    · have hgoal : a.auxTargetTemperature = b.auxTargetTemperature := hab .auxTarget rfl
      rw [hgoal]
  | setFan speed =>
    refine (parallel_checked ?_).bind fun a b hab => .done ⟨hab, rfl⟩
    exact (sets_put .fanSpeed speed).agreeOn h
  | fanOff =>
    refine (parallel_checked ?_).bind fun a b hab => .done ⟨hab, rfl⟩
    exact (sets_put .fanSpeed (0 : Float)).agreeOn h
  | setAccel acceleration =>
    refine (parallel_checked ?_).bind fun a b hab => .done ⟨hab, rfl⟩
    exact (sets_put .acceleration acceleration).agreeOn h
  | setLinearAdvance factor =>
    refine (parallel_checked ?_).bind fun a b hab => .done ⟨hab, rfl⟩
    exact (sets_put .linearAdvance factor).agreeOn h
  | setProgress percent minutes =>
    cases hc
    refine (parallel_checked ?_).bind fun a b hab => .done ⟨hab, ?_⟩
    · exact (sets_progress percent.toUInt8 minutes).agreeOn h
    · have hp : a.progress = b.progress := hab .progress rfl
      have hm : a.remainingMinutes = b.remainingMinutes := hab .remainingMinutes rfl
      simp only [progressText, hp, hm]
  | setPositioning mode => exact .done ⟨(sets_put .positioning mode).agreeOn h, rfl⟩
  | setExtruderPositioning mode => exact .done ⟨(sets_put .extruderPositioning mode).agreeOn h, rfl⟩
  | setUnits units => exact .done ⟨(sets_put .units units).agreeOn h, rfl⟩
  | coldExtrusion allowed => exact .done ⟨(sets_put .coldExtrusion allowed).agreeOn h, rfl⟩
  | motorEnable motors => exact .done ⟨(sets_enableMotors motors).agreeOn h, rfl⟩
  | motorDisable motors => exact .done ⟨(sets_disableMotors motors).agreeOn h, rfl⟩
  | emergencyStop => exact .done ⟨(sets_put .paused true).agreeOn h, rfl⟩
  | pause =>
    cases hc
    have hp : s.paused = t.paused := h .paused rfl
    exact .done ⟨(sets_put .paused true).agreeOn h, by simp only [hp]⟩
  | resume =>
    cases hc
    have hp : s.paused = t.paused := h .paused rfl
    exact .done ⟨(sets_put .paused false).agreeOn h, by simp only [hp]⟩
  | keepalive => exact .done ⟨(sets_put .lastKeepalive (some now)).agreeOn h, rfl⟩
  | reportPosition =>
    cases hc
    have hp : s.position = t.position := h .position rfl
    exact .done ⟨h, by simp only [hp]⟩
  | reportProgress =>
    cases hc
    have hp : s.progress = t.progress := h .progress rfl
    have hm : s.remainingMinutes = t.remainingMinutes := h .remainingMinutes rfl
    exact .done ⟨h, by simp only [progressText, hp, hm]⟩
  | reportMachine =>
    cases hc
    have hi : s.info = t.info := h .info rfl
    exact .done ⟨h, by simp only [hi]⟩
  | dwell | reportFirmware | periodicTelemetry => exact .done ⟨h, rfl⟩

end VirtualPrinter.Machine
