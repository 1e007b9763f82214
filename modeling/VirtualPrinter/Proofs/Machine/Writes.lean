import VirtualPrinter.Machine.Execution
import VirtualPrinter.Proofs.Outcome

/-!
# Commands write by write

A command may write more than once: a move is followed by its feed rate, a bed that has reached its
target is no longer heating.  Nothing is undone, so a command that is refused half-way would leave
what it has written before.  Here every command is told as the list of its writes, each of them
checked when its turn comes, with what has been written staying there; and it turns out that no
command is refused after a write.

## Main definitions

* `Machine.Write`: a checked write, and whether its refusal stops the command.
* `Machine.writes`: the writes of a command, in their order.
* `Write.run`, `Write.refusals`: what a list of writes does in place, and the refusals it meets.

## Main results

* `run_writes`: in place, a command does what `execute` says, and one that is refused leaves the
  state as it was.
-/

namespace VirtualPrinter.Machine

open Gcode (Command)
open Outcome (map_eq_ok_iff)

/-! ### Writes -/

/-- A checked write. -/
structure Write where
  set : State → Except Refusal State
  /-- The command goes on when this write is refused. -/
  lenient : Bool

namespace Write

/-- A write that stops the command when it is refused. -/
def strict (set : State → Except Refusal State) : Write := ⟨set, false⟩

/-- A write that is never refused. -/
def free (set : State → State) : Write := ⟨fun s => .ok (set s), false⟩

/-- What writes do in place, one after the other: the refusal that stops them, and the state that
they leave. -/
def run : List Write → State → Option Refusal × State
  | [], s => (none, s)
  | w :: rest, s =>
    match w.set s with
    | .ok t => run rest t
    | .error e => if w.lenient then run rest s else (some e, s)

/-- All refusals that writes meet, also those that do not stop them. -/
def refusals : List Write → State → List Refusal
  | [], _ => []
  | w :: rest, s =>
    match w.set s with
    | .ok t => refusals rest t
    | .error e => e :: if w.lenient then refusals rest s else []

end Write

/-- The target of a heater, if one is given. -/
def targetWrite (set : State → Float → Except Refusal State) : Option Float → List Write
  | some target => [.strict (set · target)]
  | none => []

/-- The feed rate of a move, if a positive one is given.  The move is not undone for it. -/
def feedRateWrite (s : State) : Option Float → List Write
  | some rate => if 0 < rate then [⟨(·.setFeedRate (rate * s.units.scale)), true⟩] else []
  | none => []

/-- The writes of a command, in their order; the state is the one that the command finds. -/
def writes (now : Time.Timestamp) (s : State) : Command → List Write
  | .home => [.strict (·.moveTo .origin)]
  | .moveLinear x y z feedRate =>
    .strict (·.moveTo (moveTarget s x y z)) :: feedRateWrite s feedRate
  | .moveArc direction radius z feedRate =>
    .strict (·.moveTo (arcTarget s direction radius z)) :: feedRateWrite s feedRate
  | .setPositioning mode => [.free (·.setPositioning mode)]
  | .setExtruderPositioning mode => [.free (·.setExtruderPositioning mode)]
  | .setUnits units => [.free (·.setUnits units)]
  | .setPosition x y z =>
    let scale := s.units.scale
    [.strict (·.setPosition ⟨x.getD 0 * scale, y.getD 0 * scale, z.getD 0 * scale⟩)]
  | .setHotendTemp target | .waitHotendTemp target => targetWrite State.setHotendTarget target
  | .setBedTemp target => targetWrite State.setBedTarget target
  | .waitBedTemp target =>
    targetWrite State.setBedTarget target ++ [.free fun s =>
      if s.heatbed.temperature < s.heatbed.targetTemperature then s else s.setBedHeating false]
  | .setAuxTemp target => targetWrite State.setAuxTarget target
  | .coldExtrusion allowed => [.free (·.setColdExtrusion allowed)]
  | .setFan speed => [.strict (·.setFanSpeed speed)]
  | .fanOff => [.strict (·.setFanSpeed 0)]
  | .motorEnable motors => [.free (·.enableMotors motors)]
  | .motorDisable motors => [.free (·.disableMotors motors)]
  | .setAccel acceleration => [.strict (·.setAcceleration acceleration)]
  | .setLinearAdvance factor => [.strict (·.setLinearAdvance factor)]
  | .setProgress percent minutes => [.strict (·.setProgress percent minutes)]
  | .emergencyStop | .pause => [.free State.pause]
  | .resume => [.free State.resume]
  | .keepalive => [.free (·.touchKeepalive now)]
  | .dwell _ | .reportPosition | .reportFirmware | .reportSettings | .reportProgress
  | .reportMachine | .periodicTelemetry _ => []

/-! ### Writes in place -/

namespace Write

variable {s t : State} {e : Refusal}

theorem run_strict_ok (set : State → Except Refusal State) (rest : List Write) (h : set s = .ok t) :
    run (strict set :: rest) s = run rest t := by
  simp only [run, strict, h]

/-- A refusal that stops a command leaves what has been written so far. -/
theorem run_strict_error (set : State → Except Refusal State) (rest : List Write)
    (h : set s = .error e) : run (strict set :: rest) s = (some e, s) := by
  simp only [run, strict, h, Bool.false_eq_true, if_false]

@[simp] theorem run_free (f : State → State) (rest : List Write) (s : State) :
    run (free f :: rest) s = run rest (f s) := rfl

@[simp] theorem run_nil (s : State) : run [] s = (none, s) := rfl

end Write

variable {s t u : State}

@[simp] theorem withPosition_units (s : State) (p : Point) : (s.withPosition p).units = s.units :=
  rfl

/-- A head that has moved understands units as before. -/
theorem moveTo_units {p : Point} (h : s.moveTo p = .ok t) : t.units = s.units := by
  unfold State.moveTo at h
  split at h
  · cases h
  · obtain ⟨_, -, rfl⟩ := map_eq_ok_iff.mp h
    rfl

/-- The feed rate of a move stops nothing. -/
theorem run_feedRateWrite (hu : t.units = s.units) (rate : Option Float) :
    Write.run (feedRateWrite s rate) t = (none, withFeedRate t rate) := by
  cases rate with
  | none => rfl
  | some rate =>
    by_cases hr : 0 < rate
    · simp only [feedRateWrite, withFeedRate, if_pos hr, hu, Write.run]
      cases t.setFeedRate (rate * s.units.scale) <;> rfl
    · simp only [feedRateWrite, withFeedRate, if_neg hr, Write.run]

/-- The outcome of a command in place: a refusal with the state as it was, or the state after it. -/
def settled (s : State) (x : Except Refusal (State × String)) : Option Refusal × State :=
  match x with
  | .ok (t, _) => (none, t)
  | .error e => (some e, s)

/-- A command of one checked write, whatever it answers. -/
theorem run_answer (s : State) (set : State → Except Refusal State) (tell : State → String) :
    Write.run [.strict set] s = settled s (set s >>= fun t => pure (t, tell t)) := by
  cases h : set s with
  | error e => exact Write.run_strict_error set [] h
  | ok t => exact Write.run_strict_ok set [] h

/-- A move, and its feed rate behind it. -/
theorem run_move {p : Point} {feedRate : Option Float} {answer : String} :
    Write.run (.strict (·.moveTo p) :: feedRateWrite s feedRate) s =
      settled s (s.moveTo p >>= fun t => pure (withFeedRate t feedRate, answer)) := by
  cases h : s.moveTo p with
  | error e => exact Write.run_strict_error (·.moveTo p) _ h
  | ok t =>
    have hmove := Write.run_strict_ok (·.moveTo p) (feedRateWrite s feedRate) h
    rw [hmove, run_feedRateWrite (moveTo_units h)]
    rfl

/-- A target, and whatever is done behind it without a check. -/
theorem run_target (s : State) (set : State → Float → Except Refusal State) (target : Option Float)
    {finish : State → State} (tell : State → State × String) (hf : ∀ t, (tell t).1 = finish t) :
    Write.run (targetWrite set target ++ [.free finish]) s =
      settled s (withTarget s set target >>= fun t => pure (tell t)) := by
  have hdone (t : State) : Write.run [.free finish] t = settled s (pure (tell t)) := by
    rw [Write.run_free, Write.run_nil, ← hf]
    rfl
  cases target with
  | none => exact hdone s
  | some target =>
    cases h : set s target with
    | error e =>
      simp only [withTarget, h]
      exact Write.run_strict_error (set · target) _ h
    | ok t =>
      simp only [withTarget, h]
      exact (Write.run_strict_ok (set · target) _ h).trans (hdone t)

/-- A target with nothing done behind it. -/
theorem run_targetWrite (s : State) (set : State → Float → Except Refusal State)
    (target : Option Float) (tell : State → String) :
    Write.run (targetWrite set target) s =
      settled s (withTarget s set target >>= fun t => pure (t, tell t)) := by
  cases target with
  | none => rfl
  | some target => exact run_answer s (set · target) tell

/-- **A refused command has written nothing**: write by write, with nothing undone, a command leaves
the state that `execute` tells, and one that is refused leaves the state that it found. -/
theorem run_writes (now : Time.Timestamp) (s : State) (c : Command) :
    Write.run (writes now s c) s = settled s (execute now s c) := by
  cases c with
  | home | setPosition | setFan | fanOff | setAccel | setLinearAdvance | setProgress =>
    exact run_answer s _ _
  | moveLinear x y z feedRate => exact run_move
  | moveArc direction radius z feedRate => exact run_move
  | setHotendTemp target | setBedTemp target | setAuxTemp target => exact run_targetWrite s _ target _
  | waitHotendTemp target =>
    -- only the answer depends on whether the hotend is on its way
    refine (run_targetWrite s State.setHotendTarget target fun t =>
      if t.extruder.temperature < t.extruder.targetTemperature then
        heatingText "T" t.extruder.temperature t.extruder.targetTemperature
      else okay).trans (congrArg (settled s) ?_)
    refine congrArg (withTarget s State.setHotendTarget target >>= ·) (funext fun t => ?_)
    split <;> rfl
  | waitBedTemp target =>
    refine (run_target s State.setBedTarget target (fun t =>
      if t.heatbed.temperature < t.heatbed.targetTemperature then
        (t, heatingText "B" t.heatbed.temperature t.heatbed.targetTemperature)
      else (t.setBedHeating false, okay)) fun t => ?_).trans (congrArg (settled s) ?_)
    · exact apply_ite Prod.fst _ _ _
    · refine congrArg (withTarget s State.setBedTarget target >>= ·) (funext fun t => ?_)
      split <;> rfl
  | setPositioning | setExtruderPositioning | setUnits | coldExtrusion | motorEnable | motorDisable
  | emergencyStop | pause | resume | keepalive | dwell | reportPosition | reportFirmware
  | reportSettings | reportProgress | reportMachine | periodicTelemetry => rfl

end VirtualPrinter.Machine
