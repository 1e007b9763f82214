import VirtualPrinter.Proofs.Machine.Pausing

/-!
# Signs of life

A printer notes when it has last given a sign of life, and nothing that it does depends on that time,
nor on the time of day: two printers that differ in nothing else answer alike and stay alike.

## Main definitions

* `State.withKeepalive`: the same printer with another last sign of life.
* `State.Akin`: the same printer, apart from its last sign of life.

## Main results

* `execute_akin`: such printers do and answer the same, at any two times of day.
-/

namespace VirtualPrinter.Machine

open Gcode (Command)

/-- The same printer with another last sign of life. -/
def State.withKeepalive (s : State) (time : Option Time.Timestamp) : State :=
  { s with lastKeepalive := time }

/-- The same printer, apart from its last sign of life. -/
def State.Akin (s t : State) : Prop := t = s.withKeepalive t.lastKeepalive

namespace State.Akin

variable {s t u : State}

theorem refl (s : State) : s.Akin s := rfl

theorem symm (h : s.Akin t) : t.Akin s := by
  unfold State.Akin at h ⊢
  rw [h]
  rfl

theorem trans (h : s.Akin t) (h' : t.Akin u) : s.Akin u := by
  unfold State.Akin at h h' ⊢
  rw [h', h]
  rfl

theorem withKeepalive (s : State) (time : Option Time.Timestamp) : s.Akin (s.withKeepalive time) :=
  rfl

end State.Akin

variable {s t : State} {c : Command} {time : Option Time.Timestamp}

/-! ### One printer -/

/-- A move does not depend on the last sign of life. -/
theorem moveTo_withKeepalive (s : State) (time : Option Time.Timestamp) (p : Point) :
    (s.withKeepalive time).moveTo p = (s.moveTo p).map (·.withKeepalive time) := by
  cases h : s.paused with
  | true =>
    rw [moveTo_of_paused h, moveTo_of_paused (s := s.withKeepalive time) h]
    rfl
  | false =>
    have h' : (s.withKeepalive time).paused = false := h
    simp only [State.moveTo, h, h', Bool.false_eq_true, if_false]
    exact checked_unseen fun _ => rfl

/-- Nor does a feed rate. -/
theorem withFeedRate_withKeepalive (s : State) (time : Option Time.Timestamp)
    (rate : Option Float) :
    withFeedRate (s.withKeepalive time) rate = (withFeedRate s rate).withKeepalive time := by
  cases rate with
  | none => rfl
  | some r =>
    by_cases hr : 0 < r
    · have hset : (s.withKeepalive time).setFeedRate (r * (s.withKeepalive time).units.scale) =
          (s.setFeedRate (r * s.units.scale)).map (·.withKeepalive time) :=
        checked_unseen fun _ => rfl
      simp only [withFeedRate, if_pos hr, hset]
      cases s.setFeedRate (r * s.units.scale) <;> rfl
    · simp only [withFeedRate, if_neg hr]

/-- A move and its feed rate. -/
theorem move_withKeepalive (s : State) (p : Point) (feedRate : Option Float) (answer : String) :
    ((s.withKeepalive time).moveTo p >>= fun t => pure (withFeedRate t feedRate, answer)) =
      (s.moveTo p >>= fun t => pure (withFeedRate t feedRate, answer)).map
        (outcomeWith (·.withKeepalive time)) := by
  refine bind_unseen (moveTo_withKeepalive s time p) fun u => ?_
  rw [withFeedRate_withKeepalive]
  rfl

/-- Only the instruction for it touches the last sign of life, and none looks at it or at the time of
day. -/
theorem execute_withKeepalive (now now' : Time.Timestamp) (time : Option Time.Timestamp)
    (hc : c ≠ .keepalive) :
    execute now (s.withKeepalive time) c =
      (execute now' s c).map (outcomeWith (·.withKeepalive time)) := by
  cases c with
  | keepalive => exact absurd rfl hc
  | home => exact bind_unseen (moveTo_withKeepalive s time _) fun _ => rfl
  | moveLinear x y z feedRate => exact move_withKeepalive s _ feedRate _
  | moveArc direction radius z feedRate => exact move_withKeepalive s _ feedRate _
  | setPosition x y z => exact bind_unseen (checked_unseen fun _ => rfl) fun _ => rfl
  | setHotendTemp target | setBedTemp target | setAuxTemp target =>
    refine bind_unseen (withTarget_unseen (g := (·.withKeepalive time)) fun _ => ?_) fun _ => rfl
    exact checked_unseen fun _ => rfl
  | waitHotendTemp target | waitBedTemp target =>
    refine bind_unseen (withTarget_unseen (g := (·.withKeepalive time)) fun _ => ?_) fun u => ?_
    · exact checked_unseen fun _ => rfl
    · dsimp only [State.withKeepalive]
      split <;> rfl
  | setFan | fanOff | setProgress | setAccel | setLinearAdvance =>
    exact bind_unseen (checked_unseen fun _ => rfl) fun _ => rfl
  | setPositioning | setExtruderPositioning | setUnits | coldExtrusion | motorEnable | motorDisable
  | emergencyStop | pause | resume | dwell | reportPosition | reportFirmware | reportSettings
  | reportProgress | reportMachine | periodicTelemetry => rfl

/-! ### Two printers -/

/-- Two outcomes are the same, apart from the last sign of life. -/
inductive OutcomeAkin : Except Refusal (State × String) → Except Refusal (State × String) → Prop
  | done {s t answer} (h : s.Akin t) : OutcomeAkin (.ok (s, answer)) (.ok (t, answer))
  | refused (e : Refusal) : OutcomeAkin (.error e) (.error e)

/-- **Neither the time of day nor the last sign of life makes a difference** to what a command does
and answers. -/
theorem execute_akin (h : s.Akin t) (now now' : Time.Timestamp) (c : Command) :
    OutcomeAkin (execute now s c) (execute now' t c) := by
  rw [h]
  by_cases hc : c = .keepalive
  · subst hc
    -- each notes its own time, and answers the same
    exact .done rfl
  · rw [execute_withKeepalive now' now t.lastKeepalive hc]
    cases execute now s c with
    | error e => exact .refused e
    | ok r => exact .done (.withKeepalive r.1 _)

end VirtualPrinter.Machine
