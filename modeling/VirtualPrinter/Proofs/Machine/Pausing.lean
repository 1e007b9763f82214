import VirtualPrinter.Proofs.Machine.Answers

/-!
# What a pause stops

A pause stops the operations that move the head, whatever they ask for, and nothing else looks at it:
a command that neither moves the head nor says whether the printer is paused does the same on a
paused printer and on one that is not, and leaves the flag alone.

## Main definitions

* `State.withPaused`: the same printer, paused or not.
* `Opcode.setsPause`: the operations that say whether the printer is paused.

## Main results

* `execute_eq_paused_iff`: which commands a pause refuses.
* `execute_withPaused`: the others do not depend on it.
* `execute_position`: what can change the position.
-/

namespace VirtualPrinter.Gcode

/-- The operations that say whether the printer is paused. -/
def Opcode.setsPause : Opcode → Bool
  | .pause | .resume | .emergencyStop => true
  | _ => false

end VirtualPrinter.Gcode

namespace VirtualPrinter.Machine

open Gcode (Command)
open Outcome (map_eq_ok_iff bind_eq_ok_iff)

/-- The same printer, paused or not. -/
def State.withPaused (s : State) (paused : Bool) : State := { s with paused := paused }

variable {s t : State} {now : Time.Timestamp} {c : Command} {answer : String}

@[simp] theorem State.withPaused_paused (s : State) (b : Bool) : (s.withPaused b).paused = b := rfl

@[simp] theorem State.withPaused_position (s : State) (b : Bool) :
    (s.withPaused b).position = s.position := rfl

@[simp] theorem State.withPaused_self (s : State) : s.withPaused s.paused = s := rfl

/-! ### Refusals of a pause -/

theorem checkRange_ne_paused {quantity : String} {value max : Float} :
    checkRange quantity value max ≠ .error .paused := by
  unfold checkRange
  split <;> nofun

theorem checkMagnitude_ne_paused {quantity : String} {value : Float} :
    checkMagnitude quantity value ≠ .error .paused := by
  unfold checkMagnitude
  split <;> nofun

theorem checkAxis_ne_paused {axis : Char} {value max : Float} :
    State.checkAxis axis value max ≠ .error .paused := by
  unfold State.checkAxis
  split <;> nofun

/-- A computation is refused by its first part, or by what follows it. -/
theorem bind_ne_error {α β : Type} {x : Except Refusal α} {f : α → Except Refusal β} {e : Refusal}
    (hx : x ≠ .error e) (hf : ∀ a, f a ≠ .error e) : (x >>= f) ≠ .error e := by
  cases x with
  | error e' =>
    intro h
    cases h
    exact hx rfl
  | ok a => exact hf a

theorem map_ne_error {α β : Type} {x : Except Refusal α} {f : α → β} {e : Refusal}
    (hx : x ≠ .error e) : x.map f ≠ .error e := by
  cases x with
  | error e' =>
    intro h
    cases h
    exact hx rfl
  | ok a => nofun

/-- A point outside of the travel volume is not what a pause is about. -/
theorem checkBounds_ne_paused (p : Point) : s.checkBounds p ≠ .error .paused :=
  bind_ne_error checkAxis_ne_paused fun _ =>
    bind_ne_error checkAxis_ne_paused fun _ => checkAxis_ne_paused

theorem moveTo_of_paused (h : s.paused) (p : Point) : s.moveTo p = .error .paused := by
  rw [State.moveTo, if_pos h]

theorem moveTo_ne_paused (h : s.paused = false) (p : Point) : s.moveTo p ≠ .error .paused := by
  rw [State.moveTo, if_neg (by simp [h])]
  exact map_ne_error (checkBounds_ne_paused p)

theorem withTarget_ne_paused {set : State → Float → Except Refusal State} {target : Option Float}
    (hset : ∀ target, set s target ≠ .error .paused) : withTarget s set target ≠ .error .paused := by
  cases target with
  | none => nofun
  | some target => exact hset target

/-- A command that sets something and tells about it is refused as the setter is. -/
theorem answer_ne_paused {x : Except Refusal State} {tell : State → String}
    (hx : x ≠ .error .paused) :
    (x >>= fun u => pure (u, tell u) : Except Refusal (State × String)) ≠ .error .paused :=
  bind_ne_error hx fun _ => nofun

/-- A paused printer refuses to move, whatever the parameters are. -/
theorem execute_of_paused (h : s.paused) (hc : c.opcode.isMotion) :
    execute now s c = .error .paused := by
  cases c with
  | home => simp only [execute, moveTo_of_paused h]; rfl
  | moveLinear x y z feedRate => simp only [execute, moveTo_of_paused h]; rfl
  | moveArc direction radius z feedRate => simp only [execute, moveTo_of_paused h]; rfl
  | setPositioning mode | setExtruderPositioning mode | setUnits mode => cases mode <;> cases hc
  | _ => cases hc

/-- Nothing else is refused for a pause. -/
theorem execute_ne_paused (h : s.paused → c.opcode.isMotion = false) :
    execute now s c ≠ .error .paused := by
  have hmove (hm : c.opcode.isMotion) (p : Point) : s.moveTo p ≠ .error .paused := by
    refine moveTo_ne_paused (Bool.eq_false_iff.mpr fun hs => ?_) p
    rw [h hs] at hm
    cases hm
  cases c with
  | home => exact answer_ne_paused (hmove rfl _)
  | moveLinear x y z feedRate => exact bind_ne_error (hmove rfl _) fun _ => nofun
  | moveArc direction radius z feedRate =>
    exact bind_ne_error (hmove (by cases direction <;> rfl) _) fun _ => nofun
  | setPosition x y z => exact answer_ne_paused (map_ne_error (checkBounds_ne_paused _))
  | setHotendTemp target | setBedTemp target | setAuxTemp target =>
    exact answer_ne_paused (withTarget_ne_paused fun _ => map_ne_error checkRange_ne_paused)
  | waitHotendTemp target | waitBedTemp target =>
    refine bind_ne_error (withTarget_ne_paused fun _ => map_ne_error checkRange_ne_paused)
      fun u => ?_
    split <;> nofun
  | setFan | fanOff | setProgress => exact answer_ne_paused (map_ne_error checkRange_ne_paused)
  | setAccel | setLinearAdvance => exact answer_ne_paused (map_ne_error checkMagnitude_ne_paused)
  | setPositioning | setExtruderPositioning | setUnits | coldExtrusion | motorEnable | motorDisable
  | emergencyStop | pause | resume | keepalive | dwell | reportPosition | reportFirmware
  | reportSettings | reportProgress | reportMachine | periodicTelemetry => nofun

/-- **A pause refuses the operations that move the head, and no other.** -/
theorem execute_eq_paused_iff (now : Time.Timestamp) :
    execute now s c = .error .paused ↔ s.paused ∧ c.opcode.isMotion := by
  constructor
  · intro h
    cases hc : c.opcode.isMotion with
    | false => exact absurd h (execute_ne_paused fun _ => hc)
    | true =>
      cases hs : s.paused with
      | false => exact absurd h (execute_ne_paused fun ht => absurd ht (by simp [hs]))
      | true => exact ⟨rfl, rfl⟩
  · rintro ⟨hs, hc⟩
    exact execute_of_paused hs hc

/-- The refusal of a pause is told from the others by its text. -/
theorem message_eq_paused_iff (e : Refusal) : e.message = "printer is paused" ↔ e = .paused := by
  constructor
  · intro h
    cases e with
    | paused => rfl
    | outOfRange quantity value min max =>
      have hstart : differ "invalid ".toList "printer is paused".toList := by decide
      dsimp only [Refusal.message] at h
      simp only [String.append_assoc] at h
      exact absurd h (append_ne_of_differ hstart _)
    | outOfBounds axis value max =>
      have hstart : differ "move out of bounds: ".toList "printer is paused".toList := by decide
      dsimp only [Refusal.message] at h
      simp only [String.append_assoc] at h
      exact absurd h (append_ne_of_differ hstart _)
    | negative quantity value =>
      -- the quantity may be anything, so that these two are told apart by their ends
      have hclose : ")".toList.getLast? = some ')' := by decide
      have hlast : "printer is paused".toList.getLast? = some 'd' := by decide
      have hend := congrArg (fun text => text.toList.getLast?) h
      dsimp only [Refusal.message] at hend
      simp only [String.toList_append, List.getLast?_append, hlast] at hend
      rw [hclose] at hend
      cases hend
  · rintro rfl
    rfl

/-! ### Commands that do not look at the pause -/

/-- The outcome of a command, with a change of the state that it leaves. -/
def outcomeWith (g : State → State) (r : State × String) : State × String := (g r.1, r.2)

section Unseen

variable {g : State → State}

/-- A checked setter does not see a change, if the check does not and the change can be made behind
the setter as well. -/
theorem checked_unseen {check : Except Refusal Unit} {f f' : Unit → State}
    (h : ∀ u, f' u = g (f u)) : check.map f' = (check.map f).map g := by
  cases check with
  | error e => rfl
  | ok u => exact congrArg Except.ok (h u)

theorem withTarget_unseen {set : State → Float → Except Refusal State} {target : Option Float}
    (hset : ∀ target, set (g s) target = (set s target).map g) :
    withTarget (g s) set target = (withTarget s set target).map g := by
  cases target with
  | none => rfl
  | some target => exact hset target

/-- What follows a setter does not see a change, if no outcome of the setter makes it see it. -/
theorem bind_unseen {x y : Except Refusal State} {k l : State → Except Refusal (State × String)}
    (hx : y = x.map g) (hk : ∀ u, l (g u) = (k u).map (outcomeWith g)) :
    (y >>= l) = (x >>= k).map (outcomeWith g) := by
  subst hx
  cases x with
  | error e => rfl
  | ok u => exact hk u

end Unseen

/-- Commands that neither move the head nor say whether the printer is paused answer and do the same,
paused or not, and leave the flag alone. -/
theorem execute_withPaused (now : Time.Timestamp) (hm : c.opcode.isMotion = false)
    (hp : c.opcode.setsPause = false) (b : Bool) :
    execute now (s.withPaused b) c = (execute now s c).map (outcomeWith (·.withPaused b)) := by
  cases c with
  | home | moveLinear => cases hm
  | moveArc direction => cases direction <;> cases hm
  | emergencyStop | pause | resume => cases hp
  | setPosition x y z => exact bind_unseen (checked_unseen fun _ => rfl) fun _ => rfl
  | setHotendTemp target | setBedTemp target | setAuxTemp target =>
    refine bind_unseen (withTarget_unseen (g := (·.withPaused b)) fun _ => ?_) fun _ => rfl
    exact checked_unseen fun _ => rfl
  | waitHotendTemp target | waitBedTemp target =>
    refine bind_unseen (withTarget_unseen (g := (·.withPaused b)) fun _ => ?_) fun u => ?_
    · exact checked_unseen fun _ => rfl
    -- neither of the two temperatures depends on the pause
    · dsimp only [State.withPaused]
      split <;> rfl
  | setFan | fanOff | setProgress | setAccel | setLinearAdvance =>
    exact bind_unseen (checked_unseen fun _ => rfl) fun _ => rfl
  | setPositioning | setExtruderPositioning | setUnits | coldExtrusion | motorEnable | motorDisable
  | keepalive | dwell | reportPosition | reportFirmware | reportSettings | reportProgress
  | reportMachine | periodicTelemetry => rfl

/-- Only one operation lifts a pause. -/
theorem execute_paused (hs : s.paused) (hr : c.opcode ≠ .resume)
    (h : execute now s c = .ok (t, answer)) : t.paused := by
  cases hm : c.opcode.isMotion with
  | true =>
    rw [execute_of_paused hs hm] at h
    cases h
  | false =>
    cases hp : c.opcode.setsPause with
    | true =>
      cases c with
      | emergencyStop | pause =>
        cases h
        rfl
      | resume => exact absurd rfl hr
      | setPositioning mode | setExtruderPositioning mode | setUnits mode => cases mode <;> cases hp
      | moveArc direction => cases direction <;> cases hp
      | _ => cases hp
    | false =>
      -- the printer is paused, so that setting the flag leaves it as it is
      have hself : s.withPaused true = s := by rw [← hs, State.withPaused_self]
      have hflag := execute_withPaused (s := s) now hm hp true
      rw [hself, h] at hflag
      have ht : t = t.withPaused true := congrArg Prod.fst (Except.ok.inj hflag)
      rw [ht]
      rfl

/-! ### What changes the position -/

/-- A checked setter leaves the position alone if what it sets does. -/
theorem checked_position {check : Except Refusal Unit} {f : Unit → State}
    (h : check.map f = .ok t) (hf : ∀ u, (f u).position = s.position) : t.position = s.position := by
  obtain ⟨u, -, rfl⟩ := map_eq_ok_iff.mp h
  exact hf u

theorem withTarget_position {set : State → Float → Except Refusal State} {target : Option Float}
    (hset : ∀ {target t}, set s target = .ok t → t.position = s.position)
    (h : withTarget s set target = .ok t) : t.position = s.position := by
  cases target with
  | none => cases h; rfl
  | some target => exact hset h

theorem position_of_answer {x : Except Refusal State} {tell : State → String}
    (hx : ∀ {u}, x = .ok u → u.position = s.position)
    (h : (x >>= fun u => pure (u, tell u)) = .ok (t, answer)) : t.position = s.position := by
  obtain ⟨u, hu, ht⟩ := bind_eq_ok_iff.mp h
  cases ht
  exact hx hu

/-- The position changes by a move, or by being told. -/
theorem execute_position (hm : c.opcode.isMotion = false) (hp : c.opcode ≠ .setPosition)
    (h : execute now s c = .ok (t, answer)) : t.position = s.position := by
  cases c with
  | home | moveLinear => cases hm
  | moveArc direction => cases direction <;> cases hm
  | setPosition => exact absurd rfl hp
  | setHotendTemp target | setBedTemp target | setAuxTemp target =>
    refine position_of_answer (withTarget_position fun hu => ?_) h
    exact checked_position hu fun _ => rfl
  | waitHotendTemp target | waitBedTemp target =>
    obtain ⟨u, hu, ht⟩ := bind_eq_ok_iff.mp h
    have hpos : u.position = s.position := by
      refine withTarget_position (fun hset => ?_) hu
      exact checked_position hset fun _ => rfl
    split at ht <;> cases ht <;> exact hpos
  | setFan | fanOff | setProgress | setAccel | setLinearAdvance =>
    refine position_of_answer (fun hu => ?_) h
    exact checked_position hu fun _ => rfl
  | setPositioning | setExtruderPositioning | setUnits | coldExtrusion | motorEnable | motorDisable
  | emergencyStop | pause | resume | keepalive | dwell | reportPosition | reportFirmware
  | reportSettings | reportProgress | reportMachine | periodicTelemetry =>
    cases h
    rfl

end VirtualPrinter.Machine
