import VirtualPrinter.Proofs.Machine.Writes
import VirtualPrinter.Proofs.Service.Instruction

/-!
# What no instruction writes

The identity of a printer and its free properties are told to it when it is built.  No write of any
command touches them, so they stay as they are along every script.

## Main definitions

* `State.SameProperties`: the same identity and the same free properties.
* `Write.Spares`: a write that leaves them alone.

## Main results

* `spares_writes`: no write of a command touches them.
* `execute_sameProperties`: neither does a line.
-/

namespace VirtualPrinter.Machine

open Gcode (Command)
open Outcome (map_eq_ok_iff)

/-- The same identity and the same free properties. -/
structure State.SameProperties (s t : State) : Prop where
  info : t.info = s.info
  attributes : t.attributes = s.attributes
  data : t.data = s.data

namespace State.SameProperties

variable {s t u : State}

theorem refl (s : State) : s.SameProperties s := ⟨rfl, rfl, rfl⟩

theorem trans (h : s.SameProperties t) (k : t.SameProperties u) : s.SameProperties u :=
  ⟨k.info.trans h.info, k.attributes.trans h.attributes, k.data.trans h.data⟩

end State.SameProperties

namespace Write

/-- A write that leaves identity and free properties alone. -/
def Spares (w : Write) : Prop := ∀ s t, w.set s = .ok t → s.SameProperties t

theorem spares_free {f : State → State} (h : ∀ s : State, s.SameProperties (f s)) : (free f).Spares := by
  rintro s t ⟨⟩
  exact h s

/-- A write that checks its value and sets something else. -/
theorem spares_checked {check : State → Except Refusal Unit} {f : State → State} {lenient : Bool}
    (h : ∀ s : State, s.SameProperties (f s)) :
    Spares ⟨fun s => (check s).map fun _ => f s, lenient⟩ := by
  intro s t hw
  obtain ⟨_, -, rfl⟩ := map_eq_ok_iff.mp hw
  exact h s

theorem spares_moveTo (p : State → Point) : (strict fun s => s.moveTo (p s)).Spares := by
  intro s t hw
  change s.moveTo (p s) = .ok t at hw
  unfold State.moveTo at hw
  split at hw
  · cases hw
  · obtain ⟨_, -, rfl⟩ := map_eq_ok_iff.mp hw
    exact ⟨rfl, rfl, rfl⟩

theorem spares_targetWrite {set : State → Float → Except Refusal State} {target : Option Float}
    (h : ∀ target, (strict (set · target)).Spares) : ∀ w ∈ targetWrite set target, w.Spares := by
  cases target with
  | none => exact fun _ hw => absurd hw List.not_mem_nil
  | some target => exact List.forall_mem_singleton.mpr (h target)

theorem spares_feedRateWrite (s : State) (rate : Option Float) :
    ∀ w ∈ feedRateWrite s rate, w.Spares := by
  unfold feedRateWrite
  split
  · split
    · exact List.forall_mem_singleton.mpr (spares_checked fun _ => ⟨rfl, rfl, rfl⟩)
    · exact fun _ hw => absurd hw List.not_mem_nil
  · exact fun _ hw => absurd hw List.not_mem_nil

/-- No write of a command touches identity and free properties. -/
theorem spares_writes (now : Time.Timestamp) (s : State) (c : Command) :
    ∀ w ∈ writes now s c, w.Spares := by
  cases c with
  | home => exact List.forall_mem_singleton.mpr (spares_moveTo _)
  | moveLinear | moveArc =>
    exact List.forall_mem_cons.mpr ⟨spares_moveTo _, spares_feedRateWrite s _⟩
  | setPosition | setFan | fanOff | setAccel | setLinearAdvance | setProgress =>
    exact List.forall_mem_singleton.mpr (spares_checked fun _ => ⟨rfl, rfl, rfl⟩)
  | setHotendTemp | waitHotendTemp | setBedTemp | setAuxTemp =>
    exact spares_targetWrite fun _ => spares_checked fun _ => ⟨rfl, rfl, rfl⟩
  | waitBedTemp =>
    refine List.forall_mem_append.mpr ⟨?_, ?_⟩
    · exact spares_targetWrite fun _ => spares_checked fun _ => ⟨rfl, rfl, rfl⟩
    · refine List.forall_mem_singleton.mpr (spares_free fun s => ?_)
      split
      · exact .refl s
      · exact ⟨rfl, rfl, rfl⟩
  | setPositioning | setExtruderPositioning | setUnits | coldExtrusion | motorEnable | motorDisable
  | emergencyStop | pause | resume | keepalive =>
    exact List.forall_mem_singleton.mpr (spares_free fun _ => ⟨rfl, rfl, rfl⟩)
  | dwell | reportPosition | reportFirmware | reportSettings | reportProgress | reportMachine
  | periodicTelemetry => exact fun _ hw => absurd hw List.not_mem_nil

/-- What each of some writes leaves alone, all of them do. -/
theorem run_spares {ws : List Write} (h : ∀ w ∈ ws, w.Spares) (s : State) :
    s.SameProperties (run ws s).2 := by
  induction ws generalizing s with
  | nil => exact .refl s
  | cons w ws ih =>
    have hrest := ih fun v hv => h v (List.mem_cons_of_mem _ hv)
    rw [run]
    split
    · next t ht => exact (h w List.mem_cons_self s t ht).trans (hrest t)
    · split
      · exact hrest s
      · exact .refl s

end Write

/-- A command leaves identity and free properties alone. -/
theorem execute_spares {now : Time.Timestamp} {s t : State} {c : Command} {answer : String}
    (h : execute now s c = .ok (t, answer)) : s.SameProperties t := by
  have hrun := Write.run_spares (Write.spares_writes now s c) s
  rw [run_writes, h] at hrun
  exact hrun

end VirtualPrinter.Machine

namespace VirtualPrinter.Service.Device

/-- **No line touches the identity of a printer or its free properties.** -/
theorem execute_sameProperties (d : Device) (here : Surroundings) (line : List Char) :
    d.state.SameProperties (d.execute here line).1.state :=
  execute_state (P := d.state.SameProperties) (.refl _) Machine.execute_spares here line

end VirtualPrinter.Service.Device
