import Mathlib.Data.List.FinRange
import VirtualPrinter.Machine.State

/-!
# The fields of a state

A state is read and written field by field, and the motors of it one by one.  Two states with the same
fields are the same, and a field can be set without a change of any other; every setter of a state
does nothing else than that.

## Main definitions

* `Machine.Field`, with `State.get` and `State.put`: one field of a state.
* `Machine.Sets`: a change of states that concerns some fields, each on its own.

## Main results

* `State.ext_get`: the fields are all that there is.
* `State.get_put`: a field that is set has its value, and the others have theirs.
* `sets_put`, `sets_enableMotors`, `sets_disableMotors`: what the setters concern.
-/

namespace VirtualPrinter.Machine

/-! ### Motors one by one -/

namespace Motors

/-- A motor is in a set; its number is that of its bit. -/
def has (m : Motors) (i : Fin 8) : Bool := m.bits.toBitVec.getLsbD i

/-- The set of one motor. -/
def single (i : Fin 8) : Motors := ⟨1 <<< i.val.toUInt8⟩

/-- The set with a motor put in or taken out. -/
def write (m : Motors) (i : Fin 8) (on : Bool) : Motors :=
  if on then m.union (single i) else m.diff (single i)

/-- The motors of a set by their numbers. -/
def numbers (m : Motors) : List (Fin 8) := (List.finRange 8).filter fun i => m.has i

theorem mem_numbers {m : Motors} {i : Fin 8} : i ∈ m.numbers ↔ m.has i := by
  simp [numbers]

/-- Sets with the same motors are the same. -/
theorem ext_has {a b : Motors} (h : ∀ i, a.has i = b.has i) : a = b := by
  have hbits : a.bits = b.bits :=
    UInt8.eq_of_toBitVec_eq (BitVec.eq_of_getLsbD_eq fun i hi => h ⟨i, hi⟩)
  cases a
  cases b
  exact congrArg Motors.mk hbits

theorem has_union (a b : Motors) (i : Fin 8) :
    (a.union b).has i = if b.has i then true else a.has i := by
  cases h : b.has i <;> simp_all [has, union]

theorem has_diff (a b : Motors) (i : Fin 8) :
    (a.diff b).has i = if b.has i then false else a.has i := by
  cases h : b.has i <;> simp_all [has, diff]

theorem has_single (i j : Fin 8) : (single i).has j = decide (j = i) := by
  revert i j
  decide

/-- Putting a motor in or out concerns no other. -/
theorem has_write (m : Motors) (i : Fin 8) (on : Bool) (j : Fin 8) :
    (m.write i on).has j = if j = i then on else m.has j := by
  unfold write
  by_cases hj : j = i <;> cases on <;> simp [has_union, has_diff, has_single, hj]

end Motors

/-! ### Fields -/

/-- A field of a state. -/
inductive Field where
  | info
  | position
  | hotendTemperature
  | hotendTarget
  | fanSpeed
  | extruderPositioning
  | maxZHeight
  | bedTemperature
  | bedTarget
  | bedHeating
  | bedWidth
  | bedLength
  | positioning
  | units
  /-- A motor, enabled or not, by the number of its bit. -/
  | motor (number : Fin 8)
  | acceleration
  | linearAdvance
  | auxTarget
  | feedRate
  | paused
  | progress
  | remainingMinutes
  | coldExtrusion
  | homePosition
  | lastKeepalive
  | attributes
  | data
deriving DecidableEq

/-- The values of a field. -/
def Field.Value : Field → Type
  | .info => Identity
  | .position | .homePosition => Point
  | .hotendTemperature | .hotendTarget | .fanSpeed | .maxZHeight | .bedTemperature | .bedTarget
  | .bedWidth | .bedLength | .acceleration | .linearAdvance | .auxTarget | .feedRate => Float
  | .extruderPositioning | .positioning => Positioning
  | .units => Units
  | .bedHeating | .motor _ | .paused | .coldExtrusion => Bool
  | .progress => UInt8
  | .remainingMinutes => UInt32
  | .lastKeepalive => Option Time.Timestamp
  | .attributes | .data => Json.Fields

namespace State

/-- The value of a field. -/
def get (s : State) : (f : Field) → f.Value
  | .info => s.info
  | .position => s.extruder.position
  | .hotendTemperature => s.extruder.temperature
  | .hotendTarget => s.extruder.targetTemperature
  | .fanSpeed => s.extruder.fanSpeed
  | .extruderPositioning => s.extruder.positioning
  | .maxZHeight => s.extruder.maxZHeight
  | .bedTemperature => s.heatbed.temperature
  | .bedTarget => s.heatbed.targetTemperature
  | .bedHeating => s.heatbed.heating
  | .bedWidth => s.heatbed.width
  | .bedLength => s.heatbed.length
  | .positioning => s.positioning
  | .units => s.units
  | .motor number => s.enabledMotors.has number
  | .acceleration => s.acceleration
  | .linearAdvance => s.linearAdvance
  | .auxTarget => s.auxTargetTemperature
  | .feedRate => s.feedRate
  | .paused => s.paused
  | .progress => s.progress
  | .remainingMinutes => s.remainingMinutes
  | .coldExtrusion => s.coldExtrusion
  | .homePosition => s.homePosition
  | .lastKeepalive => s.lastKeepalive
  | .attributes => s.attributes
  | .data => s.data

/-- The state with a field set. -/
def put (s : State) : (f : Field) → f.Value → State
  | .info, v => { s with info := v }
  | .position, v => { s with extruder := { s.extruder with position := v } }
  | .hotendTemperature, v => { s with extruder := { s.extruder with temperature := v } }
  | .hotendTarget, v => { s with extruder := { s.extruder with targetTemperature := v } }
  | .fanSpeed, v => { s with extruder := { s.extruder with fanSpeed := v } }
  | .extruderPositioning, v => { s with extruder := { s.extruder with positioning := v } }
  | .maxZHeight, v => { s with extruder := { s.extruder with maxZHeight := v } }
  | .bedTemperature, v => { s with heatbed := { s.heatbed with temperature := v } }
  | .bedTarget, v => { s with heatbed := { s.heatbed with targetTemperature := v } }
  | .bedHeating, v => { s with heatbed := { s.heatbed with heating := v } }
  | .bedWidth, v => { s with heatbed := { s.heatbed with width := v } }
  | .bedLength, v => { s with heatbed := { s.heatbed with length := v } }
  | .positioning, v => { s with positioning := v }
  | .units, v => { s with units := v }
  | .motor number, v => { s with enabledMotors := s.enabledMotors.write number v }
  | .acceleration, v => { s with acceleration := v }
  | .linearAdvance, v => { s with linearAdvance := v }
  | .auxTarget, v => { s with auxTargetTemperature := v }
  | .feedRate, v => { s with feedRate := v }
  | .paused, v => { s with paused := v }
  | .progress, v => { s with progress := v }
  | .remainingMinutes, v => { s with remainingMinutes := v }
  | .coldExtrusion, v => { s with coldExtrusion := v }
  | .homePosition, v => { s with homePosition := v }
  | .lastKeepalive, v => { s with lastKeepalive := v }
  | .attributes, v => { s with attributes := v }
  | .data, v => { s with data := v }

/-- States with the same fields are the same. -/
theorem ext_get {s t : State} (h : ∀ f, s.get f = t.get f) : s = t := by
  obtain ⟨_, ⟨_, _, _, _, _, _⟩, ⟨_, _, _, _, _⟩, _, _, _, _, _, _, _, _, _, _, _, _, _, _, _⟩ := s
  obtain ⟨_, ⟨_, _, _, _, _, _⟩, ⟨_, _, _, _, _⟩, _, _, _, _, _, _, _, _, _, _, _, _, _, _, _⟩ := t
  cases h .info
  cases h .position
  cases h .hotendTemperature
  cases h .hotendTarget
  cases h .fanSpeed
  cases h .extruderPositioning
  cases h .maxZHeight
  cases h .bedTemperature
  cases h .bedTarget
  cases h .bedHeating
  cases h .bedWidth
  cases h .bedLength
  cases h .positioning
  cases h .units
  cases Motors.ext_has fun i => h (.motor i)
  cases h .acceleration
  cases h .linearAdvance
  cases h .auxTarget
  cases h .feedRate
  cases h .paused
  cases h .progress
  cases h .remainingMinutes
  cases h .coldExtrusion
  cases h .homePosition
  cases h .lastKeepalive
  cases h .attributes
  cases h .data
  rfl

@[simp] theorem get_put_self (s : State) (f : Field) (v : f.Value) : (s.put f v).get f = v := by
  cases f with
  | motor number => exact (Motors.has_write ..).trans (if_pos rfl)
  | _ => rfl

/-- Setting a field concerns no other. -/
theorem get_put_of_ne (s : State) {f f' : Field} (v : f.Value) (h : f' ≠ f) :
    (s.put f v).get f' = s.get f' := by
  cases f with
  | motor number =>
    cases f' with
    | motor number' =>
      exact (Motors.has_write ..).trans (if_neg fun he => h (congrArg Field.motor he))
    | _ => rfl
  | _ => cases f' <;> first | rfl | exact absurd rfl h

end State

/-! ### Changes of fields -/

/-- A change of states that concerns some fields, each of them on its own. -/
structure Sets (fields : List Field) (g : State → State) : Prop where
  frame : ∀ s f, f ∉ fields → (g s).get f = s.get f
  separate : ∀ s t f, s.get f = t.get f → (g s).get f = (g t).get f

namespace Sets

variable {fields fields' : List Field} {g g' : State → State}

/-- One change behind another concerns the fields of both. -/
theorem comp (h : Sets fields g) (h' : Sets fields' g') : Sets (fields ++ fields') (g' ∘ g) where
  frame s f hf := by
    rw [List.mem_append, not_or] at hf
    exact (h'.frame _ f hf.2).trans (h.frame s f hf.1)
  separate s t f hf := h'.separate _ _ f (h.separate s t f hf)

end Sets

theorem sets_put (f : Field) (v : f.Value) : Sets [f] (·.put f v) where
  frame s f' hf := s.get_put_of_ne v fun he => hf (List.mem_singleton.mpr he)
  separate s t f' h := by
    by_cases he : f' = f
    · subst he
      exact (s.get_put_self f' v).trans (t.get_put_self f' v).symm
    · exact ((s.get_put_of_ne v he).trans h).trans (t.get_put_of_ne v he).symm

/-- A target of the bed is written with the note that the bed is heating. -/
theorem sets_bedTarget (target : Float) :
    Sets [.bedTarget, .bedHeating] ((·.put .bedHeating true) ∘ (·.put .bedTarget target)) :=
  (sets_put .bedTarget target).comp (sets_put .bedHeating true)

/-- The progress is written with the time left. -/
theorem sets_progress (percent : UInt8) (minutes : UInt32) : Sets [.progress, .remainingMinutes]
    ((·.put .remainingMinutes minutes) ∘ (·.put .progress percent)) :=
  (sets_put .progress percent).comp (sets_put .remainingMinutes minutes)

/-- The fields of some motors. -/
def Motors.fields (m : Motors) : List Field := m.numbers.map .motor

theorem Motors.motor_mem_fields {m : Motors} {i : Fin 8} : .motor i ∈ m.fields ↔ m.has i := by
  simp [fields, mem_numbers]

/-- A change of the motors that turns those of a set on, or off, concerns these alone. -/
theorem sets_motors {m : Motors} {g : Motors → Motors} {on : Bool}
    (hg : ∀ a i, (g a).has i = if m.has i then on else a.has i) :
    Sets m.fields (fun s => { s with enabledMotors := g s.enabledMotors }) where
  frame s f hf := by
    cases f with
    | motor i => exact (hg ..).trans (if_neg fun hi => hf (Motors.motor_mem_fields.mpr hi))
    | _ => rfl
  separate s t f h := by
    cases f with
    | motor i =>
      have hi : s.enabledMotors.has i = t.enabledMotors.has i := h
      exact (hg ..).trans (hi ▸ (hg ..).symm)
    | _ => exact h

theorem sets_enableMotors (m : Motors) : Sets m.fields (·.enableMotors m) :=
  sets_motors (Motors.has_union · m)

theorem sets_disableMotors (m : Motors) : Sets m.fields (·.disableMotors m) :=
  sets_motors (Motors.has_diff · m)

end VirtualPrinter.Machine
