import VirtualPrinter.Machine.Execution
import VirtualPrinter.Proofs.Outcome

/-!
# How answers end

Every answer to a command ends its last line, whatever numbers and names it holds.

## Main definitions

* `Machine.Ended`: a text that ends with a line feed.

## Main results

* `execute_ended`: so does the answer of every command.
-/

namespace VirtualPrinter.Machine

open Gcode (Command)
open Outcome (bind_eq_ok_iff)

/-- A text that ends with a line feed. -/
def Ended (answer : String) : Prop := ['\n'] <:+ answer.toList

instance (answer : String) : Decidable (Ended answer) :=
  inferInstanceAs (Decidable (_ <:+ _))

variable {s t : State} {now : Time.Timestamp} {c : Command} {answer : String}

/-- What stands before the end does not matter. -/
theorem Ended.prepend (h : Ended answer) (before : String) : Ended (before ++ answer) := by
  unfold Ended
  rw [String.toList_append]
  exact List.suffix_append_of_suffix h

theorem Ended.ne_empty (h : Ended answer) : answer ≠ "" := by
  rintro rfl
  exact absurd h (by decide)

/-- A command that sets something answers as it tells, whatever it has set. -/
theorem ended_of_answer {x : Except Refusal State} {tell : State → String} (after : State → State)
    (ht : ∀ u, Ended (tell u)) (h : (x >>= fun u => pure (after u, tell u)) = .ok (t, answer)) :
    Ended answer := by
  obtain ⟨u, -, ha⟩ := bind_eq_ok_iff.mp h
  cases ha
  exact ht u

theorem progressText_ended (s : State) : Ended (progressText s) :=
  Ended.prepend (by decide) _

/-- **The answer of a command ends its last line.** -/
theorem execute_ended (h : execute now s c = .ok (t, answer)) : Ended answer := by
  cases c with
  | moveLinear x y z feedRate | moveArc direction radius z feedRate =>
    exact ended_of_answer (withFeedRate · feedRate) (fun _ => Ended.prepend (by decide) _) h
  | home | setPosition | setAuxTemp | setFan | setAccel | setLinearAdvance =>
    exact ended_of_answer id (fun _ => Ended.prepend (by decide) _) h
  | setHotendTemp | setBedTemp | fanOff =>
    exact ended_of_answer id (fun _ => by decide) h
  | waitHotendTemp target | waitBedTemp target =>
    obtain ⟨u, -, ha⟩ := bind_eq_ok_iff.mp h
    split at ha <;> cases ha
    · exact Ended.prepend (by decide) _
    · decide
  | setProgress percent minutes =>
    exact ended_of_answer id (fun _ => (progressText_ended _).prepend _) h
  | reportProgress =>
    cases h
    exact (progressText_ended s).prepend _
  | dwell | motorEnable | motorDisable | reportMachine | reportFirmware =>
    cases h
    exact Ended.prepend (by decide) _
  | reportPosition | reportSettings =>
    cases h
    exact Ended.prepend (by decide) _
  | setPositioning mode | setExtruderPositioning mode | setUnits mode | coldExtrusion mode =>
    -- two answers, one for each value
    cases mode <;> cases h <;> decide
  | pause | resume =>
    cases h
    split <;> decide
  | periodicTelemetry | emergencyStop | keepalive =>
    cases h
    decide

end VirtualPrinter.Machine
