import VirtualPrinter.Machine.Execution
import VirtualPrinter.Proofs.Outcome

/-!
# How answers begin

An answer tells by its beginning whether the line has been refused, named no operation or has been
executed.  The first two begin in a fixed way; an answer of the third kind differs from both within
the first few characters, whatever numbers and names it goes on with.

## Main definitions

* `Machine.refusalMark`: how an answer that tells of a refusal begins.
* `Machine.Acknowledges`: an answer that tells neither of a refusal nor of an unknown operation.

## Main results

* `execute_acknowledges`: a command that is not refused acknowledges what it has done.
-/

namespace VirtualPrinter.Machine

open Gcode (Command)
open Outcome (bind_eq_ok_iff)

variable {s t : State}

/-! ### Beginnings -/

/-- Two texts differ at a place that both have. -/
def differ : List Char → List Char → Bool
  | a :: as, b :: bs => a != b || differ as bs
  | _, _ => false

theorem differ_append {xs ys : List Char} (h : differ xs ys) (zs : List Char) :
    differ (xs ++ zs) ys := by
  induction xs generalizing ys with
  | nil => simp [differ] at h
  | cons x xs ih =>
    cases ys with
    | nil => simp [differ] at h
    | cons y ys =>
      simp only [List.cons_append, differ, Bool.or_eq_true] at h ⊢
      exact h.imp_right ih

theorem not_prefix_of_differ {xs ys : List Char} (h : differ xs ys) : ¬ys <+: xs := by
  induction xs generalizing ys with
  | nil => simp [differ] at h
  | cons x xs ih =>
    cases ys with
    | nil => simp [differ] at h
    | cons y ys =>
      rw [List.cons_prefix_cons]
      rintro ⟨rfl, hp⟩
      simp only [differ, bne_self_eq_false, Bool.false_or] at h
      exact ih h hp

theorem append_ne_of_differ {start answer : String} (h : differ start.toList answer.toList)
    (rest : String) : start ++ rest ≠ answer := by
  rintro rfl
  rw [String.toList_append] at h
  exact not_prefix_of_differ (differ_append h rest.toList) (List.prefix_refl _)

/-- How an answer that tells of a refusal begins. -/
def refusalMark : List Char := "Error: ".toList

/-- An answer tells neither of a refusal nor that the operation is unknown. -/
structure Acknowledges (answer : String) : Prop where
  noRefusal : differ answer.toList refusalMark
  known : differ answer.toList unknownCommand.toList

instance (answer : String) : Decidable (Acknowledges answer) :=
  decidable_of_iff (differ answer.toList refusalMark ∧ differ answer.toList unknownCommand.toList)
    ⟨fun h => ⟨h.1, h.2⟩, fun h => ⟨h.noRefusal, h.known⟩⟩

namespace Acknowledges

variable {answer : String}

/-- How an answer goes on does not matter. -/
theorem append (h : Acknowledges answer) (rest : String) : Acknowledges (answer ++ rest) := by
  constructor
  · rw [String.toList_append]
    exact differ_append h.noRefusal _
  · rw [String.toList_append]
    exact differ_append h.known _

theorem not_refusal (h : Acknowledges answer) : ¬refusalMark <+: answer.toList :=
  not_prefix_of_differ h.noRefusal

theorem ne_unknown (h : Acknowledges answer) : answer ≠ unknownCommand := by
  rintro rfl
  exact not_prefix_of_differ h.known (List.prefix_refl _)

theorem ne_empty (h : Acknowledges answer) : answer ≠ "" := by
  rintro rfl
  exact absurd h.noRefusal nofun

end Acknowledges

/-! ### The answers of commands -/

theorem okay_acknowledges : Acknowledges okay := by decide

theorem report_acknowledges (s : State) : Acknowledges (report s) := by
  have h : Acknowledges "; " := by decide
  unfold report
  -- a report is one long text that begins with a comment
  simp only [String.append_assoc]
  exact h.append _

/-- The answer of a heater on its way begins with the name of the heater. -/
theorem heatingText_acknowledges {heater : String} (h : Acknowledges heater)
    (temperature target : Float) : Acknowledges (heatingText heater temperature target) :=
  (((h.append _).append _).append _).append _ |>.append _

/-- A command that sets something answers as it tells, whatever it has set. -/
theorem acknowledges_of_answer {x : Except Refusal State} {tell : State → String} {answer : String}
    (ht : ∀ u, Acknowledges (tell u)) (h : (x >>= fun u => pure (u, tell u)) = .ok (t, answer)) :
    Acknowledges answer := by
  obtain ⟨u, -, ha⟩ := bind_eq_ok_iff.mp h
  cases ha
  exact ht _

/-- **A command that is not refused does not answer like one that is**, nor like a line that names no
operation, nor with nothing. -/
theorem execute_acknowledges {now : Time.Timestamp} {c : Command} {answer : String}
    (h : execute now s c = .ok (t, answer)) : Acknowledges answer := by
  cases c with
  | home =>
    have hstart : Acknowledges "ok\n" := by decide
    exact acknowledges_of_answer (fun _ => (hstart.append _).append _) h
  | moveLinear x y z feedRate =>
    have hstart : Acknowledges "Moved to " := by decide
    obtain ⟨u, -, ha⟩ := bind_eq_ok_iff.mp h
    cases ha
    exact (hstart.append _).append _
  | moveArc direction radius z feedRate =>
    have hstart : Acknowledges "Arc move to " := by decide
    obtain ⟨u, -, ha⟩ := bind_eq_ok_iff.mp h
    cases ha
    exact (hstart.append _).append _
  | dwell duration =>
    have hstart : Acknowledges "Dwelling for " := by decide
    cases h
    exact (hstart.append _).append _
  | setPosition x y z =>
    have hstart : Acknowledges "Position set to " := by decide
    exact acknowledges_of_answer (fun _ => (hstart.append _).append _) h
  | setHotendTemp target | setBedTemp target =>
    exact acknowledges_of_answer (fun _ => okay_acknowledges) h
  | waitHotendTemp target =>
    obtain ⟨u, -, ha⟩ := bind_eq_ok_iff.mp h
    split at ha
    · cases ha
      exact heatingText_acknowledges (by decide) _ _
    · cases ha
      exact okay_acknowledges
  | waitBedTemp target =>
    obtain ⟨u, -, ha⟩ := bind_eq_ok_iff.mp h
    split at ha
    · cases ha
      exact heatingText_acknowledges (by decide) _ _
    · cases ha
      exact okay_acknowledges
  | setAuxTemp target =>
    have hstart : Acknowledges "Auxiliary target temperature set to " := by decide
    exact acknowledges_of_answer (fun _ => (hstart.append _).append _) h
  | setFan speed =>
    have hstart : Acknowledges "Fan speed set to " := by decide
    exact acknowledges_of_answer (fun _ => (hstart.append _).append _) h
  | fanOff => exact acknowledges_of_answer (fun _ => by decide) h
  | setAccel acceleration =>
    have hstart : Acknowledges "Acceleration set to " := by decide
    exact acknowledges_of_answer (fun _ => (hstart.append _).append _) h
  | setLinearAdvance factor =>
    have hstart : Acknowledges "Linear Advance factor set to " := by decide
    exact acknowledges_of_answer (fun _ => (hstart.append _).append _) h
  | setProgress percent minutes =>
    have hstart : Acknowledges "Progress set to " := by decide
    exact acknowledges_of_answer (fun _ => hstart.append _) h
  | motorEnable motors | motorDisable motors =>
    have hstart : Acknowledges "Motors " := by decide
    cases h
    exact (hstart.append _).append _
  | reportPosition =>
    have hstart : Acknowledges "X:" := by decide
    cases h
    simp only [Point.text, String.append_assoc]
    exact hstart.append _
  | reportSettings =>
    cases h
    exact report_acknowledges _
  | reportProgress =>
    have hstart : Acknowledges "Progress: " := by decide
    cases h
    exact hstart.append _
  | reportMachine =>
    have hstart : Acknowledges "Machine name: " := by decide
    cases h
    exact (hstart.append _).append _
  | setPositioning mode | setExtruderPositioning mode | setUnits mode | coldExtrusion mode =>
    -- two answers, one for each value
    cases mode <;> cases h <;> decide
  | pause | resume =>
    cases h
    split <;> decide
  | reportFirmware | periodicTelemetry | emergencyStop | keepalive =>
    cases h
    decide

end VirtualPrinter.Machine
