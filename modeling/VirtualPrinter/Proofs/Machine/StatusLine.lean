import VirtualPrinter.Machine.StatusLine
import VirtualPrinter.Proofs.Decimal.Columns
import VirtualPrinter.Proofs.Machine.Heating
import VirtualPrinter.Proofs.Machine.Report

/-!
# The columns of the status line

The status line has its labels and its numbers always at the same places: as long as temperatures and
targets lie in their ranges, each of them fits the six characters it has, a zero with a sign included.
Neither commands nor measurements lead out of these ranges.

## Main definitions

* `State.HeatersInRange`: the temperatures and targets of the heaters lie in their ranges.
* `State.Tabulates`: a line has the temperatures and targets at their places.

## Main results

* `HeatersInRange.execute`, `HeatersInRange.measure`: what keeps the ranges.
* `HeatersInRange.statusLine`: what the status line looks like.
-/

namespace VirtualPrinter.Machine

open Decimal (RightAligned Shows)
open Gcode (Command)

variable {s t : State} {c : Command} {now : Time.Timestamp} {answer : String}

/-! ### Heaters in their ranges -/

namespace Heater

@[simp] theorem temperature_measured (h k : Heater) (s : State) (x : Float) :
    k.temperature (h.measured s x) = if k = h then x else k.temperature s := by
  cases h <;> cases k <;> rfl

@[simp] theorem target_measured (h k : Heater) (s : State) (x : Float) :
    k.target (h.measured s x) = k.target s := by
  cases h <;> cases k <;> rfl

/-- The greatest temperature of a heater is a number of three digits. -/
theorem exists_max (h : Heater) : ∃ M, 0 < M ∧ M < 10 ^ 3 ∧ h.max = Float.ofNat M := by
  cases h with
  | hotend => exact ⟨300, by decide, by decide, rfl⟩
  | bed => exact ⟨120, by decide, by decide, rfl⟩

end Heater

namespace State

/-- The temperatures and targets of the heaters lie in their ranges. -/
def HeatersInRange (s : State) : Prop :=
  ∀ h : Heater, within 0 h.max (h.temperature s) ∧ within 0 h.max (h.target s)

/-- A printer inside its bounds has its heaters in their ranges. -/
theorem Bounded.heatersInRange (b : s.Bounded) : s.HeatersInRange := fun h => by
  cases h with
  | hotend => exact ⟨b.hotendTemperature, b.hotendTarget⟩
  | bed => exact ⟨b.bedTemperature, b.bedTarget⟩

/-- A command leaves what is measured alone, and sets no target out of its range. -/
theorem HeatersInRange.execute (hs : s.HeatersInRange) (h : execute now s c = .ok (t, answer)) :
    t.HeatersInRange := fun heater => by
  have hframe := (execute_keeps h).frame
  cases heater with
  | hotend =>
    have htemperature : Heater.hotend.temperature t = Heater.hotend.temperature s :=
      hframe.hotendTemperature
    have htarget : Field.hotendTarget.Fits (t.get .hotendTarget) := execute_fits h (hs .hotend).2
    exact ⟨htemperature ▸ (hs .hotend).1, htarget⟩
  | bed =>
    have htemperature : Heater.bed.temperature t = Heater.bed.temperature s :=
      hframe.bedTemperature
    have htarget : Field.bedTarget.Fits (t.get .bedTarget) := execute_fits h (hs .bed).2
    exact ⟨htemperature ▸ (hs .bed).1, htarget⟩

/-- A measurement out of the range is refused. -/
theorem HeatersInRange.measure (hs : s.HeatersInRange) {h : Heater} {x : Float}
    (ht : h.measure s x = .ok t) : t.HeatersInRange := fun heater => by
  obtain ⟨hx, rfl⟩ := Heater.measure_eq_ok_iff.mp ht
  rw [Heater.temperature_measured, Heater.target_measured]
  refine ⟨?_, (hs heater).2⟩
  split
  · next heq => exact heq ▸ hx
  · exact (hs heater).1

end State

/-! ### Columns -/

/-- A column of six characters tells a temperature with two places, at its right end. -/
def Tells (x : Float) (column : List Char) : Prop :=
  ∃ text, Shows 2 x text ∧ RightAligned 6 text column

/-- **A temperature of three digits at most fits its column.** -/
theorem column_tells {M : Nat} (hM : 0 < M) (hwidth : M < 10 ^ 3) {x : Float}
    (hx : within 0 (Float.ofNat M) x) : Tells x (column x) := by
  obtain ⟨hnonneg, hle⟩ := within_iff.mp hx
  have hshows := Decimal.places_shows (Decimal.isFinite_of_between hM (by omega) hnonneg hle) 2
  have hlength : (Decimal.places 2 x).length ≤ 6 :=
    hshows.length_le (k := 3) (by decide) hM (by omega) hwidth hnonneg hle
  exact ⟨_, hshows, Decimal.padLeft_rightAligned hlength⟩

theorem Tells.length {x : Float} {column : List Char} (h : Tells x column) : column.length = 6 :=
  h.elim fun _ h => h.2.1

/-! ### The line -/

/-- The widths of the parts of the status line: labels, and columns behind them. -/
def statusWidths : List Nat := [2, 6, 2, 6, 3, 6, 2, 6, 9]

/-- A line of forty-two characters tells the temperatures and targets of a state in columns of six
characters, which stand with their labels at fixed places. -/
def State.Tabulates (s : State) (line : List Char) : Prop :=
  line.length = 42 ∧ ∃ hotend hotendTarget bed bedTarget,
    statusWidths.splitLengths line = ["T:".toList, hotend, " /".toList, hotendTarget, " B:".toList, bed,
      " /".toList, bedTarget, " @:0 B@:0".toList] ∧
    Tells s.extruder.temperature hotend ∧ Tells s.extruder.targetTemperature hotendTarget ∧
    Tells s.heatbed.temperature bed ∧ Tells s.heatbed.targetTemperature bedTarget

/-- Parts that are put together are found again by their lengths. -/
theorem splitLengths_flatten {α : Type} (parts : List (List α)) :
    (parts.map List.length).splitLengths parts.flatten = parts := by
  induction parts with
  | nil => rfl
  | cons part parts ih =>
    rw [List.flatten_cons, List.map_cons, List.splitLengths_cons, List.take_left, List.drop_left, ih]

/-- **The status line of heaters in their ranges** has its columns at fixed places. -/
theorem State.HeatersInRange.statusLine (hs : s.HeatersInRange) : s.Tabulates s.statusLine.toList := by
  have htells {heater : Heater} {x : Float} (hx : within 0 heater.max x) : Tells x (column x) := by
    obtain ⟨M, hM, hwidth, hmax⟩ := heater.exists_max
    exact column_tells hM hwidth (hmax ▸ hx)
  have hhotend : Tells s.extruder.temperature _ := htells (hs .hotend).1
  have hhotendTarget : Tells s.extruder.targetTemperature _ := htells (hs .hotend).2
  have hbed : Tells s.heatbed.temperature _ := htells (hs .bed).1
  have hbedTarget : Tells s.heatbed.targetTemperature _ := htells (hs .bed).2
  set parts := ["T:".toList, column s.extruder.temperature, " /".toList,
    column s.extruder.targetTemperature, " B:".toList, column s.heatbed.temperature, " /".toList,
    column s.heatbed.targetTemperature, " @:0 B@:0".toList] with hparts
  have hline : s.statusLine.toList = parts.flatten := by
    simp [State.statusLine, hparts]
  have hwidths : parts.map List.length = statusWidths := by
    simp only [hparts, List.map_cons, List.map_nil, hhotend.length, hhotendTarget.length,
      hbed.length, hbedTarget.length]
    rfl
  rw [hline]
  refine ⟨?_, _, _, _, _, ?_, hhotend, hhotendTarget, hbed, hbedTarget⟩
  · rw [List.length_flatten, hwidths]
    rfl
  · rw [← hwidths]
    exact splitLengths_flatten parts

end VirtualPrinter.Machine
