import VirtualPrinter.Proofs.Machine.Landing
import VirtualPrinter.Proofs.Service.Pausing

/-!
# Lines that move

A line of motion is followed from its words to the device that it leaves: where the head is then,
which feed rate, what the line is answered, and what the printer reports as its position until it is
moved or told another one.

## Main results

* `execute_report`: what a report of the position says.
* `position_of_course`: who does not move the head does not change what is reported.
* `moves_land`: moves land exactly where asked, or are refused.
-/

namespace VirtualPrinter.Service.Device

open Gcode (Command Opcode)
open Machine (FeedGoal Goal Leaves Point landingText)

variable {d e : Device} {here : Surroundings} {line : List Char} {op : Opcode}

/-- A report of the position. -/
theorem execute_report (d : Device) (here : Surroundings)
    (h : operation? line = some .reportPosition) :
    (d.execute here line).2 = d.state.position.text ++ "\nok\n" := by
  obtain ⟨c, hc, hop⟩ := command?_of_operation h
  rw [execute_of_command hc]
  cases c with
  | reportPosition => rfl
  | moveArc direction | setPositioning direction | setExtruderPositioning direction
  | setUnits direction => cases direction <;> cases hop
  | _ => cases hop

/-- A line that neither moves the head nor tells the printer a position. -/
def keepsPosition (line : List Char) : Bool :=
  (operation? line).all fun op => !op.isMotion && op != .setPosition

theorem execute_keepsPosition (d : Device) (here : Surroundings) (h : keepsPosition line) :
    (d.execute here line).1.state.position = d.state.position := by
  cases hc : command? line with
  | none => rcases execute_of_noCommand d here hc with he | he <;> rw [he]
  | some c =>
    rw [keepsPosition, operation?_of_command hc, Option.all_some, Bool.and_eq_true, Bool.not_eq_true',
      bne_iff_ne] at h
    rw [execute_of_command hc]
    rcases d.perform_cases here c with ⟨state, answer, he, hd⟩ | ⟨streamer, answer, hd⟩
    · rw [hd]
      exact Machine.execute_position h.1 h.2 he
    · rw [hd]

/-- Through a script of such lines the head stays where it is. -/
theorem position_of_course {script : List (Surroundings × List Char)}
    (hl : ∀ entry ∈ script, keepsPosition entry.2) (he : e ∈ d.course script) :
    e.state.position = d.state.position := by
  induction script generalizing d with
  | nil =>
    obtain rfl := List.mem_singleton.mp he
    rfl
  | cons entry rest ih =>
    obtain ⟨here, line⟩ := entry
    rcases List.mem_cons.mp he with rfl | he
    · rfl
    · rw [ih (fun entry h => hl entry (List.mem_cons_of_mem _ h)) he,
        execute_keepsPosition d here (hl _ List.mem_cons_self)]

/-- The answer to a move out of the travel volume. -/
theorem refusal_outOfBounds (axis : Char) (value max : Float) :
    refusal (Machine.Refusal.outOfBounds axis value max).message =
      "Error: move out of bounds: " ++ axis.toString ++ " " ++ Decimal.twoPlaces value ++
        " not within 0 to " ++ Decimal.twoPlaces max ++ "\n" := by
  have hmark : "Error: move out of bounds: " = "Error: " ++ "move out of bounds: " := by
    decide +kernel
  change "Error: " ++ ("move out of bounds: " ++ axis.toString ++ " " ++ Decimal.twoPlaces value ++
    " not within 0 to " ++ Decimal.twoPlaces max) ++ "\n" = _
  simp only [hmark, String.append_assoc, -String.reduceAppend]

/-- **Moves land exactly where asked.** Every move asks for a point, by its words and by the position,
the unit and the mode of the printer; an arc without a radius asks for its own start.  If the point
lies inside of the travel volume, the head is there afterwards and the feed rate is set; nothing else
has changed, the answer tells the point, and so do reports of the position, until the head is moved
again or the printer is told a position.  Otherwise the answer names the first axis that the move
would leave, and nothing has changed. -/
theorem moves_land (d : Device) (here : Surroundings) {line rest : List Char} {op : Opcode}
    (hline : Gcode.resolve? (Gcode.stripComment line) = some (op, rest))
    (hop : op = .moveLinear ∨ op = .moveArc ∨ op = .moveArcCcw) (hs : d.state.paused = false) :
    (∃ target, Goal d.state (Gcode.words rest) op target) ∧
    ∀ target, Goal d.state (Gcode.words rest) op target →
      (target.Inside d.state.travelLimits →
        (∃ feed, FeedGoal d.state.units.scale d.state.feedRate ((Gcode.words rest).get? 'F') feed ∧
          d.execute here line =
            ({ d with state := { d.state.withPosition target with feedRate := feed } },
              (if op = .moveLinear then "Moved to " else "Arc move to ") ++ target.text ++ "\n")) ∧
        (op ≠ .moveLinear → (Gcode.words rest).get? 'R' = none →
          target.x == d.state.position.x) ∧
        ∀ script : List (Surroundings × List Char), (∀ entry ∈ script, keepsPosition entry.2) →
          ∀ e ∈ (d.execute here line).1.course script, ∀ here' line',
            operation? line' = some .reportPosition →
              (e.execute here' line').2 = target.text ++ "\nok\n") ∧
      (¬target.Inside d.state.travelLimits →
        ∃ axis value max, Leaves target d.state.travelLimits axis value max ∧
          d.execute here line = (d, "Error: move out of bounds: " ++ axis.toString ++ " " ++
            Decimal.twoPlaces value ++ " not within 0 to " ++ Decimal.twoPlaces max ++ "\n")) := by
  refine ⟨Machine.exists_goal _ _ hop, fun target hgoal => ?_⟩
  have hc : command? line = some (.ofWords op (Gcode.words rest)) := by
    rw [command?, Command.parse?, hline]
    rfl
  have hstate : ∀ interval, Command.ofWords op (Gcode.words rest) ≠ .periodicTelemetry interval := by
    intro interval h
    rcases hop with rfl | rfl | rfl <;> cases h
  obtain ⟨hland, hrefuse⟩ := Machine.execute_goal here.time hs hgoal
  rw [execute_of_command hc, perform_of_state hstate]
  refine ⟨fun hin => ?_, fun hout => ?_⟩
  · -- the head stays on the target, so that this is what is reported
    obtain ⟨feed, hfeed, he⟩ := hland hin
    rw [he]
    refine ⟨⟨feed, hfeed, rfl⟩, fun hlinear hr => ?_, ?_⟩
    · have hx : 0 ≤ target.x := by
        have := hin.x
        simp only [Machine.within, Bool.and_eq_true, decide_eq_true_eq] at this
        exact this.1
      exact Machine.arc_without_radius hgoal hlinear hr hx
    · intro script hl e hmem here' line' hreport
      rw [execute_report e here' hreport, position_of_course hl hmem]
      rfl
  · obtain ⟨axis, value, max, hleaves, he⟩ := hrefuse hout
    refine ⟨axis, value, max, hleaves, ?_⟩
    simp only [he, refusal_outOfBounds]

/-- An inch to the right, as an offset, and an arc that would leave the travel volume. -/
theorem moves_land_inches :
    let here : Surroundings := ⟨⟨0, 0⟩, .zero, true⟩
    let d := { standard with
      state := (standard.state.setUnits .inches).setPositioning .relative }
    let line := "G1 X1 F100 ; right".toList
    let target : Point := ⟨25.4, 0, 0⟩
    Gcode.resolve? (Gcode.stripComment line) = some (.moveLinear, " X1 F100".toList) ∧
      d.state.paused = false ∧ Goal d.state (Gcode.words " X1 F100".toList) .moveLinear target ∧
      target.Inside d.state.travelLimits ∧
      (∃ feed, d.execute here line =
        ({ d with state := { d.state.withPosition target with feedRate := feed } },
          "Moved to " ++ target.text ++ "\n")) ∧
      ((d.execute here line).1.execute here "M114".toList).2 = target.text ++ "\nok\n" ∧
      ∃ (axis : Char) (value max : Float), d.execute here "G2 R1".toList =
        (d, "Error: move out of bounds: " ++ axis.toString ++ " " ++ Decimal.twoPlaces value ++
          " not within 0 to " ++ Decimal.twoPlaces max ++ "\n") := by
  intro here d line target
  have hline : Gcode.resolve? (Gcode.stripComment line) =
      some (.moveLinear, " X1 F100".toList) := by
    decide +kernel
  have harc : Gcode.resolve? (Gcode.stripComment "G2 R1".toList) = some (.moveArc, " R1".toList) := by
    decide +kernel
  have hs : d.state.paused = false := by decide +kernel
  have hgoal : Goal d.state (Gcode.words " X1 F100".toList) .moveLinear target :=
    .linear (Machine.axisGoal_iff.mpr (by decide +kernel))
      (Machine.axisGoal_iff.mpr (by decide +kernel)) (Machine.axisGoal_iff.mpr (by decide +kernel))
  have hin : target.Inside d.state.travelLimits := by decide +kernel
  have hgoal' : Goal d.state (Gcode.words " R1".toList) .moveArc ⟨-25.4, 0, 0⟩ :=
    .arc (by decide +kernel) (by decide +kernel) (Machine.axisGoal_iff.mpr (by decide +kernel))
  have hout : ¬(⟨-25.4, 0, 0⟩ : Point).Inside d.state.travelLimits := by decide +kernel
  obtain ⟨⟨feed, -, hmoved⟩, -, hreport⟩ := ((moves_land d here hline (.inl rfl) hs).2 _ hgoal).1 hin
  obtain ⟨axis, value, max, -, hrefused⟩ :=
    ((moves_land d here harc (.inr (.inl rfl)) hs).2 _ hgoal').2 hout
  refine ⟨hline, hs, hgoal, hin, ⟨feed, hmoved⟩, ?_, axis, value, max, hrefused⟩
  exact hreport [] (by simp) _ List.mem_cons_self here _ (by decide +kernel)

end VirtualPrinter.Service.Device
