import VirtualPrinter.Proofs.Machine.Bounds
import VirtualPrinter.Proofs.Machine.Pausing
import VirtualPrinter.Proofs.Service.Refused

/-!
# Paused printers

A paused printer refuses the lines that name an operation of motion, whatever their words ask for,
and answers every other line as if it were not paused, apart from the lines about the pause itself.
So the head of a paused printer stays where it is until the printer is resumed or told a position.

## Main definitions

* `Device.operation?`: the operation that a line names.
* `Device.withPaused`: the same device with its printer paused or not.

## Main results

* `execute_paused_iff`: which lines a pause refuses.
* `execute_withPaused`: the others do not depend on it.
* `position_of_mem_course`: the head stays where it is.
* `pause_stops_motion`: all three.
-/

namespace VirtualPrinter.Service.Device

open Gcode (Command Opcode)

/-- The operation that a line names. -/
def operation? (line : List Char) : Option Opcode :=
  (Gcode.resolve? (Gcode.stripComment line)).map (·.1)

/-- The same device with its printer paused or not. -/
def withPaused (d : Device) (paused : Bool) : Device :=
  { d with state := d.state.withPaused paused }

/-- The answer of a paused printer to a line that it refuses for the pause. -/
def pausedAnswer : String := "Error: printer is paused\n"

variable {d : Device} {here : Surroundings} {line : List Char} {c : Command} {op : Opcode}

/-- A line that names an operation names a command of that operation. -/
theorem command?_of_operation (h : operation? line = some op) :
    ∃ c, command? line = some c ∧ c.opcode = op := by
  obtain ⟨⟨op', rest⟩, hr, rfl⟩ := Option.map_eq_some_iff.mp h
  refine ⟨Command.ofWords op' (Gcode.words rest), ?_, Command.opcode_ofWords _ _⟩
  rw [command?, Command.parse?, hr]
  rfl

theorem operation?_of_command (h : command? line = some c) : operation? line = some c.opcode := by
  obtain ⟨⟨op, rest⟩, hr, rfl⟩ := Option.map_eq_some_iff.mp h
  rw [Command.opcode_ofWords, operation?, hr]
  rfl

/-! ### Lines that a pause refuses -/

/-- Why reports do not start. -/
theorem startTelemetry_eq_error {interval : Time.Span} {e : Error}
    (h : d.startTelemetry here interval = .error e) : e = .notConnected d.id ∨ e = .noRuntime := by
  unfold startTelemetry at h
  split at h
  · cases h
    exact .inl rfl
  · next bound _ =>
    rcases d.streamer.request_cases here.runsTasks here.now interval bound with
      ⟨-, hr⟩ | ⟨-, -, hr⟩ | ⟨-, -, hr⟩ <;> rw [hr] at h <;> cases h
    exact .inr rfl

/-- No pause is given as the reason why reports do not start. -/
theorem startTelemetry_message_ne {interval : Time.Span} {e : Error}
    (h : d.startTelemetry here interval = .error e) : e.message ≠ "printer is paused" := by
  rcases startTelemetry_eq_error h with rfl | rfl
  · have hstart : Machine.differ "Device ".toList "printer is paused".toList := by decide
    dsimp only [Error.message]
    rw [String.append_assoc]
    exact Machine.append_ne_of_differ hstart _
  · decide

/-- A command is refused for the pause if and only if it is one of motion. -/
theorem rejection?_paused_iff (here : Surroundings) :
    d.rejection? here c = some "printer is paused" ↔ d.state.paused ∧ c.opcode.isMotion := by
  by_cases hc : ∃ interval, c = .periodicTelemetry interval
  · obtain ⟨interval, rfl⟩ := hc
    constructor
    · intro h
      simp only [rejection?] at h
      split at h
      · cases h
      · split at h
        · cases h
        · -- reports are refused for reasons of their own
          next hs => exact absurd (Option.some.inj h) (startTelemetry_message_ne hs)
    · rintro ⟨-, hm⟩
      cases hm
  · have hc : ∀ interval, c ≠ .periodicTelemetry interval := fun i hi => hc ⟨i, hi⟩
    rw [rejection?_of_state hc, ← Machine.execute_eq_paused_iff here.time]
    cases Machine.execute here.time d.state c with
    | ok r => simp
    | error e =>
      simp only [Option.some.injEq, Except.error.injEq]
      exact Machine.message_eq_paused_iff e

/-- The answers that refuse differ where their reasons do. -/
theorem refusal_inj {reason reason' : String} (h : refusal reason = refusal reason') :
    reason = reason' := by
  have h := congrArg String.toList h
  simp only [refusal, String.toList_append, List.append_cancel_right_eq,
    List.append_cancel_left_eq] at h
  exact String.toList_inj.mp h

/-- **A paused printer refuses the lines of motion, and no other line is answered so.** -/
theorem execute_paused_iff (h : operation? line = some op) :
    (d.execute here line).2 = pausedAnswer ↔ d.state.paused ∧ op.isMotion := by
  obtain ⟨c, hc, rfl⟩ := command?_of_operation h
  rw [execute_of_command hc, ← rejection?_paused_iff here]
  cases hr : d.rejection? here c with
  | none =>
    have hne : (d.perform here c).2 ≠ refusal "printer is paused" := by
      intro he
      have ha := (perform_acknowledges hr).not_refusal
      rw [he] at ha
      exact ha (refusal_startsWith_mark _)
    exact ⟨fun he => absurd he hne, nofun⟩
  | some reason =>
    rw [perform_of_rejection hr, Option.some.injEq]
    exact ⟨fun he => refusal_inj he, fun he => congrArg refusal he⟩

/-- A line of motion leaves a paused printer alone. -/
theorem execute_of_paused (h : operation? line = some op) (hs : d.state.paused)
    (hm : op.isMotion) : d.execute here line = (d, pausedAnswer) := by
  obtain ⟨c, hc, rfl⟩ := command?_of_operation h
  rw [execute_of_command hc, perform_of_rejection ((rejection?_paused_iff here).mpr ⟨hs, hm⟩)]
  rfl

/-! ### Lines that do not look at the pause -/

/-- Reports start and end on a printer, paused or not. -/
theorem startTelemetry_withPaused (d : Device) (here : Surroundings) (interval : Time.Span)
    (b : Bool) : (d.withPaused b).startTelemetry here interval =
      (d.startTelemetry here interval).map (·.withPaused b) := by
  have hstreamer : (d.withPaused b).streamer = d.streamer := rfl
  unfold startTelemetry
  cases hb : d.binding with
  | none =>
    have hbinding : (d.withPaused b).binding = none := hb
    rw [hbinding]
    rfl
  | some connection =>
    have hbinding : (d.withPaused b).binding = some connection := hb
    rw [hbinding, hstreamer]
    dsimp only
    cases d.streamer.request here.runsTasks here.now interval connection <;> rfl

theorem perform_withPaused (hm : c.opcode.isMotion = false) (hp : c.opcode.setsPause = false)
    (b : Bool) : (d.withPaused b).perform here c =
      ((d.perform here c).1.withPaused b, (d.perform here c).2) := by
  by_cases hc : ∃ interval, c = .periodicTelemetry interval
  · obtain ⟨interval, rfl⟩ := hc
    simp only [perform, startTelemetry_withPaused]
    split
    · rfl
    · cases d.startTelemetry here interval <;> rfl
  · have hc : ∀ interval, c ≠ .periodicTelemetry interval := fun i hi => hc ⟨i, hi⟩
    have hstate : Machine.execute here.time (d.withPaused b).state c =
        (Machine.execute here.time d.state c).map (Machine.outcomeWith (·.withPaused b)) :=
      Machine.execute_withPaused here.time hm hp b
    rw [perform_of_state hc, perform_of_state hc, hstate]
    cases Machine.execute here.time d.state c <;> rfl

/-- **Other lines than those of motion and about the pause do not depend on it**, neither in what they
answer nor in what they do. -/
theorem execute_withPaused (h : operation? line = some op) (hm : op.isMotion = false)
    (hp : op.setsPause = false) (b : Bool) : (d.withPaused b).execute here line =
      ((d.execute here line).1.withPaused b, (d.execute here line).2) := by
  obtain ⟨c, hc, rfl⟩ := command?_of_operation h
  rw [execute_of_command hc, execute_of_command hc, perform_withPaused hm hp]

/-! ### Scripts -/

/-- What a line leaves as it is on a paused printer: the pause, and the position. -/
theorem execute_stays (here : Surroundings) (hs : d.state.paused) (hr : operation? line ≠ some .resume)
    (hp : operation? line ≠ some .setPosition) :
    (d.execute here line).1.state.paused ∧
      (d.execute here line).1.state.position = d.state.position := by
  cases hc : command? line with
  | none => rcases execute_of_noCommand d here hc with h | h <;> rw [h] <;> exact ⟨hs, rfl⟩
  | some c =>
    rw [operation?_of_command hc] at hr hp
    have hr : c.opcode ≠ .resume := fun he => hr (congrArg some he)
    have hp : c.opcode ≠ .setPosition := fun he => hp (congrArg some he)
    rw [execute_of_command hc]
    rcases d.perform_cases here c with ⟨state, answer, he, hd⟩ | ⟨streamer, answer, hd⟩
    · rw [hd]
      refine ⟨Machine.execute_paused hs hr he, ?_⟩
      cases hm : c.opcode.isMotion with
      | true =>
        -- such a command would have been refused
        rw [Machine.execute_of_paused hs hm] at he
        cases he
      | false => exact Machine.execute_position hm hp he
    · rw [hd]
      exact ⟨hs, rfl⟩

/-- The head of a paused printer stays where it is through every script that neither resumes the
printer nor tells it a position. -/
theorem position_of_mem_course {d e : Device} {script : List (Surroundings × List Char)}
    (hs : d.state.paused)
    (hl : ∀ entry ∈ script, operation? entry.2 ≠ some .resume ∧
      operation? entry.2 ≠ some .setPosition)
    (he : e ∈ d.course script) : e.state.position = d.state.position := by
  induction script generalizing d with
  | nil =>
    obtain rfl := List.mem_singleton.mp he
    rfl
  | cons entry rest ih =>
    obtain ⟨here, line⟩ := entry
    obtain ⟨hr, hp⟩ := hl _ List.mem_cons_self
    obtain ⟨hpaused, hposition⟩ := execute_stays here hs hr hp
    rcases List.mem_cons.mp he with rfl | he
    · rfl
    · rw [ih hpaused (fun entry h => hl entry (List.mem_cons_of_mem _ h)) he, hposition]

/-- **The operations of motion are those that a pause stops.**  A line is answered by the refusal of a
pause if and only if it names one of them and the printer is paused, and it then changes nothing; a
line of any other operation, apart from the three about the pause, answers and does the same whether
or not the printer is paused; and so the head of a paused printer stays where it is in every script
that neither resumes the printer nor tells it a position. -/
theorem pause_stops_motion (d : Device) :
    (∀ here line op, operation? line = some op →
      ((d.execute here line).2 = pausedAnswer ↔ d.state.paused ∧ op.isMotion) ∧
      (d.state.paused → op.isMotion → d.execute here line = (d, pausedAnswer))) ∧
    (∀ here line op b, operation? line = some op → op.isMotion = false → op.setsPause = false →
      (d.withPaused b).execute here line =
        ((d.execute here line).1.withPaused b, (d.execute here line).2)) ∧
    (∀ script : List (Surroundings × List Char), d.state.paused →
      (∀ entry ∈ script, operation? entry.2 ≠ some .resume ∧
        operation? entry.2 ≠ some .setPosition) →
      ∀ e ∈ d.course script, e.state.position = d.state.position) := by
  refine ⟨?_, ?_, ?_⟩
  · intro here line op h
    exact ⟨execute_paused_iff h, execute_of_paused h⟩
  · intro here line op b h hm hp
    exact execute_withPaused h hm hp b
  · intro script hs hl e he
    exact position_of_mem_course hs hl he

/-- A paused printer away from home: a move out of the travel volume, a target and an emergency stop,
and then a script with an arc in it. -/
theorem pause_stops_motion_away :
    let here : Surroundings := ⟨⟨0, 0⟩, .zero, true⟩
    let away := (standard.execute here "G1 X10 Y20 Z30".toList).1.withPaused true
    (away.execute here "g1 X9999 ; far away".toList = (away, pausedAnswer)) ∧
      ((away.withPaused false).execute here "M104 S200".toList =
        ((away.execute here "M104 S200".toList).1.withPaused false,
          (away.execute here "M104 S200".toList).2)) ∧
      ∀ e ∈ away.course [(here, "M112".toList), (here, "G2 R5".toList), (here, "G91".toList),
          (here, "who?".toList), (here, "HOME".toList)],
        e.state.position = away.state.position := by
  intro here away
  obtain ⟨hmotion, hflag, hscript⟩ := pause_stops_motion away
  refine ⟨?_, ?_, ?_⟩
  · exact (hmotion here "g1 X9999 ; far away".toList .moveLinear (by decide +kernel)).2 rfl rfl
  · exact hflag here "M104 S200".toList .setHotendTemp false (by decide +kernel) rfl rfl
  · exact hscript _ rfl (by decide +kernel)

end VirtualPrinter.Service.Device
