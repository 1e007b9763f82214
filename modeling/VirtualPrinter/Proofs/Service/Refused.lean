import VirtualPrinter.Proofs.Machine.Answers
import VirtualPrinter.Proofs.Machine.Writes
import VirtualPrinter.Proofs.Service.Instruction

/-!
# Refused instructions

An instruction line is refused when a setter, a move or the start of reports that it rests on is
refused.  The answer then says so, and nothing has happened: neither to the state, also where a
command has more than one thing to write, nor to the reports.  The one refusal that no answer tells
of is that of the feed rate behind a move, which has been made by then.

## Main definitions

* `Device.command?`: the command of a line.
* `Device.rejection?`: why a command is refused, if it is.
* `Device.performInPlace`: a command with its writes done one after the other.
* `Device.meetsRefusal`: some check of a line fails, whether or not the line is refused for it.

## Main results

* `execute_of_rejection`, `execute_of_not_rejected`: what a line answers.
* `refused_iff`: which lines are refused, and that they and those without effect change nothing.
-/

namespace VirtualPrinter.Service.Device

open Gcode (Command)
open Machine (Acknowledges State Write refusalMark unknownCommand)

/-! ### Refusals -/

/-- The command of a line, if the line names one. -/
def command? (line : List Char) : Option Command :=
  Command.parse? (Gcode.stripComment line)

/-- Why a command is refused: a write that stops it, or the start of reports. -/
def rejection? (d : Device) (here : Surroundings) : Command → Option String
  | .periodicTelemetry interval =>
    if interval.isZero then none
    else match d.startTelemetry here interval with
      | .ok _ => none
      | .error e => some e.message
  | c => (Write.run (Machine.writes here.time d.state c) d.state).1.map (·.message)

/-- The device after a command whose writes are done in place: a refusal stops them, and nothing is
undone. -/
def performInPlace (d : Device) (here : Surroundings) (c : Command) : Device :=
  match c with
  | .periodicTelemetry interval =>
    if interval.isZero then d.stopTelemetry
    else match d.startTelemetry here interval with
      | .ok d => d
      | .error _ => d
  | c => { d with state := (Write.run (Machine.writes here.time d.state c) d.state).2 }

/-- A setter, a move or the start of reports refuses what a line asks for, whether or not the line is
refused for it. -/
def meetsRefusal (d : Device) (here : Surroundings) (line : List Char) : Bool :=
  (command? line).any fun
    | .periodicTelemetry interval =>
      !interval.isZero && !(d.startTelemetry here interval).isOk
    | c => !(Write.refusals (Machine.writes here.time d.state c) d.state).isEmpty

/-! ### Commands -/

variable {d : Device} {here : Surroundings} {c : Command} {line : List Char}

theorem resolve?_nil : Gcode.resolve? [] = none := by decide

/-- A line that names a command is not blank. -/
theorem execute_of_command (h : command? line = some c) : d.execute here line = d.perform here c := by
  have hne : (Gcode.stripComment line).isEmpty = false := by
    cases hl : Gcode.stripComment line with
    | nil =>
      rw [command?, hl, Command.parse?, resolve?_nil] at h
      cases h
    | cons a rest => rfl
  rw [command?] at h
  simp only [execute, hne, h, Bool.false_eq_true, if_false]

/-- A line that names no command does nothing. -/
theorem execute_of_noCommand (d : Device) (here : Surroundings) (h : command? line = none) :
    d.execute here line = (d, "") ∨ d.execute here line = (d, unknownCommand) := by
  rw [command?] at h
  unfold execute
  dsimp only
  split
  · exact .inl rfl
  · rw [h]
    exact .inr rfl

/-- Other commands than those about reports concern the state alone. -/
theorem perform_of_state (hc : ∀ interval, c ≠ .periodicTelemetry interval) :
    d.perform here c = match Machine.execute here.time d.state c with
      | .ok (state, answer) => ({ d with state := state }, answer)
      | .error e => (d, refusal e.message) := by
  unfold perform
  split
  · exact absurd rfl (hc _)
  · rfl

theorem rejection?_of_state (hc : ∀ interval, c ≠ .periodicTelemetry interval) :
    d.rejection? here c = match Machine.execute here.time d.state c with
      | .ok _ => none
      | .error e => some e.message := by
  have h : d.rejection? here c =
      (Write.run (Machine.writes here.time d.state c) d.state).1.map (·.message) := by
    unfold rejection?
    split
    · exact absurd rfl (hc _)
    · rfl
  rw [h, Machine.run_writes]
  cases Machine.execute here.time d.state c <;> rfl

theorem performInPlace_of_state (hc : ∀ interval, c ≠ .periodicTelemetry interval) :
    d.performInPlace here c =
      { d with state := (Write.run (Machine.writes here.time d.state c) d.state).2 } := by
  unfold performInPlace
  split
  · exact absurd rfl (hc _)
  · rfl

/-- Doing the writes of a command in place makes no difference. -/
theorem performInPlace_eq (d : Device) (here : Surroundings) (c : Command) :
    d.performInPlace here c = (d.perform here c).1 := by
  by_cases hc : ∃ interval, c = .periodicTelemetry interval
  · obtain ⟨interval, rfl⟩ := hc
    unfold performInPlace perform
    dsimp only
    split
    · rfl
    · cases d.startTelemetry here interval <;> rfl
  · have hc : ∀ interval, c ≠ .periodicTelemetry interval := fun i hi => hc ⟨i, hi⟩
    rw [performInPlace_of_state hc, perform_of_state hc, Machine.run_writes]
    cases Machine.execute here.time d.state c <;> rfl

/-- A command that is refused says why, and does nothing. -/
theorem perform_of_rejection {reason : String} (h : d.rejection? here c = some reason) :
    d.perform here c = (d, refusal reason) := by
  by_cases hc : ∃ interval, c = .periodicTelemetry interval
  · obtain ⟨interval, rfl⟩ := hc
    simp only [rejection?] at h
    simp only [perform]
    split at h
    · cases h
    · next hz =>
      rw [if_neg hz]
      cases hs : d.startTelemetry here interval with
      | ok e => simp [hs] at h
      | error e =>
        simp only [hs, Option.some.injEq] at h
        rw [← h]
  · have hc : ∀ interval, c ≠ .periodicTelemetry interval := fun i hi => hc ⟨i, hi⟩
    rw [rejection?_of_state hc] at h
    rw [perform_of_state hc]
    cases he : Machine.execute here.time d.state c with
    | ok r => simp [he] at h
    | error e =>
      simp only [he, Option.some.injEq] at h
      rw [← h]

/-- A command that is not refused acknowledges what it has done. -/
theorem perform_acknowledges (h : d.rejection? here c = none) :
    Acknowledges (d.perform here c).2 := by
  by_cases hc : ∃ interval, c = .periodicTelemetry interval
  · obtain ⟨interval, rfl⟩ := hc
    simp only [rejection?] at h
    simp only [perform]
    split
    · exact Machine.okay_acknowledges
    · next hz =>
      rw [if_neg hz] at h
      cases hs : d.startTelemetry here interval with
      | ok e => exact Machine.okay_acknowledges
      | error e => simp [hs] at h
  · have hc : ∀ interval, c ≠ .periodicTelemetry interval := fun i hi => hc ⟨i, hi⟩
    rw [rejection?_of_state hc] at h
    rw [perform_of_state hc]
    cases he : Machine.execute here.time d.state c with
    | ok r => exact Machine.execute_acknowledges he
    | error e => simp [he] at h

/-! ### Lines -/

theorem refusal_startsWith_mark (reason : String) : refusalMark <+: (refusal reason).toList := by
  rw [refusal, String.append_assoc, String.toList_append]
  exact List.prefix_append _ _

/-- Which lines are answered like refused ones. -/
theorem execute_refusal_iff (d : Device) (here : Surroundings) (line : List Char) :
    refusalMark <+: (d.execute here line).2.toList ↔
      ∃ c reason, command? line = some c ∧ d.rejection? here c = some reason := by
  constructor
  · intro hp
    cases hc : command? line with
    | none =>
      exfalso
      -- neither of the two answers of such a line begins like that
      rcases execute_of_noCommand d here hc with h | h
      · rw [h] at hp
        exact absurd (show refusalMark <+: "".toList from hp) (by decide)
      · rw [h] at hp
        exact absurd (show refusalMark <+: unknownCommand.toList from hp) (by decide)
    | some c =>
      rw [execute_of_command hc] at hp
      cases hr : d.rejection? here c with
      | none => exact absurd hp (perform_acknowledges hr).not_refusal
      | some reason => exact ⟨c, reason, rfl, hr⟩
  · rintro ⟨c, reason, hc, hr⟩
    rw [execute_of_command hc, perform_of_rejection hr]
    exact refusal_startsWith_mark reason

/-- Which lines are answered like those without effect. -/
theorem execute_eq_self (d : Device) (here : Surroundings) (line : List Char)
    (h : refusalMark <+: (d.execute here line).2.toList ∨ (d.execute here line).2 = "" ∨
      (d.execute here line).2 = unknownCommand) : (d.execute here line).1 = d := by
  cases hc : command? line with
  | none => rcases execute_of_noCommand d here hc with he | he <;> rw [he]
  | some c =>
    rw [execute_of_command hc] at h ⊢
    cases hr : d.rejection? here c with
    | some reason => rw [perform_of_rejection hr]
    | none =>
      -- a command that is not refused answers in none of these ways
      have ha := perform_acknowledges hr
      rcases h with h | h | h
      · exact absurd h ha.not_refusal
      · exact absurd h ha.ne_empty
      · exact absurd h ha.ne_unknown

/-- **A line is answered with an error if and only if what it rests on is refused**, with the reason
in the answer; such a line, one without an answer and one that names no operation leave the device as
it was; and the writes of a line may as well be done in place, one after the other. -/
theorem refused_iff (d : Device) (here : Surroundings) (line : List Char) :
    (refusalMark <+: (d.execute here line).2.toList ↔
      ∃ c reason, command? line = some c ∧ d.rejection? here c = some reason) ∧
    (∀ c reason, command? line = some c → d.rejection? here c = some reason →
      (d.execute here line).2 = refusal reason) ∧
    (refusalMark <+: (d.execute here line).2.toList ∨ (d.execute here line).2 = "" ∨
      (d.execute here line).2 = unknownCommand → (d.execute here line).1 = d) ∧
    (d.execute here line).1 = ((command? line).map (d.performInPlace here)).getD d := by
  refine ⟨d.execute_refusal_iff here line, ?_, d.execute_eq_self here line, ?_⟩
  · intro c reason hc hr
    rw [execute_of_command hc, perform_of_rejection hr]
  · cases hc : command? line with
    | none => rcases execute_of_noCommand d here hc with h | h <;> rw [h] <;> rfl
    | some c =>
      rw [execute_of_command hc, ← performInPlace_eq]
      rfl

/-- A move whose last axis leads out of the travel volume, on a printer that reports. -/
theorem refused_iff_lastAxis :
    let here : Surroundings := ⟨⟨0, 0⟩, .ofSeconds 1, true⟩
    let d := { standard with
      binding := some 3
      streamer := Streamer.new.start .zero (.ofSeconds 1) 3 }
    let line := "G1 X1 Y2 Z221 F100 ; up".toList
    let reason := "move out of bounds: Z 221.00 not within 0 to 220.00"
    command? line = some (.moveLinear (some 1) (some 2) (some 221) (some 100)) ∧
      d.rejection? here (.moveLinear (some 1) (some 2) (some 221) (some 100)) = some reason ∧
      d.execute here line = (d, refusal reason) := by
  intro here d line reason
  have hc : command? line = some (.moveLinear (some 1) (some 2) (some 221) (some 100)) := by
    decide +kernel
  have hr : d.rejection? here (.moveLinear (some 1) (some 2) (some 221) (some 100)) =
      some reason := by
    decide +kernel
  obtain ⟨hiff, hreason, hself, -⟩ := refused_iff d here line
  exact ⟨hc, hr, Prod.ext (hself (.inl (hiff.mpr ⟨_, _, hc, hr⟩))) (hreason _ _ hc hr)⟩

/-- The feed rate of a move may be refused without a word: in inches the largest rates that a line can
tell are not finite any more, and the move has been made by then. -/
theorem feedRate_refused_silently :
    let here : Surroundings := ⟨⟨0, 0⟩, .zero, true⟩
    let inches := (standard.execute here "G20".toList).1
    let line := "G1 X1 F1".toList ++ List.replicate 308 '0'
    ¬(refusalMark <+: (inches.execute here line).2.toList ↔ inches.meetsRefusal here line) := by
  decide +kernel

end VirtualPrinter.Service.Device
