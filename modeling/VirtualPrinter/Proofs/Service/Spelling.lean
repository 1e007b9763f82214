import VirtualPrinter.Proofs.Gcode.Octets
import VirtualPrinter.Proofs.Gcode.Spelling
import VirtualPrinter.Proofs.Machine.Lifesign
import VirtualPrinter.Proofs.Service.Refused

/-!
# Lines and their spellings

A device acts on what a line asks for, and nothing else of the line matters: neither how it is written
nor when it arrives, but for the dates that the device keeps, which are the last sign of life of its
printer and the instants of its reports.  What a line asks for is known from its first token.

## Main definitions

* `Device.undated`: a device without its dates.
* `Device.converse`: the answers to a script, and the device after it.

## Main results

* `lookup_exact`: the first token decides, and which lines name no known operation.
* `perform_undated`: commands do not look at dates.
* `execute_respelled`: spellings of a line are answered alike and do the same.
* `converse_respelled`: so are scripts, line by line.
-/

namespace VirtualPrinter.Service

open Gcode (Command Opcode Respelled reading)
open Machine (State unknownCommand)

/-! ### Dates -/

/-- A stream without its next instant. -/
def Stream.undated (s : Stream) : Stream := { s with due := .zero }

/-- A streamer without the instants of its reports. -/
def Streamer.undated (s : Streamer) : Streamer := { s with streams := s.streams.map Stream.undated }

/-- What a device finds around it, without the clocks. -/
def Surroundings.undated (here : Surroundings) : Surroundings := ⟨⟨0, 0⟩, .zero, here.runsTasks⟩

/-- A device without its dates: the last sign of life of its printer, and the instants of its
reports. -/
def Device.undated (d : Device) : Device :=
  { d with state := d.state.withKeepalive none, streamer := d.streamer.undated }

namespace Streamer

@[simp] theorem undated_undated (s : Streamer) : s.undated.undated = s.undated := by
  simp [undated, Stream.undated]

theorem undated_stop (s : Streamer) : s.undated.stop.undated = s.stop.undated := by
  have hgive (streams : List Stream) (signal : StopSignal) :
      (give (streams.map Stream.undated) signal).map Stream.undated =
        (give streams signal).map Stream.undated := by
    rw [give, give, List.map_map, List.map_map, List.map_map]
    refine List.map_congr_left fun stream _ => ?_
    simp only [Function.comp_apply, Stream.undated]
    split <;> rfl
  rw [stop, stop, undated, undated, undated]
  cases s.signal with
  | none => simp [Stream.undated]
  | some signal => simp only [Option.map_some, Option.getD_some, hgive]

theorem undated_start (s : Streamer) (now interval : Time.Span) (connection : Nat) :
    (s.undated.start .zero interval connection).undated =
      (s.start now interval connection).undated := by
  have hrunning : s.undated.isRunning = s.isRunning := rfl
  rw [start, start, hrunning]
  split
  · exact undated_undated s
  · simp only [undated, List.map_append, List.map_map]
    split <;> simp [Stream.undated]

end Streamer

namespace Device

variable {d e : Device} {here here' : Surroundings}

theorem undated_congr (hid : d.id = e.id) (hstate : d.state.Akin e.state)
    (hstreamer : d.streamer.undated = e.streamer.undated) (hbinding : d.binding = e.binding) :
    d.undated = e.undated := by
  have hkeep : d.state.withKeepalive none = e.state.withKeepalive none := by
    rw [hstate]
    rfl
  rw [undated, undated, hid, hkeep, hstreamer, hbinding]

@[simp] theorem undated_undated (d : Device) : d.undated.undated = d.undated :=
  undated_congr rfl (.refl _) d.streamer.undated_undated rfl

/-- Reports start in the same way on a device without dates. -/
theorem startTelemetry_undated (d : Device) (here : Surroundings) (interval : Time.Span) :
    (d.undated.startTelemetry here.undated interval).map undated =
      (d.startTelemetry here interval).map undated := by
  have hbinding : d.undated.binding = d.binding := rfl
  have hrunning : d.undated.streamer.isRunning = d.streamer.isRunning := rfl
  have hruns : here.undated.runsTasks = here.runsTasks := rfl
  have hstate : d.undated.state.Akin d.state := .symm (.withKeepalive d.state none)
  unfold startTelemetry
  rw [hbinding]
  cases d.binding with
  | none => rfl
  | some connection =>
    simp only [Streamer.request, hrunning, hruns]
    split
    · exact congrArg Except.ok (undated_congr rfl hstate d.streamer.undated_undated rfl)
    · split
      · exact congrArg Except.ok (undated_congr rfl hstate
          (d.streamer.undated_start here.now interval connection) rfl)
      · rfl

/-- **Commands do not look at dates.** -/
theorem perform_undated (d : Device) (here : Surroundings) (c : Command) :
    (d.undated.perform here.undated c).1.undated = (d.perform here c).1.undated ∧
      (d.undated.perform here.undated c).2 = (d.perform here c).2 := by
  have hstate : d.undated.state.Akin d.state := .symm (.withKeepalive d.state none)
  -- reports are the streamer's, and all other commands the printer's
  by_cases hc : ∃ interval, c = .periodicTelemetry interval
  · obtain ⟨interval, rfl⟩ := hc
    simp only [perform]
    split
    · exact ⟨undated_congr rfl hstate d.streamer.undated_stop rfl, rfl⟩
    · have hstart := d.startTelemetry_undated here interval
      generalize d.undated.startTelemetry here.undated interval = x at hstart ⊢
      generalize d.startTelemetry here interval = y at hstart ⊢
      cases x with
      | error error =>
        cases y with
        | error error' =>
          obtain rfl : error = error' := Except.error.inj hstart
          exact ⟨d.undated_undated, rfl⟩
        | ok e' => exact absurd hstart (by simp [Except.map])
      | ok e =>
        cases y with
        | error error' => exact absurd hstart (by simp [Except.map])
        | ok e' => exact ⟨Except.ok.inj hstart, rfl⟩
  · have hc : ∀ interval, c ≠ .periodicTelemetry interval := fun i hi => hc ⟨i, hi⟩
    have hakin := Machine.execute_akin hstate here.undated.time here.time c
    rw [perform_of_state hc, perform_of_state hc]
    generalize Machine.execute here.undated.time d.undated.state c = x at hakin ⊢
    generalize Machine.execute here.time d.state c = y at hakin ⊢
    cases hakin with
    | done hs => exact ⟨undated_congr rfl hs d.streamer.undated_undated rfl, rfl⟩
    | refused e => exact ⟨d.undated_undated, rfl⟩

/-! ### Lines -/

/-- A device acts on what a line asks for. -/
theorem execute_eq (d : Device) (here : Surroundings) (line : List Char) :
    d.execute here line = match reading line with
      | none => (d, "")
      | some none => (d, unknownCommand)
      | some (some c) => d.perform here c := by
  unfold execute reading
  dsimp only
  split
  · rfl
  · cases Command.parse? (Gcode.stripComment line) <;> rfl

/-- Lines do not look at dates, either. -/
theorem execute_undated (d : Device) (here : Surroundings) (line : List Char) :
    (d.undated.execute here.undated line).1.undated = (d.execute here line).1.undated ∧
      (d.undated.execute here.undated line).2 = (d.execute here line).2 := by
  rw [execute_eq, execute_eq]
  match reading line with
  | none => exact ⟨d.undated_undated, rfl⟩
  | some none => exact ⟨d.undated_undated, rfl⟩
  | some (some c) => exact d.perform_undated here c

/-- Lines that ask for the same are answered alike and do the same, on devices and in surroundings
that differ in dates alone. -/
theorem execute_of_reading {line line' : List Char} (hd : d.undated = e.undated)
    (hr : here.runsTasks = here'.runsTasks) (h : reading line = reading line') :
    (d.execute here line).1.undated = (e.execute here' line').1.undated ∧
      (d.execute here line).2 = (e.execute here' line').2 := by
  have hhere : here.undated = here'.undated := by rw [Surroundings.undated, hr]; rfl
  obtain ⟨hdevice, hanswer⟩ := d.execute_undated here line
  obtain ⟨hdevice', hanswer'⟩ := e.execute_undated here' line'
  -- without their dates the two are the same run
  rw [← hdevice, ← hdevice', ← hanswer, ← hanswer', hd, hhere, execute_eq, execute_eq, h]
  exact ⟨rfl, rfl⟩

/-- A command is acknowledged or refused. -/
theorem perform_ne_unknown (d : Device) (here : Surroundings) (c : Command) :
    (d.perform here c).2 ≠ unknownCommand := by
  cases hr : d.rejection? here c with
  | none => exact (perform_acknowledges hr).ne_unknown
  | some reason =>
    intro h
    have hmark := refusal_startsWith_mark reason
    rw [perform_of_rejection hr] at h
    rw [show refusal reason = unknownCommand from h] at hmark
    exact absurd hmark (by decide)

/-- Which lines are answered as naming no known operation. -/
theorem execute_unknown_iff (d : Device) (here : Surroundings) (line : List Char) :
    (d.execute here line).2 = unknownCommand ↔
      Gcode.stripComment line ≠ [] ∧ Gcode.resolve? (Gcode.stripComment line) = none := by
  rw [execute_eq, reading]
  cases hline : Gcode.stripComment line with
  | nil =>
    have hne : "" ≠ unknownCommand := by decide
    exact iff_of_false hne (by simp)
  | cons c rest =>
    simp only [List.isEmpty_cons, Bool.false_eq_true, if_false, ne_eq, reduceCtorEq,
      not_false_eq_true, true_and, Command.parse?]
    cases Gcode.resolve? (c :: rest) with
    | none => exact iff_of_true rfl rfl
    | some found => exact iff_of_false (d.perform_ne_unknown here _) (Option.some_ne_none _)

/-- **The first token decides.** A line names an operation if and only if its first token is one of
its codes, in capitals or small letters, and what is behind the token is left to read.  No two codes
fit a line, so that the longest need not be chosen, and no cut through its octets fails.  The lines
that are answered as unknown are those that start with another token. -/
theorem lookup_exact (line : List Char) :
    (∀ op rest, Gcode.resolve? line = some (op, rest) ↔
      (∃ code, (code, op) ∈ Gcode.registry ∧
        Text.SameLetters (Gcode.token line) code.toList) ∧ rest = Gcode.behindToken line) ∧
    (Gcode.resolve? line = none ↔
      ∀ entry ∈ Gcode.registry, ¬Text.SameLetters (Gcode.token line) entry.1.toList) ∧
    (Gcode.fitting line).length ≤ 1 ∧
    Gcode.scan (Text.Utf8.encode line) =
      .ok ((Gcode.resolve? line).map fun found => (found.1, Text.Utf8.encode found.2)) ∧
    ∀ (d : Device) (here : Surroundings), (d.execute here line).2 = unknownCommand ↔
      Gcode.stripComment line ≠ [] ∧ ∀ entry ∈ Gcode.registry,
        ¬Text.SameLetters (Gcode.token (Gcode.stripComment line)) entry.1.toList := by
  refine ⟨fun op rest => Gcode.resolve?_eq_some_iff, Gcode.resolve?_eq_none_iff,
    Gcode.length_fitting_le_one line, Gcode.scan_encode line, fun d here => ?_⟩
  rw [execute_unknown_iff, Gcode.resolve?_eq_none_iff]

/-! ### Spellings -/

theorem reading_of_spellings {line line' : List Char} (h : Relation.EqvGen Respelled line line') :
    reading line = reading line' := by
  induction h with
  | rel _ _ h => exact h.reading_eq.symm
  | refl _ => rfl
  | symm _ _ _ ih => exact ih.symm
  | trans _ _ _ _ _ ih ih' => exact ih.trans ih'

/-- **It does not matter how a line is written.**  Two spellings of a line have the same answer and
leave the same device; at different times, the devices that they leave differ in dates alone. -/
theorem execute_respelled {line line' : List Char} (h : Relation.EqvGen Respelled line line')
    (d : Device) :
    (∀ here, d.execute here line = d.execute here line') ∧
    ∀ here here' : Surroundings, here.runsTasks = here'.runsTasks →
      (d.execute here line).1.undated = (d.execute here' line').1.undated ∧
        (d.execute here line).2 = (d.execute here' line').2 := by
  have hreading := reading_of_spellings h
  refine ⟨fun here => ?_, fun here here' hr => execute_of_reading rfl hr hreading⟩
  rw [execute_eq, execute_eq, hreading]

/-- A move by its name, in small letters, behind a blank and with a comment. -/
theorem execute_respelled_move :
    let here : Surroundings := ⟨⟨0, 0⟩, .zero, true⟩
    let later : Surroundings := ⟨⟨60, 0⟩, .ofSeconds 60, true⟩
    let line := "G1 x5".toList
    let line' := " move-linear X5 ; to the right".toList
    Relation.EqvGen Respelled line line' ∧
      standard.execute here line = standard.execute here line' ∧
      (standard.execute here line).1.undated = (standard.execute later line').1.undated := by
  intro here later line line'
  have hop : Gcode.resolve? (Gcode.stripComment line) = some (.moveLinear, " x5".toList) := by
    decide +kernel
  have hname : Respelled line (Gcode.withCode "MOVE-LINEAR".toList line) :=
    .code hop (by decide +kernel)
  have hsmall : Respelled (Gcode.withCode "MOVE-LINEAR".toList line) "move-linear X5".toList :=
    .letters (by decide +kernel)
  have hblank : ∀ c ∈ [' '], Text.isBlank c := by simp [Text.isBlank]
  have hbefore : Respelled "move-linear X5".toList " move-linear X5".toList :=
    .blanksBefore _ hblank
  have hbehind : Respelled " move-linear X5".toList " move-linear X5 ".toList :=
    .blanksBehind _ hblank
  have hcomment : Respelled " move-linear X5 ".toList line' := .comment _ " to the right".toList
  have hspelled : Relation.EqvGen Respelled line line' :=
    ((((Relation.EqvGen.rel _ _ hname).trans _ _ _ (.rel _ _ hsmall)).trans _ _ _
      (.rel _ _ hbefore)).trans _ _ _ (.rel _ _ hbehind)).trans _ _ _ (.rel _ _ hcomment)
  obtain ⟨hsame, hlater⟩ := execute_respelled hspelled standard
  exact ⟨hspelled, hsame here, (hlater here later rfl).1⟩

/-- The answers to a script, and the device after it. -/
def converse (d : Device) : List (Surroundings × List Char) → Device × List String
  | [] => (d, [])
  | (here, line) :: rest =>
    let after := (d.execute here line).1.converse rest
    (after.1, (d.execute here line).2 :: after.2)

theorem converse_append (d : Device) (first second : List (Surroundings × List Char)) :
    d.converse (first ++ second) = (((d.converse first).1.converse second).1,
      (d.converse first).2 ++ ((d.converse first).1.converse second).2) := by
  induction first generalizing d with
  | nil => rfl
  | cons entry first ih => simp only [List.cons_append, converse, ih]

/-- Scripts whose lines ask for the same, one by one, are answered alike and do the same. -/
theorem converse_of_reading {script script' : List (Surroundings × List Char)}
    (hd : d.undated = e.undated)
    (h : List.Forall₂ (fun entry entry' => entry.1.runsTasks = entry'.1.runsTasks ∧
      reading entry.2 = reading entry'.2) script script') :
    (d.converse script).1.undated = (e.converse script').1.undated ∧
      (d.converse script).2 = (e.converse script').2 := by
  induction h generalizing d e with
  | nil => exact ⟨hd, rfl⟩
  | cons hentry _ ih =>
    obtain ⟨hdevice, hanswer⟩ := execute_of_reading hd hentry.1 hentry.2
    obtain ⟨hafter, hanswers⟩ := ih hdevice
    exact ⟨hafter, congrArg₂ List.cons hanswer hanswers⟩

/-- **Nor does it matter in a script** how its lines are written. -/
theorem converse_respelled {script script' : List (Surroundings × List Char)}
    (hd : d.undated = e.undated)
    (h : List.Forall₂ (fun entry entry' => entry.1.runsTasks = entry'.1.runsTasks ∧
      Relation.EqvGen Respelled entry.2 entry'.2) script script') :
    (d.converse script).1.undated = (e.converse script').1.undated ∧
      (d.converse script).2 = (e.converse script').2 :=
  converse_of_reading hd (h.imp fun _ _ hentry => ⟨hentry.1, reading_of_spellings hentry.2⟩)

end Device
end VirtualPrinter.Service
