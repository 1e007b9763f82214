import VirtualPrinter.Proofs.Gcode.Interval
import VirtualPrinter.Proofs.Service.Refused
import VirtualPrinter.Proofs.Service.Streaming

/-!
# Reports that are started and stopped

One line starts the reports of a printer and stops them: an interval of no time stops them, and any
other starts them, or keeps those that run.  The interval is meant to be none for a number that is zero
and for no other.  But it is counted in nanoseconds, so that a number that is not zero stops the reports
as well if it is no longer than half of one.

## Main results

* `Streamer.stopped_of_stop`, `Streamer.start_of_idle`: streams that are told to stop, and that begin.
* `perform_stops`, `perform_keeps`, `perform_starts`: what becomes of the reports.
* `stops_at_zero_iff`: for which lines zero alone stops them.
-/

namespace VirtualPrinter.Service

open Gcode (AsksFor Command)
open Machine (okay)
open Number (value value_of_zero)
open Time (Span)

/-! ### Streamers -/

namespace Streamer

variable {s : Streamer}

/-- A stream whose signal the streamer holds is told to stop. -/
theorem stopped_of_stop {signal : StopSignal} (hs : s.signal = some signal) {x : Stream}
    (hx : x ∈ s.stop.streams) (hg : x.generation = signal.generation) : x.stopped = true := by
  rw [stop, hs] at hx
  obtain ⟨y, -, -, hkept⟩ := mem_give hx
  cases hgo : x.stopped with
  | true => rfl
  | false => exact absurd hg (hkept hgo).2

/-- A stream that begins is the last one, and reports at once. -/
theorem start_of_idle (hs : s.isRunning = false) {interval : Span} (hi : interval.isZero = false)
    (now : Span) (connection : Nat) :
    s.start now interval connection =
      { generation := s.generation + 1
        interval := some interval
        signal := some ⟨s.generation + 1, connection⟩
        task := some (s.generation + 1)
        streams := s.streams ++ [⟨s.generation + 1, connection, interval, false, now⟩] } := by
  simp [start, hs, hi]

end Streamer

namespace Device

variable {d : Device} {here : Surroundings} {interval : Span} {connection : Nat}

/-! ### Commands -/

/-- An interval of no time stops the reports. -/
theorem perform_stops (hz : interval.isZero) :
    d.perform here (.periodicTelemetry interval) = (d.stopTelemetry, okay) := by
  simp only [perform, hz, if_true]

/-- Reports that run are kept. -/
theorem perform_keeps (hz : interval.isZero = false) (hb : d.binding = some connection)
    (hrun : d.streamer.isRunning) : d.perform here (.periodicTelemetry interval) = (d, okay) := by
  have hkeep : d.startTelemetry here interval = .ok d := by
    obtain ⟨id, state, streamer, binding⟩ := d
    obtain rfl : binding = some connection := hb
    simp only [startTelemetry, Streamer.request, hrun, if_true]
    rfl
  simp only [perform, hz, hkeep, Bool.false_eq_true, if_false]

/-- Reports that do not run are started, where tasks can be started. -/
theorem perform_starts (hz : interval.isZero = false) (hb : d.binding = some connection)
    (hidle : d.streamer.isRunning = false) (hr : here.runsTasks) :
    d.perform here (.periodicTelemetry interval) =
      ({ d with streamer := d.streamer.start here.now interval connection }, okay) := by
  have hstart : d.startTelemetry here interval =
      .ok { d with streamer := d.streamer.start here.now interval connection } := by
    simp only [startTelemetry, hb, Streamer.request, hidle, hr, Bool.false_eq_true, if_true, if_false]
    rfl
  simp only [perform, hz, hstart, Bool.false_eq_true, if_false]

/-- Without a connection, or where no task can be started, none are. -/
theorem perform_starts_not (hz : interval.isZero = false) {e : Error}
    (he : d.startTelemetry here interval = .error e) :
    d.perform here (.periodicTelemetry interval) = (d, refusal e.message) := by
  simp only [perform, hz, he, Bool.false_eq_true, if_false]

/-! ### Lines -/

/-- **For which lines zero alone stops the reports.**  A line about reports asks for an interval by its
`S`.  An interval of no time stops the reports that run, and any other keeps them, or starts reports on
the connection that is bound, the first of them at once.  The interval is none exactly if the number is
not negative and no longer than half a nanosecond; so it is none for zero and nothing else if and only
if the line does not ask for a positive time that is as short as that. -/
theorem stops_at_zero_iff (d : Device) (here : Surroundings) {line rest : List Char}
    (hline : Gcode.resolve? (Gcode.stripComment line) = some (.periodicTelemetry, rest)) :
    ∃ interval, command? line = some (.periodicTelemetry interval) ∧
      AsksFor ((Gcode.words rest).get? 'S') interval ∧
      (interval.isZero ↔
        ∃ x, (Gcode.words rest).get? 'S' = some x ∧ 0 ≤ x ∧ value x * 10 ^ 9 ≤ 1 / 2) ∧
      ((interval.isZero ↔ ∃ x, (Gcode.words rest).get? 'S' = some x ∧ x == 0) ↔
        ∀ x, (Gcode.words rest).get? 'S' = some x → 0 < x → 1 / 2 < value x * 10 ^ 9) ∧
      (interval.isZero → d.execute here line = (d.stopTelemetry, okay) ∧
        d.stopTelemetry.streamer.isRunning = false ∧
        ∀ signal, d.streamer.signal = some signal → ∀ x ∈ d.stopTelemetry.streamer.streams,
          x.generation = signal.generation → x.stopped) ∧
      (interval.isZero = false → ∀ connection, d.binding = some connection →
        (d.streamer.isRunning → d.execute here line = (d, okay)) ∧
        (d.streamer.isRunning = false → here.runsTasks →
          ∃ streamer, d.execute here line = ({ d with streamer := streamer }, okay) ∧
            streamer.isRunning ∧ streamer.interval = some interval ∧
            ⟨streamer.generation, connection, interval, false, here.now⟩ ∈ streamer.streams) ∧
        (d.streamer.isRunning = false → here.runsTasks = false →
          d.execute here line = (d, refusal Error.noRuntime.message))) := by
  have hcommand : command? line =
      some (.periodicTelemetry (Gcode.telemetryInterval (Gcode.words rest))) := by
    rw [command?, Command.parse?, hline]
    rfl
  have hasks := Gcode.telemetryInterval_asksFor rest
  have hfinite {x : Float} (hx : (Gcode.words rest).get? 'S' = some x) : x.isFinite :=
    Gcode.isFinite_of_get? rfl hx
  generalize Gcode.telemetryInterval (Gcode.words rest) = interval at hcommand hasks
  rw [execute_of_command hcommand]
  refine ⟨interval, hcommand, hasks, ?_, ?_, fun hz => ⟨perform_stops hz, rfl, ?_⟩, ?_⟩
  · rw [hasks.isZero_iff]
    exact exists_congr fun x => and_congr_right fun hx =>
      and_congr_left fun _ => Number.value_nonneg_iff (hfinite hx)
  · have hstops : (∃ x, (Gcode.words rest).get? 'S' = some x ∧ x == 0) ↔
        ∃ x, (Gcode.words rest).get? 'S' = some x ∧ value x = 0 :=
      exists_congr fun x => and_congr_right fun hx => (Number.value_eq_zero_iff (hfinite hx)).symm
    rw [hstops, hasks.zero_alone_iff]
    exact forall₂_congr fun x hx => imp_congr_left (Number.value_pos_iff (hfinite hx))
  · exact fun signal hs x hx => Streamer.stopped_of_stop hs hx
  · intro hz connection hb
    refine ⟨perform_keeps hz hb, fun hidle hr => ?_, fun hidle hr => ?_⟩
    · refine ⟨_, perform_starts hz hb hidle hr, ?_⟩
      rw [Streamer.start_of_idle hidle hz]
      exact ⟨rfl, rfl, List.mem_append_right _ List.mem_cons_self⟩
    · refine perform_starts_not hz ?_
      simp only [startTelemetry, hb, Streamer.request, hidle, hr, Bool.false_eq_true, if_false]
      rfl

/-- A printer on a connection: reports that start at the shortest interval, and end at zero. -/
theorem stops_at_zero_iff_bound :
    let here : Surroundings := ⟨⟨0, 0⟩, .zero, true⟩
    let d : Device := { standard with binding := some 0 }
    let e := (d.execute here "periodic-telemetry s.0000000006 ; often".toList).1
    Gcode.resolve? (Gcode.stripComment "periodic-telemetry s.0000000006 ; often".toList) =
        some (.periodicTelemetry, " s.0000000006".toList) ∧
      Gcode.resolve? (Gcode.stripComment "M155 S-0".toList) = some (.periodicTelemetry, " S-0".toList) ∧
      e.streamer.isRunning ∧ e.streamer.interval = some ⟨1⟩ ∧
      e.execute here "M155 S-0".toList = (e.stopTelemetry, okay) ∧
      e.stopTelemetry.streamer.isRunning = false := by
  intro here d e
  have hstart : Gcode.resolve? (Gcode.stripComment "periodic-telemetry s.0000000006 ; often".toList) =
      some (.periodicTelemetry, " s.0000000006".toList) := by
    decide +kernel
  have hstop : Gcode.resolve? (Gcode.stripComment "M155 S-0".toList) =
      some (.periodicTelemetry, " S-0".toList) := by
    decide +kernel
  obtain ⟨interval, hcommand, -, -, -, -, hgoes⟩ := stops_at_zero_iff d here hstart
  obtain rfl : interval = ⟨1⟩ := by
    have hread : command? "periodic-telemetry s.0000000006 ; often".toList =
        some (.periodicTelemetry ⟨1⟩) := by
      decide +kernel
    rw [hread] at hcommand
    cases hcommand
    rfl
  obtain ⟨streamer, hexecute, hrun, hinterval, -⟩ := (hgoes (by decide) 0 rfl).2.1 rfl rfl
  obtain ⟨none, -, -, hzero, -, hends, -⟩ := stops_at_zero_iff e here hstop
  have hnone : none.isZero := hzero.mpr ⟨-0, by decide +kernel, by decide +kernel, by
    norm_num [value_of_zero (x := -0) (s := .negative) rfl]⟩
  obtain ⟨hexecute', hidle, -⟩ := hends hnone
  refine ⟨hstart, hstop, ?_, ?_, hexecute', hidle⟩
  · rw [show e = _ from congrArg Prod.fst hexecute]
    exact hrun
  · rw [show e = _ from congrArg Prod.fst hexecute]
    exact hinterval

/-- A tenth of a nanosecond is not zero, and stops the reports. -/
theorem stops_at_tenth :
    let here : Surroundings := ⟨⟨0, 0⟩, .zero, true⟩
    let running := Streamer.new.start .zero (.ofSeconds 1) 0
    let d : Device := { standard with binding := some 0, streamer := running }
    let line := "M155 S0.0000000001".toList
    ∃ rest x, Gcode.resolve? (Gcode.stripComment line) = some (.periodicTelemetry, rest) ∧
      (Gcode.words rest).get? 'S' = some x ∧ ¬x == 0 ∧ d.streamer.isRunning ∧
      (Gcode.telemetryInterval (Gcode.words rest)).isZero ∧
      (d.execute here line).2 = okay ∧ (d.execute here line).1.streamer.isRunning = false := by
  refine ⟨" S0.0000000001".toList, 1e-10, ?_⟩
  decide +kernel

end Device

end VirtualPrinter.Service
