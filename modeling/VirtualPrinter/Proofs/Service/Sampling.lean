import VirtualPrinter.Proofs.Machine.StatusLine
import VirtualPrinter.Proofs.Service.Custody
import VirtualPrinter.Proofs.Service.Heating

/-!
# Reports in fixed columns

A stream reports the status line of its printer.  Whatever happens in a world, the state of the printer
is changed by lines that are executed and by the application alone.  Lines leave temperatures and
targets in their ranges, and so does the application as long as it measures and sets what the printer
accepts; then all reports of a run have the same length and the same columns.

## Main definitions

* `Device.Reports`: a frame that tells the state of a printer in fixed columns.
* `World.History.KeepsRanges`: the application leaves the heaters in their ranges.

## Main results

* `World.state_of_apply`: what an act can do to the state of the printer.
* `World.Run.heatersInRange`: the heaters stay in their ranges, in every run.
* `Device.reports_tabulate`: what is reported.
-/

namespace VirtualPrinter.Service

open Machine (Heater State)
open Wire (CommandResponse DeviceId Frame)

/-! ### Lines and measurements -/

namespace Device

variable {d : Device}

theorem execute_heatersInRange (h : d.state.HeatersInRange) (here : Surroundings) (line : List Char) :
    (d.execute here line).1.state.HeatersInRange :=
  execute_state h (fun hc => h.execute hc) here line

theorem meet_heatersInRange (h : d.state.HeatersInRange) (happening : Happening) :
    (d.meet happening).state.HeatersInRange := by
  cases happening with
  | line here text => exact execute_heatersInRange h here text
  | measured heater x =>
    rcases d.meet_measured_cases heater x with ⟨s, hm, he⟩ | he
    · rw [he]
      exact h.measure hm
    · rwa [he]

/-- **Through all lines and measurements** the heaters stay in their ranges. -/
theorem meetAll_heatersInRange (h : d.state.HeatersInRange) (run : List Happening) :
    (d.meetAll run).state.HeatersInRange := by
  induction run generalizing d with
  | nil => exact h
  | cons happening rest ih => exact ih (meet_heatersInRange h happening)

@[simp] theorem release_state (d : Device) (id : Nat) : (d.release id).state = d.state := by
  unfold release detach
  split <;> rfl

end Device

/-! ### Acts -/

namespace World

variable {w w' : World} {a : Act}

theorem state_of_next {t : Task} (h : w.next t = some w') :
    w'.device.state = w.device.state ∨
      ∃ line, w'.device.state = (w.device.execute w.here line).1.state := by
  cases t with
  | stream generation =>
    left
    simp only [next, stepStream] at h
    split at h
    · cases h
    · split at h
      · cases h
        rfl
      · split at h
        · cases h
          rfl
        · split at h <;> cases h
          unfold report
          split <;> rfl
  | supervisor i =>
    left
    obtain ⟨c, -, h⟩ := Option.bind_eq_some_iff.mp h
    unfold stepSupervisor at h
    split at h <;> cases h
    exact Device.release_state _ _
  | consumer i =>
    obtain ⟨c, -, h⟩ := Option.bind_eq_some_iff.mp h
    obtain ⟨⟨station, d⟩, hc, rfl⟩ := Option.map_eq_some_iff.mp h
    exact (Connection.stepConsumer_cases hc).device.imp (congrArg _) (.imp fun _ => congrArg _)
  | reader i =>
    obtain ⟨c, -, h⟩ := Option.bind_eq_some_iff.mp h
    obtain ⟨⟨c', d⟩, hc, rfl⟩ := Option.map_eq_some_iff.mp h
    exact (Connection.stepReader_cases hc).device.imp (congrArg _) (.imp fun _ => congrArg _)
  | writer i | watch i =>
    obtain ⟨c, -, h⟩ := Option.bind_eq_some_iff.mp h
    obtain ⟨c', -, rfl⟩ := Option.map_eq_some_iff.mp h
    exact .inl rfl

/-- **What an act can do to the state of the printer**: nothing, what a line does, or what the
application wants. -/
theorem state_of_apply (ha : w.apply a = some w') :
    w'.device.state = w.device.state ∨
      (∃ line, w'.device.state = (w.device.execute w.here line).1.state) ∨ a = .change w'.device := by
  cases hq : a.isQuiet with
  | true => exact .inl (congrArg _ (apply_of_isQuiet hq ha).1)
  | false =>
    cases a with
    | step t => exact (state_of_next ha).imp_right .inl
    | establish config parent link =>
      left
      rw [(establish_device (Establishment.toOption_eq_some_iff.mp ha)).2]
    | close i =>
      left
      cases ha
      unfold close
      split
      · rfl
      · exact Device.release_state _ _
    | order parent =>
      cases ha
      exact .inl rfl
    | instruct line =>
      cases ha
      exact .inr (.inl ⟨line, rfl⟩)
    | change d =>
      cases ha
      exact .inr (.inr rfl)
    | offer | joinLine | offerInLine | leaveLine | peerWrite | peerTake | dropPeer | pass => cases hq

/-- The application leaves the heaters in their ranges whenever it changes the printer. -/
def History.KeepsRanges (h : History) : Prop :=
  ∀ p ∈ h, ∀ d, p.2 = .change d → p.1.device.state.HeatersInRange → d.state.HeatersInRange

/-- **The heaters stay in their ranges**, whatever is done in a world. -/
theorem Run.heatersInRange {h : History} (hr : w.Run h w') (hw : w.device.state.HeatersInRange)
    (hk : h.KeepsRanges) :
    w'.device.state.HeatersInRange ∧ ∀ p ∈ h, p.1.device.state.HeatersInRange := by
  induction hr with
  | start => exact ⟨hw, List.forall_mem_nil _⟩
  | @act h v v' a hr ha ih =>
    obtain ⟨hv, hh⟩ := ih fun p hp => hk p (List.mem_append_left _ hp)
    have hstep : v'.device.state.HeatersInRange := by
      rcases state_of_apply ha with hs | ⟨line, hs⟩ | rfl
      · rwa [hs]
      · rw [hs]
        exact Device.execute_heatersInRange hv v.here line
      · exact hk (v, .change v'.device) (List.mem_append_right _ List.mem_cons_self) _ rfl hv
    refine ⟨hstep, List.forall_mem_append.mpr ⟨hh, ?_⟩⟩
    exact List.forall_mem_singleton.mpr hv

/-- What a stream offers to the send queue is the report of the printer. -/
theorem moveOf_stream_eq_offer {generation id : Nat} {c : Connection} {f : Frame}
    (h : w.moveOf id c (.step (.stream generation)) = .offer f) : f = sample w.device := by
  unfold moveOf at h
  split at h
  · simp only [moveAt] at h
    split at h
    · cases h
    · split at h <;> cases h
      rfl
  · cases h

end World

/-! ### Reports -/

namespace Device

open World (sample)

/-- A frame tells the state of a printer in the columns of the status line. -/
def Reports (d : Device) (f : Frame) : Prop :=
  ∃ line, f = .message (CommandResponse.toEvent ⟨DeviceId.ofNat d.id.toNat, line⟩) ∧
    d.state.Tabulates line.toList

theorem reports_sample {d : Device} (h : d.state.HeatersInRange) : d.Reports (sample d) :=
  ⟨_, rfl, h.statusLine⟩

/-- What a stream reports in a run. -/
theorem reports_of_stream {w w' v : World} {h : World.History} (hr : w.Run h w')
    (hw : w.device.state.HeatersInRange) (hk : h.KeepsRanges) {generation id : Nat}
    (hv : (v, .step (.stream generation)) ∈ h) {c : Connection} {f : Frame}
    (hf : v.moveOf id c (.step (.stream generation)) = .offer f) : v.device.Reports f := by
  have hstate : v.device.state.HeatersInRange :=
    (hr.heatersInRange hw hk).2 (v, .step (.stream generation)) hv
  rw [World.moveOf_stream_eq_offer hf]
  exact reports_sample hstate

/-- **Every report has its columns at the same places.**  Heaters in their ranges have a status line of
forty-two characters, which tells temperatures and targets with two places at the right ends of its
columns.  So has every report of a stream: after any lines and measurements, and in every run of a world
in which the application leaves the heaters in their ranges. -/
theorem reports_tabulate :
    (∀ s : State, s.HeatersInRange → s.Tabulates s.statusLine.toList) ∧
    (∀ d : Device, d.state.HeatersInRange →
      ∀ run, (d.meetAll run).Reports (sample (d.meetAll run))) ∧
    ∀ (w w' : World) (h : World.History), w.device.state.HeatersInRange → w.Run h w' →
      h.KeepsRanges → ∀ v generation, (v, .step (.stream generation)) ∈ h → ∀ id c f,
        v.moveOf id c (.step (.stream generation)) = .offer f → v.device.Reports f := by
  refine ⟨fun s hs => hs.statusLine, fun d hd run => ?_, ?_⟩
  · exact reports_sample (meetAll_heatersInRange hd run)
  · intro w w' h hw hr hk v generation hv id c f hf
    exact reports_of_stream hr hw hk hv hf

/-- Heaters at their greatest temperatures, a zero with a sign, and a target that is rounded up to one
more digit; a line and measurements, one of them out of the range; and a stream that reports after the
application has measured. -/
theorem reports_tabulate_extremes :
    let here : Surroundings := ⟨⟨0, 0⟩, .zero, true⟩
    let s : State := { standard.state with
      extruder := { standard.state.extruder with temperature := 300, targetTemperature := -0 }
      heatbed := { standard.state.heatbed with temperature := 120, targetTemperature := 99.996 } }
    let d : Device := { standard with
      state := s, binding := some 0, streamer := Streamer.new.start .zero (.ofSeconds 1) 0 }
    let run : List Happening :=
      [.line here "M104 S9.995".toList, .measured .hotend 300.5, .measured .bed 0.005]
    let c := Connection.start .standard none .new freshLink
    let w : World := { World.standard with device := d, connections := [c] }
    let e : Device := { d with state := Heater.hotend.measured s 9.9951 }
    (s.HeatersInRange ∧ s.statusLine = "T:300.00 / -0.00 B:120.00 /100.00 @:0 B@:0" ∧
      s.Tabulates s.statusLine.toList) ∧
    (d.meetAll run).Reports (sample (d.meetAll run)) ∧
    ∃ w', w.Run [(w, .change e), ({ w with device := e }, .step (.stream 1))] w' ∧
      e.Reports (sample e) := by
  intro here s d run c w e
  obtain ⟨hlines, hmeets, hruns⟩ := reports_tabulate
  have hbounded : s.Bounded := by decide +kernel
  have hs : s.HeatersInRange := hbounded.heatersInRange
  have hline : s.statusLine = "T:300.00 / -0.00 B:120.00 /100.00 @:0 B@:0" := by decide +kernel
  have hmeasure : Heater.hotend.measure s 9.9951 = .ok e.state :=
    Heater.measure_eq_ok_iff.mpr ⟨by decide +kernel, rfl⟩
  have he : e.state.HeatersInRange := hs.measure hmeasure
  let v : World := { w with device := e }
  obtain ⟨w', hstep⟩ : ∃ w', v.apply (.step (.stream 1)) = some w' := ⟨_, rfl⟩
  have hr : w.Run [(w, .change e), (v, .step (.stream 1))] w' := .act (.act .start rfl) hstep
  have hk : World.History.KeepsRanges [(w, .change e), (v, .step (.stream 1))] := by
    simp only [World.History.KeepsRanges, List.forall_mem_cons, Act.change.injEq, reduceCtorEq]
    exact ⟨fun _ he' _ => he' ▸ he, fun _ hstep => hstep.elim, List.forall_mem_nil _⟩
  have hoffer : v.moveOf 0 c (.step (.stream 1)) = .offer (sample e) := rfl
  have hd : d.state.HeatersInRange := hs
  have hw : w.device.state.HeatersInRange := hs
  have hmem : (v, Act.step (.stream 1)) ∈ [(w, Act.change e), (v, .step (.stream 1))] :=
    List.mem_cons_of_mem _ List.mem_cons_self
  have hreports : v.device.Reports (sample e) := hruns w w' _ hw hr hk v 1 hmem 0 c (sample e) hoffer
  exact ⟨⟨hs, hline, hlines s hs⟩, hmeets d hd run, w', hr, hreports⟩

end Device

end VirtualPrinter.Service
