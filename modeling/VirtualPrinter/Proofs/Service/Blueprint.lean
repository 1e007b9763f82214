import VirtualPrinter.Proofs.Machine.Bounds
import VirtualPrinter.Proofs.Number.Order
import VirtualPrinter.Proofs.Service.Refused
import VirtualPrinter.Service.Blueprint

/-!
# What an entry makes of a printer

The sizes of the travel volume are taken from an entry as they stand there.  The starting temperature
and the home position go through the setters of the state, which refuse what does not fit; the sizes
do not.  So a printer that is made starts within its bounds, and can be sent home, exactly if no size
that it was told is negative.  Where the entry tells a home position there is nothing to see to: a
volume that holds a point is not negative.

## Main definitions

* `Entry.Roomy`: no size that an entry tells is negative.
* `Device.roomOf`: the far corner of the travel volume of an entry.

## Main results

* `Blueprint.state_of_build`: a printer is built with the parts it is told, and free properties.
* `made_of_ofEntry`: what an entry makes.
* `bounded_ofEntry_iff`: when it starts within its bounds, and when it can be sent home.
-/

namespace VirtualPrinter.Machine

/-- No size that an entry tells is negative.  A side of the bed counts only if the other is told. -/
structure Entry.Roomy (e : Entry) : Prop where
  height : ∀ height, e.number? "height" = some height → 0 ≤ height
  bed : ∀ width length, e.number? "width" = some width → e.number? "length" = some length →
    0 ≤ width ∧ 0 ≤ length

theorem within_zero_iff {max : Float} : within 0 max 0 ↔ 0 ≤ max := by
  have hzero : (0 : Float) ≤ 0 := by decide +kernel
  exact within_iff.trans (and_iff_right hzero)

/-- The corner at the origin lies in a volume that is not negative. -/
theorem inside_origin_iff {corner : Point} :
    Point.origin.Inside corner ↔ 0 ≤ corner.x ∧ 0 ≤ corner.y ∧ 0 ≤ corner.z := by
  simp only [← within_zero_iff]
  exact ⟨fun h => ⟨h.x, h.y, h.z⟩, fun ⟨x, y, z⟩ => ⟨x, y, z⟩⟩

theorem nonneg_of_within {max value : Float} (h : within 0 max value) : 0 ≤ max :=
  have h := within_iff.mp h
  Number.float_le_trans h.1 h.2

/-- A volume that holds a point holds the origin. -/
theorem Point.Inside.origin {p corner : Point} (h : p.Inside corner) :
    Point.origin.Inside corner :=
  inside_origin_iff.mpr ⟨nonneg_of_within h.x, nonneg_of_within h.y, nonneg_of_within h.z⟩

namespace State

theorem foldl_setAttribute (s : State) (fields : List (String × Json.Value)) :
    fields.foldl (fun s p => s.setAttribute p.1 p.2) s =
      { s with attributes := fields.foldl (fun f p => f.insert p.1 p.2) s.attributes } := by
  induction fields generalizing s with
  | nil => rfl
  | cons p rest ih => exact ih (s.setAttribute p.1 p.2)

theorem foldl_setData (s : State) (fields : List (String × Json.Value)) :
    fields.foldl (fun s p => s.setData p.1 p.2) s =
      { s with data := fields.foldl (fun f p => f.insert p.1 p.2) s.data } := by
  induction fields generalizing s with
  | nil => rfl
  | cons p rest ih => exact ih (s.setData p.1 p.2)

end State

end VirtualPrinter.Machine

namespace VirtualPrinter.Service

open Machine (Entry Extruder Heatbed Point State within within_zero_iff bedMax)
open Outcome (bind_eq_ok_iff map_eq_ok_iff)

/-- A printer is built with the parts that it is told, and with free properties. -/
theorem Blueprint.state_of_build {b : Blueprint} {d : Device} (h : b.build = .ok d) :
    ∃ extruder heatbed attributes data, b.extruder = some extruder ∧ b.heatbed = some heatbed ∧
      d = .ofState { State.new b.info extruder heatbed with
        attributes := attributes, data := data } := by
  unfold build at h
  split at h
  · cases h
  · cases h
  · cases h
  · next extruder heatbed _ he hb =>
    cases h
    rw [State.foldl_setAttribute, State.foldl_setData]
    exact ⟨extruder, heatbed, _, _, he, hb, rfl⟩

namespace Device

/-- The far corner of the travel volume of an entry. -/
def roomOf (e : Entry) : Point := ⟨(heatbedOf e).width, (heatbedOf e).length, (extruderOf e).maxZHeight⟩

/-- The volume of an entry is not negative exactly if no size that it tells is. -/
theorem inside_roomOf_iff {e : Entry} : Point.origin.Inside (roomOf e) ↔ e.Roomy := by
  have hstandard : (0 : Float) ≤ 250 ∧ (0 : Float) ≤ 210 ∧ (0 : Float) ≤ 220 := by decide +kernel
  obtain ⟨hwidth, hlength, hheight⟩ := hstandard
  have hz : 0 ≤ (extruderOf e).maxZHeight ↔
      ∀ height, e.number? "height" = some height → 0 ≤ height := by
    unfold extruderOf
    cases e.number? "height" with
    | none => exact iff_of_true hheight nofun
    | some height => simp
  have hbed : 0 ≤ (heatbedOf e).width ∧ 0 ≤ (heatbedOf e).length ↔
      ∀ width length, e.number? "width" = some width → e.number? "length" = some length →
        0 ≤ width ∧ 0 ≤ length := by
    unfold heatbedOf
    cases e.number? "width" with
    | none => exact iff_of_true ⟨hwidth, hlength⟩ nofun
    | some width =>
      cases e.number? "length" with
      | none => exact iff_of_true ⟨hwidth, hlength⟩ nofun
      | some length => simp [Heatbed.ofSize]
  rw [Machine.inside_origin_iff, ← and_assoc]
  change (0 ≤ (heatbedOf e).width ∧ 0 ≤ (heatbedOf e).length) ∧ 0 ≤ (extruderOf e).maxZHeight ↔ _
  rw [hz, hbed]
  exact ⟨fun ⟨bed, height⟩ => ⟨height, bed⟩, fun h => ⟨h.bed, h.height⟩⟩

/-- What an entry makes of a state, at every stage. -/
structure Made (e : Entry) (s : State) : Prop where
  travelLimits : s.travelLimits = roomOf e
  homePosition : s.homePosition = s.position
  bedTemperature : within 0 bedMax s.heatbed.temperature
  paused : s.paused = false
  bounded : e.Roomy → s.Bounded

theorem made_new (e : Entry) (info : Machine.Identity) (attributes data : Json.Fields) :
    Made e { State.new info (extruderOf e) (heatbedOf e) with
      attributes := attributes, data := data } := by
  have hextruder : ∃ height, extruderOf e = { Extruder.at .origin with maxZHeight := height } := by
    unfold extruderOf
    split <;> exact ⟨_, rfl⟩
  have hheatbed : ∃ width length, heatbedOf e = .ofSize width length := by
    unfold heatbedOf
    split <;> exact ⟨_, _, rfl⟩
  have hroom := inside_roomOf_iff (e := e)
  unfold roomOf at hroom
  obtain ⟨height, hextruder⟩ := hextruder
  obtain ⟨width, length, hheatbed⟩ := hheatbed
  -- but for the sizes this is a printer of the standard size
  have hstandard : Device.standard.state.Bounded := by decide +kernel
  refine ⟨rfl, rfl, ?_, rfl, fun h => ?_⟩
  · rw [hheatbed]
    exact hstandard.bedTemperature
  · have hinside := hroom.mpr h
    rw [hextruder, hheatbed] at hinside ⊢
    exact { hstandard with position := hinside }

theorem Made.withStartTemperature {e : Entry} {s t : State} (h : Made e s)
    (hs : withStartTemperature e s = .ok t) : Made e t := by
  unfold Device.withStartTemperature at hs
  split at hs
  · obtain ⟨_, hr, rfl⟩ := map_eq_ok_iff.mp hs
    have hwithin := State.checkRange_eq_ok_iff.mp hr
    exact ⟨h.travelLimits, h.homePosition, hwithin, h.paused,
      fun hroom => { h.bounded hroom with bedTemperature := hwithin }⟩
  · cases hs
    exact h

theorem Made.withHome {e : Entry} {s t : State} (h : Made e s) (hs : withHome e s = .ok t) :
    Made e t := by
  unfold Device.withHome at hs
  split at hs
  · obtain ⟨_, hp, rfl⟩ := map_eq_ok_iff.mp hs
    have hinside := State.checkBounds_eq_ok_iff.mp hp
    exact ⟨h.travelLimits, rfl, h.bedTemperature, h.paused,
      fun hroom => { h.bounded hroom with position := hinside }⟩
  · cases hs
    exact h

/-- An entry that tells a home position makes a printer only if there is room for it. -/
theorem roomy_of_home {e : Entry} {s t : State} (h : Made e s) (hs : withHome e s = .ok t)
    (hhome : e.home?.isSome) : e.Roomy := by
  unfold Device.withHome at hs
  split at hs
  · obtain ⟨_, hp, -⟩ := map_eq_ok_iff.mp hs
    have hinside := State.checkBounds_eq_ok_iff.mp hp
    rw [h.travelLimits] at hinside
    exact inside_roomOf_iff.mp hinside.origin
  · next hnone =>
    simp [hnone] at hhome

/-- What an entry makes. -/
theorem made_of_ofEntry {e : Entry} {createdAt : Time.Timestamp} {d : Device}
    (h : ofEntry e createdAt = .ok d) :
    Made e d.state ∧ (e.home?.isSome → e.Roomy) := by
  unfold ofEntry at h
  split at h
  · cases h
  · next productId _ =>
    obtain ⟨d', hbuild, h⟩ := bind_eq_ok_iff.mp h
    obtain ⟨t, hstate, h⟩ := bind_eq_ok_iff.mp h
    cases h
    obtain ⟨extruder, heatbed, attributes, data, he, hb, rfl⟩ := Blueprint.state_of_build hbuild
    cases he
    cases hb
    cases hset : (withStartTemperature e _).bind (Device.withHome e) with
    | error r => rw [hset] at hstate; cases hstate
    | ok t' =>
      rw [hset] at hstate
      cases hstate
      obtain ⟨u, hu, ht⟩ := bind_eq_ok_iff.mp hset
      have hmade := (made_new e _ attributes data).withStartTemperature hu
      exact ⟨hmade.withHome ht, roomy_of_home hmade ht⟩

/-- A printer that is not paused goes home if the origin lies in its travel volume, and says what is
wrong otherwise. -/
theorem execute_home {d : Device} (hp : d.state.paused = false) (here : Surroundings)
    {line : List Char} (hl : command? line = some .home) :
    (Point.origin.Inside d.state.travelLimits → d.execute here line =
      ({ d with state := d.state.withPosition .origin },
        "ok\n" ++ Point.origin.text ++ "\nok\n")) ∧
    (¬ Point.origin.Inside d.state.travelLimits → ∃ reason,
      d.state.checkBounds .origin = .error reason ∧
        d.execute here line = (d, refusal reason.message)) := by
  rw [execute_of_command hl]
  have hmove : d.state.moveTo .origin =
      (d.state.checkBounds .origin).map fun _ => d.state.withPosition .origin := by
    rw [State.moveTo, hp]
    rfl
  cases hb : d.state.checkBounds .origin with
  | ok =>
    rw [hb] at hmove
    refine ⟨fun _ => ?_, fun hout => absurd (State.checkBounds_eq_ok_iff.mp hb) hout⟩
    simp only [perform, Machine.execute, hmove]
    rfl
  | error reason =>
    rw [hb] at hmove
    refine ⟨fun hin => ?_, fun _ => ⟨reason, rfl, ?_⟩⟩
    · rw [State.checkBounds_eq_ok_iff (r := ()) |>.mpr hin] at hb
      cases hb
    · simp only [perform, Machine.execute, hmove]
      rfl

/-- **A printer from an entry starts within its bounds exactly if no size that it is told is
negative**, and exactly then it can be sent home.  It is at home, and its bed is not too hot, in any
case; and with a home position in the entry there is no negative size. -/
theorem bounded_ofEntry_iff {e : Entry} {createdAt : Time.Timestamp} {d : Device}
    (h : ofEntry e createdAt = .ok d) :
    (d.state.Bounded ↔ e.Roomy) ∧
    d.state.homePosition = d.state.position ∧
    within 0 bedMax d.state.heatbed.temperature ∧
    (e.home?.isSome → e.Roomy) ∧
    ∀ here line, command? line = some .home →
      (e.Roomy → d.execute here line =
        ({ d with state := d.state.withPosition .origin },
          "ok\n" ++ Point.origin.text ++ "\nok\n")) ∧
      (¬ e.Roomy → ∃ reason, d.state.checkBounds .origin = .error reason ∧
        d.execute here line = (d, refusal reason.message)) := by
  obtain ⟨hmade, hhome⟩ := made_of_ofEntry h
  have hroom : Point.origin.Inside d.state.travelLimits ↔ e.Roomy := by
    rw [hmade.travelLimits, inside_roomOf_iff]
  refine ⟨⟨fun hb => hroom.mp hb.position.origin, hmade.bounded⟩, hmade.homePosition,
    hmade.bedTemperature, hhome, fun here line hl => ?_⟩
  rw [← hroom]
  exact execute_home hmade.paused here hl

/-- A printer with a small bed, whose home is in the far corner, goes to the near one. -/
theorem bounded_ofEntry_corner :
    ∃ e d, ofEntry e ⟨0, 0⟩ = .ok d ∧ e.home? = some (120, 120, 5) ∧ d.state.Bounded ∧
      (command? "G28 ; near".toList = some .home ∧
      d.execute ⟨⟨0, 0⟩, .zero, true⟩ "G28 ; near".toList =
        ({ d with state := d.state.withPosition .origin },
          "ok\n" ++ Point.origin.text ++ "\nok\n")) := by
  let e : Entry := ⟨3, "Printer3", ⟨"Prusa", "MINI", "2c99"⟩,
    [("homePos", .list [.number (.int 120), .number (.int 120), .number (.int 5)]),
      ("length", .number (.int 120)), ("productId", .text "000d"), ("width", .number (.int 120))],
    []⟩
  have hhome : e.home? = some (120, 120, 5) := by decide +kernel
  have hsome : (ofEntry e ⟨0, 0⟩).toOption.isSome := by decide +kernel
  obtain ⟨d, hd⟩ := Option.isSome_iff_exists.mp hsome
  have hd := Outcome.toOption_eq_some_iff.mp hd
  obtain ⟨hbounded, -, -, hroomy, hanswer⟩ := bounded_ofEntry_iff hd
  have hroomy := hroomy (by rw [hhome]; rfl)
  have hline : command? "G28 ; near".toList = some .home := by decide +kernel
  exact ⟨e, d, hd, hhome, hbounded.mpr hroomy, hline, (hanswer _ _ hline).1 hroomy⟩

/-- The entry of a printer whose bed has a negative width. -/
def negativeWidth : String :=
  "[\x7b\"id\": 3, \"name\": \"Printer3\", " ++
    "\"brand\": \x7b\"printerName\": \"Prusa\", \"printerModel\": \"MK4\", " ++
    "\"vendorId\": \"2c99\"\x7d, " ++
    "\"data\": \x7b\"productId\": \"001a\", \"width\": -250, \"length\": 210, " ++
    "\"height\": 220\x7d\x7d]"

/-- **A printer from the registry need not start within its bounds**: told a negative width, it is made
all the same, and then it cannot go home. -/
theorem negativeWidth_unbounded :
    ∃ entries e d, Machine.readRegistry negativeWidth = .ok entries ∧ e ∈ entries ∧
      ofEntry e ⟨0, 0⟩ = .ok d ∧ ¬ d.state.Bounded ∧
      (d.execute ⟨⟨0, 0⟩, .zero, true⟩ "G28".toList).2 =
        "Error: move out of bounds: X 0.00 not within 0 to -250.00\n" := by
  have hcheck : ((Machine.readRegistry negativeWidth).toOption.bind fun entries =>
      entries.head?.bind fun e => (ofEntry e ⟨0, 0⟩).toOption.map fun d =>
        decide (¬ d.state.Bounded ∧ (d.execute ⟨⟨0, 0⟩, .zero, true⟩ "G28".toList).2 =
          "Error: move out of bounds: X 0.00 not within 0 to -250.00\n")) = some true := by
    decide +kernel
  obtain ⟨entries, hread, hcheck⟩ := Option.bind_eq_some_iff.mp hcheck
  obtain ⟨e, he, hcheck⟩ := Option.bind_eq_some_iff.mp hcheck
  obtain ⟨d, hd, hcheck⟩ := Option.map_eq_some_iff.mp hcheck
  obtain ⟨hbounds, hanswer⟩ := of_decide_eq_true hcheck
  exact ⟨entries, e, d, Outcome.toOption_eq_some_iff.mp hread, List.mem_of_head? he,
    Outcome.toOption_eq_some_iff.mp hd, hbounds, hanswer⟩

end Device

end VirtualPrinter.Service
