import VirtualPrinter.Proofs.Machine.Bounds
import VirtualPrinter.Proofs.Machine.Document
import VirtualPrinter.Proofs.Machine.Properties
import VirtualPrinter.Proofs.Machine.Registry
import VirtualPrinter.Proofs.Wire.Messages
import VirtualPrinter.Service.Blueprint

/-!
# What the peer knows of a registered printer

A printer tells its peer its whole state, and the peer reads the state again.  The free properties
are those of the registry and are nested no deeper than it was; in the registration they stand as
deep as they stood there, so that the peer gets past them too.  No instruction touches them.  The
state that is read is the state of the printer, but for its floats: a float is printed with the
digits of a shortest decimal, and reading those rounds twice, which may end one float further.

## Main definitions

* `Device.Built`: a printer from an entry of a registry, or a new one of the standard kind.
* `Service.received`: the state that the peer reads.

## Main results

* `storable_of_built`: the free properties of a printer that was built.
* `registration_received`: along every script, the peer reads the state with its floats reread, and
  that is the state itself exactly if every float is read as it was.
-/

namespace VirtualPrinter.Service

open Json (Fields Value reread)
open Machine (Entry Extruder Heatbed Identity State)
open Outcome (bind_eq_ok_iff map_eq_ok_iff toOption_eq_some_iff)
open Wire (Frame)

/-! ### The free properties of a printer -/

/-- A field that is inserted keeps an object within its allowance. -/
theorem fits_insert {fields : Fields} {depth : Nat} (h : (Value.object fields).Fits (depth + 1))
    {key : String} {v : Value} (hv : v.Fits depth) :
    (Value.object (fields.insert key v)).Fits (depth + 1) := by
  cases h with
  | object order h =>
    refine .object (Fields.insert_order order) fun p hp => ?_
    rcases Fields.mem_insert hp with rfl | hp
    · exact hv
    · exact h p hp

theorem fits_of_mem {fields : Fields} {depth : Nat} (h : (Value.object fields).Fits (depth + 1)) :
    ∀ p ∈ fields, p.2.Fits depth := by
  cases h with
  | object _ h => exact h

variable {s : State} {depth : Nat}

theorem storable_attributes (h : s.Storable (depth + 1)) {fields : List (String × Value)}
    (hf : ∀ p ∈ fields, p.2.Fits depth) :
    (fields.foldl (fun s p => s.setAttribute p.1 p.2) s).Storable (depth + 1) := by
  induction fields generalizing s with
  | nil => exact h
  | cons p fields ih =>
    obtain ⟨hp, hf⟩ := List.forall_mem_cons.mp hf
    exact ih ⟨fits_insert h.attributes hp, h.data⟩ hf

theorem storable_data (h : s.Storable (depth + 1)) {fields : List (String × Value)}
    (hf : ∀ p ∈ fields, p.2.Fits depth) :
    (fields.foldl (fun s p => s.setData p.1 p.2) s).Storable (depth + 1) := by
  induction fields generalizing s with
  | nil => exact h
  | cons p fields ih =>
    obtain ⟨hp, hf⟩ := List.forall_mem_cons.mp hf
    exact ih ⟨h.attributes, fits_insert h.data hp⟩ hf

/-- A printer has the free properties that it is built with. -/
theorem Blueprint.storable_of_build {b : Blueprint} {d : Device} (h : b.build = .ok d)
    (ha : ∀ p ∈ b.attributes, p.2.Fits depth) (hd : ∀ p ∈ b.data, p.2.Fits depth) :
    d.state.Storable (depth + 1) := by
  unfold build at h
  split at h
  · cases h
  · cases h
  · cases h
  · next info _ extruder heatbed _ _ _ =>
    cases h
    have hnew : (State.new b.info extruder heatbed).Storable (depth + 1) :=
      ⟨.object .nil fun _ hp => absurd hp List.not_mem_nil,
        .object .nil fun _ hp => absurd hp List.not_mem_nil⟩
    exact storable_data (storable_attributes hnew ha) hd

namespace Device

theorem storable_of_sameProperties {t : State} (h : s.Storable depth) (hs : s.SameProperties t) :
    t.Storable depth :=
  ⟨hs.attributes ▸ h.attributes, hs.data ▸ h.data⟩

/-- The starting temperature and the home position are no free properties. -/
theorem withStartTemperature_sameProperties {e : Entry} {t : State}
    (h : withStartTemperature e s = .ok t) : s.SameProperties t := by
  unfold withStartTemperature at h
  split at h
  · obtain ⟨_, -, rfl⟩ := map_eq_ok_iff.mp h
    exact ⟨rfl, rfl, rfl⟩
  · cases h
    exact .refl s

theorem withHome_sameProperties {e : Entry} {t : State} (h : withHome e s = .ok t) :
    s.SameProperties t := by
  unfold withHome at h
  split at h
  · obtain ⟨_, -, rfl⟩ := map_eq_ok_iff.mp h
    exact ⟨rfl, rfl, rfl⟩
  · cases h
    exact .refl s

/-- A printer of an entry has its free properties, and a few texts besides. -/
theorem storable_ofEntry {e : Entry} (h : e.Storable (depth + 1)) {createdAt : Time.Timestamp}
    {d : Device} (hd : ofEntry e createdAt = .ok d) : d.state.Storable (depth + 1) := by
  unfold ofEntry at hd
  split at hd
  · cases hd
  · next productId _ =>
    obtain ⟨d', hbuild, hd⟩ := bind_eq_ok_iff.mp hd
    obtain ⟨t, hstate, hd⟩ := bind_eq_ok_iff.mp hd
    cases hd
    -- two texts stand before the attributes of the entry, and one may stand behind its data
    have hattributes : ∀ p ∈ (blueprintOf e productId createdAt).attributes, p.2.Fits depth := by
      refine List.forall_mem_append.mpr ⟨?_, fits_of_mem h.attributes⟩
      exact List.forall_mem_cons.mpr ⟨.text _, List.forall_mem_singleton.mpr (.text _)⟩
    have hdata : ∀ p ∈ (blueprintOf e productId createdAt).data, p.2.Fits depth := by
      change ∀ p ∈ dataOf e, p.2.Fits depth
      unfold dataOf
      split
      · exact fits_of_mem h.data
      · exact List.forall_mem_append.mpr
          ⟨fits_of_mem h.data, List.forall_mem_singleton.mpr (.text _)⟩
    have hbuilt := Blueprint.storable_of_build hbuild hattributes hdata
    cases hset : (withStartTemperature e d'.state).bind (withHome e) with
    | error r => rw [hset] at hstate; cases hstate
    | ok t' =>
      rw [hset] at hstate
      cases hstate
      obtain ⟨u, hu, ht⟩ := bind_eq_ok_iff.mp hset
      exact storable_of_sameProperties hbuilt
        ((withStartTemperature_sameProperties hu).trans (withHome_sameProperties ht))

/-- A printer from an entry of a registry, or a new one with the standard head and bed and without
free properties. -/
inductive Built (d : Device) : Prop
  | ofRegistry {text : String} {entries : List Entry} {e : Entry} {createdAt : Time.Timestamp}
    (read : Machine.readRegistry text = .ok entries) (mem : e ∈ entries)
    (built : ofEntry e createdAt = .ok d)
  | standard {info : Identity}
    (built : Blueprint.build ⟨info, some (.at .origin), some .standard, [], []⟩ = .ok d)

theorem storable_of_built {d : Device} (h : d.Built) : d.state.Storable 125 := by
  cases h with
  | ofRegistry read mem built =>
    exact storable_ofEntry (Machine.storable_of_readRegistry read _ mem) built
  | standard built =>
    exact Blueprint.storable_of_build built (fun _ hp => absurd hp List.not_mem_nil)
      fun _ hp => absurd hp List.not_mem_nil

/-- Free properties stay as they are along a script. -/
theorem sameProperties_of_mem_course {d e : Device} {script : List (Surroundings × List Char)}
    (h : e ∈ d.course script) : d.state.SameProperties e.state :=
  rel_of_mem_course .refl .trans execute_sameProperties h

end Device

/-! ### What is received -/

/-- The state that the peer reads from a text: the text is a frame with an event, whose data is a
state. -/
def received (text : List Char) : Option State := do
  let frame ← (Frame.decode text).toOption
  let event ← frame.event.toOption
  State.ofValue? event.data

/-- A state is read from its document: as a value that has been read before, it is nested no deeper
than it has tokens. -/
theorem ofValue?_document {s : State} {depth : Nat} (h : s.Storable (depth + 2))
    (ht : ∀ t ∈ s.times, Time.Timestamp.parse? t.print = some t) :
    State.ofValue? s.document = some s := by
  have hfits := (State.fits_document h).shrink
  obtain ⟨n, hn⟩ : ∃ n, s.document.tokens.length = n + 3 :=
    Nat.exists_eq_add_of_le' (State.three_le_length_document s)
  -- the fields of a state themselves need three levels, which a document has at least
  have hread : Json.Reads State.reader (n + 3) s.document.tokens s := by
    rw [hn] at hfits
    cases hfits with
    | object _ hfields =>
      simp only [List.forall_mem_cons] at hfields
      obtain ⟨-, hattributes, -, -, hdata, -⟩ := hfields
      exact State.reads_document ⟨hattributes, hdata⟩ ht
  rw [← hn] at hread
  rw [State.ofValue?, Json.readValue_eq_ok hread]
  rfl

/-- The peer reads the state with its floats reread. -/
theorem received_registration {d : Device} (hs : d.state.Storable 125)
    (hx : ∀ x ∈ d.state.reals, x.isFinite)
    (ht : ∀ t ∈ d.state.times, Time.Timestamp.parse? t.print = some t) :
    received (Frame.message d.registrationEvent).encode = some (d.state.mapReals reread) := by
  have hdata : d.registrationEvent.data = d.state.document := State.toJson_sorted hx hs
  have hfits : d.registrationEvent.data.Fits 126 := by
    rw [hdata]
    exact State.fits_document hs
  have hreals : ∀ x ∈ d.registrationEvent.data.reals, x.isFinite := by
    rw [hdata, State.reals_document]
    exact hx
  have hevent : (d.registrationEvent.mapReals reread).data = (d.state.mapReals reread).document := by
    rw [State.document_mapReals, ← hdata]
    rfl
  have hread := ofValue?_document (hs.mapReals reread) (s := d.state.mapReals reread) ht
  rw [received, Frame.decode_message]
  simp only [Except.toOption, Option.bind_eq_bind, Option.bind_some]
  rw [Frame.event_message hfits hreals]
  simp only [Option.bind_some, hevent, hread]

namespace Device

/-- **The registration of a printer**: after every line of every script, the peer reads the state of
the printer with its floats reread, and that is the state itself exactly if every float is read as
it was. -/
theorem registration_received {d e : Device} (hd : d.Built)
    {script : List (Surroundings × List Char)} (he : e ∈ d.course script)
    (hx : ∀ x ∈ e.state.reals, x.isFinite)
    (ht : ∀ t ∈ e.state.times, Time.Timestamp.parse? t.print = some t) :
    received (Frame.message e.registrationEvent).encode = some (e.state.mapReals reread) ∧
      (received (Frame.message e.registrationEvent).encode = some e.state ↔
        ∀ x ∈ e.state.reals, reread x = x) := by
  have hs := storable_of_sameProperties (storable_of_built hd) (sameProperties_of_mem_course he)
  have hr := received_registration hs hx ht
  refine ⟨hr, ?_⟩
  rw [hr, Option.some.injEq, State.mapReals_eq_self_iff]

/-- A printer of a registry, in inches and with a sign of life; one of its floats stands in an object
of a list. -/
theorem registration_received_nested :
    ∃ d : Device, d.Built ∧ ∃ e ∈ d.course [(⟨⟨0, 0⟩, .zero, true⟩, "G20".toList),
        (⟨⟨60, 0⟩, .zero, true⟩, "M113".toList), (⟨⟨61, 0⟩, .zero, true⟩, "G1 X0.15 Y1".toList)],
      ((∃ x ∈ e.state.reals, x = 0.3) ∧ ∀ x ∈ e.state.reals, x.isFinite) ∧
      (∀ t ∈ e.state.times, Time.Timestamp.parse? t.print = some t) ∧
      received (Frame.message e.registrationEvent).encode = some (e.state.mapReals reread) ∧
      (received (Frame.message e.registrationEvent).encode = some e.state ↔
        ∀ x ∈ e.state.reals, reread x = x) := by
  let registry := "[\x7b\"id\": 7, \"name\": \"P\", \"brand\": \x7b\"printerModel\": \"MK4\"\x7d, " ++
    "\"data\": \x7b\"productId\": 13, \"limits\": [\x7b\"x\": 0.3\x7d, null]\x7d\x7d]"
  let script : List (Surroundings × List Char) := [(⟨⟨0, 0⟩, .zero, true⟩, "G20".toList),
    (⟨⟨60, 0⟩, .zero, true⟩, "M113".toList), (⟨⟨61, 0⟩, .zero, true⟩, "G1 X0.15 Y1".toList)]
  have hcheck : ((Machine.readRegistry registry).toOption.bind fun entries =>
      entries.head?.bind fun e => (ofEntry e ⟨0, 0⟩).toOption.bind fun d =>
        (d.course script).getLast?.map fun e =>
          decide (((∃ x ∈ e.state.reals, x = 0.3) ∧ ∀ x ∈ e.state.reals, x.isFinite) ∧
            ∀ t ∈ e.state.times, Time.Timestamp.parse? t.print = some t)) = some true := by
    decide +kernel
  obtain ⟨entries, hread, hcheck⟩ := Option.bind_eq_some_iff.mp hcheck
  obtain ⟨entry, hentry, hcheck⟩ := Option.bind_eq_some_iff.mp hcheck
  obtain ⟨d, hd, hcheck⟩ := Option.bind_eq_some_iff.mp hcheck
  obtain ⟨e, he, hcheck⟩ := Option.map_eq_some_iff.mp hcheck
  obtain ⟨hx, ht⟩ := of_decide_eq_true hcheck
  have hbuilt : d.Built := .ofRegistry (toOption_eq_some_iff.mp hread)
    (List.mem_of_head? hentry) (toOption_eq_some_iff.mp hd)
  have hmem : e ∈ d.course script := List.mem_of_getLast? he
  exact ⟨d, hbuilt, e, hmem, hx, ht, registration_received hbuilt hmem hx.2 ht⟩

/-- **A registration need not tell the state**: after a move of 0.15 inches the head of a new printer
stands at 3.8099999999999996, which is read as 3.81. -/
theorem registration_rounded :
    standard.Built ∧ ∃ e ∈ standard.course [(⟨⟨0, 0⟩, .zero, true⟩, "G20".toList),
        (⟨⟨0, 0⟩, .zero, true⟩, "G1 X0.15".toList)],
      (∀ x ∈ e.state.reals, x.isFinite) ∧
      (∀ t ∈ e.state.times, Time.Timestamp.parse? t.print = some t) ∧
      ∃ s, received (Frame.message e.registrationEvent).encode = some s ∧
        (s.position.x == e.state.position.x) = false := by
  have hbuilt : standard.Built := @Built.standard _ (.new 1 "Prusa MK4" "Printer1" ⟨1704164645, 0⟩) rfl
  let moved : Device := ((standard.execute ⟨⟨0, 0⟩, .zero, true⟩ "G20".toList).1.execute
    ⟨⟨0, 0⟩, .zero, true⟩ "G1 X0.15".toList).1
  have hmem : moved ∈ standard.course [(⟨⟨0, 0⟩, .zero, true⟩, "G20".toList),
      (⟨⟨0, 0⟩, .zero, true⟩, "G1 X0.15".toList)] :=
    List.mem_cons_of_mem _ (List.mem_cons_of_mem _ List.mem_cons_self)
  have hx : ∀ x ∈ moved.state.reals, x.isFinite := by decide +kernel
  have ht : ∀ t ∈ moved.state.times, Time.Timestamp.parse? t.print = some t := by decide +kernel
  have hs := storable_of_sameProperties (storable_of_built hbuilt) (sameProperties_of_mem_course hmem)
  refine ⟨hbuilt, moved, hmem, hx, ht, _, received_registration hs hx ht, ?_⟩
  rw [State.position_mapReals]
  decide +kernel

end Device

end VirtualPrinter.Service
