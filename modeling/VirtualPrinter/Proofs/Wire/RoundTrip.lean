import VirtualPrinter.Proofs.Json.Admission
import VirtualPrinter.Proofs.Wire.Messages

/-!
# Events there and back

An event that is sent arrives, and an event that was read is read again from its own text.  The second
is a case of the first as soon as it is known what is read: data that keep within the allowance, with
finite floats.  From which text it was read does not matter then, nor whether apostrophes had to be
taken for quotes.

The floats are what their texts are read as, and everything else is what it was.

## Main results

* `Event.read_admitted`: what is read keeps within the allowance.
* `Event.read_print_iff`, `Frame.event_message_iff`: an event comes back as it was if its floats do.
* `Frame.round_trip`: the way over a frame, and the way over a text.
-/

namespace VirtualPrinter.Wire

open Json (Value Yields reread)

namespace Event

/-! ### What is read -/

/-- Only the data of an event are taken as they come. -/
theorem yields_recordFields (depth : Nat) : ∀ f ∈ recordFields, ∀ e : Event,
    e.data.Admitted depth → Yields (f.read e depth) fun e => e.data.Admitted depth := by
  simp only [recordFields, List.forall_mem_cons]
  refine ⟨fun e h => ?_, fun e _ => ?_, fun e h => ?_, fun e h => ?_, nofun⟩
  · exact Json.yields_field (Json.textAs_passes _ _) fun _ _ => h
  · exact Json.yields_field (Json.yields_value depth) fun _ hv => hv
  · exact Json.yields_field (Json.nullable_passes (Json.textAs_passes _ _)) fun _ _ => h
  · exact Json.yields_field (Json.nullable_passes (Json.textAs_passes _ _)) fun _ _ => h

theorem readStrict_admitted {text : List Char} {e : Event} (h : readStrict text = .ok e) :
    e.data.Admitted 126 := by
  have hrecord : Yields (Json.record recordFields (new "" .null) Json.nesting)
      fun e => e.data.Admitted 126 :=
    Json.yields_record ⟨.null, nofun⟩ (yields_recordFields 126)
  exact Json.read_yields hrecord h

/-- **What is read keeps within the allowance**, in whichever of the two ways it is read. -/
theorem read_admitted {text : List Char} {e : Event} (h : read text = .ok e) :
    e.data.Admitted 126 := by
  unfold read at h
  split at h
  · next hs =>
    cases h
    exact readStrict_admitted hs
  · split at h
    · split at h
      · next hs =>
        cases h
        exact readStrict_admitted hs
      · cases h
    · cases h

/-! ### What comes back -/

theorem mapReals_eq_self_iff (f : Float → Float) (e : Event) :
    e.mapReals f = e ↔ ∀ x ∈ e.data.reals, f x = x := by
  obtain ⟨name, data, space?, message?⟩ := e
  simp only [mapReals, mk.injEq, true_and, and_true]
  exact Value.mapReals_eq_self_iff f data

/-- An event is read from its own text as it was if its floats are. -/
theorem read_print_iff {e : Event} (h : e.data.Admitted 126) :
    read e.print = .ok e ↔ ∀ x ∈ e.data.reals, reread x = x := by
  rw [read_print h.fits h.finite, Except.ok.injEq, mapReals_eq_self_iff]

end Event

namespace Frame

/-- An event comes out of its frame as it was if its floats do. -/
theorem event_message_iff {e : Event} (h : e.data.Admitted 126) :
    (message e).event = .ok e ↔ ∀ x ∈ e.data.reals, reread x = x := by
  rw [event_message h.fits h.finite, Except.ok.injEq, Event.mapReals_eq_self_iff]

/-- **Events there and back.**  The frame of an event is decoded as it was, and the event in it is the
one that was sent, but for its floats, each of which is what its text is read as; so it is the same
event exactly if its floats are read as themselves.  An event that was read from a text, with or
without its apostrophes taken for quotes, is read from its own text in the same way. -/
theorem round_trip :
    (∀ e : Event, e.data.Fits 126 → (∀ x ∈ e.data.reals, x.isFinite) →
      decode (message e).encode = .ok (message e) ∧
      (message e).event = .ok (e.mapReals reread) ∧
      ((message e).event = .ok e ↔ ∀ x ∈ e.data.reals, reread x = x)) ∧
    (∀ text (e : Event), Event.read text = .ok e →
      Event.read e.print = .ok (e.mapReals reread) ∧
      (Event.read e.print = .ok e ↔ ∀ x ∈ e.data.reals, reread x = x)) := by
  refine ⟨fun e hfits hfinite => ?_, fun text e h => ?_⟩
  · exact ⟨decode_message e, event_message hfits hfinite, event_message_iff ⟨hfits, hfinite⟩⟩
  · have hadmitted := Event.read_admitted h
    exact ⟨Event.read_print hadmitted.fits hadmitted.finite, Event.read_print_iff hadmitted⟩

/-- Apostrophes, quotes and line ends in every text of an event, and one that is read from a text with
apostrophes for quotes. -/
theorem round_trip_quoted :
    let e : Event := ⟨"it's", .object [("\"k'", .list [.number (.real 0.5), .text "','\r\n"])],
      some "/\"", some "'event':\u0000"⟩
    let text := "\x7b'event':'it\\u0027s','data':['\\u0027,\\u0027\\n',-3]\x7d".toList
    let e' := Event.new "it's" (.list [.text "','\n", .number (.int (-3))])
    (decode (message e).encode = .ok (message e) ∧ (message e).event = .ok e) ∧
      Event.read text = .ok e' ∧ Event.read e'.print = .ok e' := by
  intro e text e'
  have hfits : e.data.Fits 126 := by
    refine .object (List.pairwise_singleton _ _) (List.forall_mem_singleton.mpr ?_)
    exact .list (List.forall_mem_cons.mpr ⟨.number trivial, List.forall_mem_singleton.mpr (.text _)⟩)
  have hreals : e.data.reals = [0.5] := rfl
  have hfinite : ∀ x ∈ e.data.reals, x.isFinite := by
    rw [hreals]
    decide
  have hreread : ∀ x ∈ e.data.reals, reread x = x := by
    rw [hreals]
    decide +kernel
  have hread : Event.read text = .ok e' := by rfl
  obtain ⟨hdecode, -, hevent⟩ := round_trip.1 e hfits hfinite
  exact ⟨⟨hdecode, hevent.mpr hreread⟩, hread, (round_trip.2 text e' hread).2.mpr nofun⟩

end Frame

end VirtualPrinter.Wire
