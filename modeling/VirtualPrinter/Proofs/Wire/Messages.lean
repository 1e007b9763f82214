import VirtualPrinter.Wire.Frame
import VirtualPrinter.Proofs.Json.Printed
import VirtualPrinter.Proofs.Json.Records

/-!
# Events read back from their frames

The document of an event is an object, so its text ends with a bracket: no line end is cut off
behind it, and the frame that carries it is decoded as it was.  The event inside is read as it
stands, without its apostrophes being taken for quotes, and has its data again, but for the floats
among them, each of which is what its text is read as.

## Main results

* `decode_message`: the frame of an event is decoded as it was.
* `event_message`: its event is the one that was sent, with its floats reread.
-/

namespace VirtualPrinter.Wire

open Json (Value Reads Spells reread reads_record entered_field reads_text reads_some spells_object)

namespace Event

/-- An event with other floats. -/
def mapReals (f : Float → Float) (e : Event) : Event := { e with data := e.data.mapReals f }

theorem toJson_mapReals (f : Float → Float) (e : Event) :
    e.toJson.mapReals f = (e.mapReals f).toJson := by
  obtain ⟨name, data, space?, message?⟩ := e
  cases space? <;> cases message? <;> rfl

/-- The text of an event is cut into the tokens of the event with its floats reread. -/
theorem spells_print {e : Event} {depth : Nat} (h : e.data.Fits depth)
    (hx : ∀ x ∈ e.data.reals, x.isFinite) : Spells e.print (e.mapReals reread).toJson.tokens := by
  have htext (s : String) : Spells (Value.text s).print ((Value.text s).mapReals reread).tokens :=
    Json.spells_quote s
  have hoptional (key : String) (s : Option String) :
      ∀ p ∈ (s.map fun s => (key, Value.text s)).toList,
        Spells p.2.print (p.2.mapReals reread).tokens := by
    cases s with
    | none => exact fun _ hp => absurd hp List.not_mem_nil
    | some s => exact List.forall_mem_singleton.mpr (htext s)
  rw [← toJson_mapReals]
  refine spells_object ?_
  -- name and data are always there, the other two may be
  rw [List.forall_mem_append, List.forall_mem_append]
  refine ⟨⟨?_, hoptional _ _⟩, hoptional _ _⟩
  exact List.forall_mem_cons.mpr ⟨htext e.name, List.forall_mem_singleton.mpr (h.spells hx)⟩

/-- The fields that an event does not have are left out, and stay as they are at first. -/
theorem reads_toJson {e : Event} {depth : Nat} (h : e.data.Fits depth) :
    Reads (Json.record recordFields (new "" .null)) (depth + 1) e.toJson.tokens e := by
  obtain ⟨name, data, space?, message?⟩ := e
  cases space? with
  | none =>
    cases message? with
    | none =>
      exact reads_record (entered_field (i := 0) rfl rfl rfl (reads_text _) <|
        entered_field (i := 1) rfl rfl rfl h.reads <| .nil _) rfl
    | some m =>
      exact reads_record (entered_field (i := 0) rfl rfl rfl (reads_text _) <|
        entered_field (i := 1) rfl rfl rfl h.reads <|
        entered_field (i := 3) rfl rfl rfl (reads_some (reads_text m)) <| .nil _) rfl
  | some n =>
    cases message? with
    | none =>
      exact reads_record (entered_field (i := 0) rfl rfl rfl (reads_text _) <|
        entered_field (i := 1) rfl rfl rfl h.reads <|
        entered_field (i := 2) rfl rfl rfl (reads_some (reads_text n)) <| .nil _) rfl
    | some m =>
      exact reads_record (entered_field (i := 0) rfl rfl rfl (reads_text _) <|
        entered_field (i := 1) rfl rfl rfl h.reads <|
        entered_field (i := 2) rfl rfl rfl (reads_some (reads_text n)) <|
        entered_field (i := 3) rfl rfl rfl (reads_some (reads_text m)) <| .nil _) rfl

/-- A printed event is read as it stands, with its floats reread. -/
theorem readStrict_print {e : Event} (h : e.data.Fits 126) (hx : ∀ x ∈ e.data.reals, x.isFinite) :
    readStrict e.print = .ok (e.mapReals reread) := by
  have hread := reads_toJson (e := e.mapReals reread) (h.mapReals reread) []
  rw [List.append_nil] at hread
  rw [readStrict, Json.read, (spells_print h hx).eq_tokens]
  simp only [Json.nesting, hread, bind, Except.bind]
  rfl

/-- **The event of a printed event** is the event with its floats reread. -/
theorem read_print {e : Event} (h : e.data.Fits 126) (hx : ∀ x ∈ e.data.reals, x.isFinite) :
    read e.print = .ok (e.mapReals reread) := by
  rw [read, readStrict_print h hx]

end Event

namespace Frame

/-- **The frame of an event is decoded as it was**: its text ends with a bracket. -/
theorem decode_message (e : Event) : decode (message e).encode = .ok (message e) := by
  obtain ⟨text, ht⟩ : ∃ text, e.print = '{' :: text ++ ['}'] := ⟨_, rfl⟩
  have hencode : (message e).encode = '4' :: e.print := by
    rw [encode, message, Option.getD_some, String.toList_ofList]
    rfl
  have hends : withoutLineEnds ('4' :: e.print) = '4' :: e.print := by
    rw [ht, withoutLineEnds, Text.dropEndWhile]
    simp [isLineEnd]
  have hne : '4' :: e.print ≠ closeWord := by simp [closeWord]
  rw [decode, hencode, hends, decodeTrimmed, if_neg hne]
  have hempty : e.print.isEmpty = false := by rw [ht]; rfl
  simp [Kind.ofMarker?, hempty, message]

/-- **The event of a frame is the one that was sent**, with its floats reread. -/
theorem event_message {e : Event} (h : e.data.Fits 126) (hx : ∀ x ∈ e.data.reals, x.isFinite) :
    (message e).event = .ok (e.mapReals reread) := by
  rw [event, message]
  simp only [String.toList_ofList]
  exact Event.read_print h hx

end Frame

end VirtualPrinter.Wire
