import VirtualPrinter.Proofs.Json.Documents
import VirtualPrinter.Wire.Event

/-!
# Envelopes

Which documents are envelopes of events, said on the document as written: an object with one field
`event` that is a text, and at most one field each for the data, the namespace and the message; or a
list of these, of which those at the end may be left out.  What else an object has does not matter.

A text that is an envelope is read as it stands, whatever apostrophes there are in it.  One that is a
document but no envelope is read once more with its apostrophes taken for quotes, and then what was
inside a text may turn out to be an envelope.

## Main definitions

* `Event.envelope?`: the event of a document that is an envelope.

## Main results

* `toOption_readStrict`: what is read of a document as it stands is the event of its envelope.
* `read_document`: what is read of a document, with apostrophes or without.
-/

namespace VirtualPrinter.Wire

open Json (Document Fault IsDocument TakenField TakenFields Takes Value)

namespace Event

/-! ### Which documents are envelopes -/

/-- A part of an envelope, which has a default if it is left out. -/
def part? {α : Type} (default : α) (get : Document → Option α) : Option Document → Option α
  | none => some default
  | some d => get d

/-- The event of the parts of an envelope; the first must not be left out.  Where a part is not to be
had there is no event. -/
def ofParts? (name data space message : Option (Option Document)) : Option Event := do
  let name ← name.bind (·.bind (·.text?))
  let data ← data.bind (part? .null (·.value?))
  let space? ← space.bind (part? none (·.optionalText?))
  let message? ← message.bind (part? none (·.optionalText?))
  return ⟨name, data, space?, message?⟩

/-- What a key stands for, if it stands there at most once. -/
def once? (key : String) (fields : List (String × Document)) : Option (Option Document) :=
  match fields.filter (·.1 == key) with
  | [] => some none
  | [(_, d)] => some (some d)
  | _ => none

/-- The event of the fields of an envelope; other fields than those of an event do not matter. -/
def ofFields? (fields : List (String × Document)) : Option Event :=
  ofParts? (once? "event" fields) (once? "data" fields) (once? "nsp" fields)
    (once? "message" fields)

/-- Fields whose keys are texts. -/
def readable? : List (Except Fault String × Document) → Option (List (String × Document))
  | [] => some []
  | (k, d) :: rest => k.toOption.bind fun k => (readable? rest).map ((k, d) :: ·)

/-- The event of a document that is an envelope. -/
def envelope? : Document → Option Event
  | .object fields => (readable? fields).bind ofFields?
  | .list items =>
    if items.length ≤ 4 then
      ofParts? (some items[0]?) (some items[1]?) (some items[2]?) (some items[3]?)
    else none
  | _ => none

/-! ### The fields of the record -/

/-- The fields of an event, with what they make of a document. -/
def takenFields : List (TakenField Event) := [
  TakenField.of "event" Json.text (fun e v => { e with name := v }) .required (·.text?),
  TakenField.of "data" Json.value (fun e v => { e with data := v }) .defaulted (·.value?),
  TakenField.of "nsp" (Json.nullable Json.text) (fun e v => { e with space? := v }) .defaulted
    (·.optionalText?),
  TakenField.of "message" (Json.nullable Json.text) (fun e v => { e with message? := v }) .defaulted
    (·.optionalText?)]

theorem recordFields_eq : recordFields = takenFields.map (·.1) := rfl

theorem takenFields_takes (depth : Nat) : TakenFields depth takenFields := by
  intro f hf s d hd
  simp only [takenFields, List.mem_cons, List.not_mem_nil, or_false] at hf
  rcases hf with rfl | rfl | rfl | rfl
  · exact TakenField.of_takes (Json.takes_text depth d) s
  · exact TakenField.of_takes (Json.takes_value hd) s
  · exact TakenField.of_takes (Json.takes_optionalText depth d) s
  · exact TakenField.of_takes (Json.takes_optionalText depth d) s

/-! ### Envelopes that are lists -/

theorem takeItems_eq (items : List Document) :
    Json.takeItems takenFields (new "" .null) items = envelope? (.list items) := by
  have hmap {α β : Type} (f : α → β) (x : Option α) : x.map f = x.bind fun y => some (f y) := by
    cases x <;> rfl
  simp only [takenFields, TakenField.of, Json.RecordField.of, new]
  match items with
  | [] => rfl
  | [a] | [a, b] | [a, b, c] | [a, b, c, d] =>
    simp [Json.takeItems, envelope?, ofParts?, part?, hmap, Option.bind_assoc]
  | a :: b :: c :: d :: e :: rest => simp [Json.takeItems, envelope?]

/-! ### Envelopes that are objects -/

section

variable {α : Type}

/-- What a key comes to, entry by entry: it may have come to something before, and must not stand
there again then. -/
def slot (key : String) (get : Document → Option α) :
    Option α → List (String × Document) → Option (Option α)
  | x, [] => some x
  | x, (k, d) :: rest =>
    if k = key then
      if x.isSome then none else (get d).bind fun y => slot key get (some y) rest
    else slot key get x rest

theorem slot_some (key : String) (get : Document → Option α) (x : α)
    (fields : List (String × Document)) :
    slot key get (some x) fields =
      if fields.filter (·.1 == key) = [] then some (some x) else none := by
  induction fields with
  | nil => rfl
  | cons p fields ih =>
    obtain ⟨k, d⟩ := p
    by_cases hk : k = key
    · simp [slot, hk]
    · rw [slot, if_neg hk, ih, List.filter_cons_of_neg (by simpa using hk)]

/-- A key that stands there once comes to what it stands for. -/
theorem slot_none (key : String) (get : Document → Option α) (fields : List (String × Document)) :
    slot key get none fields = (once? key fields).bind fun
      | none => some none
      | some d => (get d).map some := by
  induction fields with
  | nil => rfl
  | cons p fields ih =>
    obtain ⟨k, d⟩ := p
    by_cases hk : k = key
    · cases hf : fields.filter (·.1 == key) <;> cases hg : get d <;>
        simp [slot, hk, slot_some, once?, hf, hg]
    · simp [slot, hk, ih, once?]

/-- A key that must be there. -/
theorem slot_required (key : String) (get : Document → Option α)
    (fields : List (String × Document)) :
    (slot key get none fields).bind id = (once? key fields).bind (·.bind get) := by
  rw [slot_none]
  cases once? key fields with
  | none => rfl
  | some d =>
    cases d with
    | none => rfl
    | some d => cases hd : get d <;> simp [hd]

/-- A key that may be left out. -/
theorem slot_default (key : String) (get : Document → Option α) (default : α)
    (fields : List (String × Document)) :
    (slot key get none fields).map (·.getD default) = (once? key fields).bind (part? default get) := by
  rw [slot_none]
  cases once? key fields with
  | none => rfl
  | some d =>
    cases d with
    | none => rfl
    | some d => cases hd : get d <;> simp [part?, hd]

end

/-- What an event under construction has come to, and which of its fields have been seen. -/
structure Holds (state : Event × List Nat) (name : Option String) (data : Option Value)
    (space message : Option (Option String)) : Prop where
  event : state.1 = ⟨name.getD "", data.getD .null, space.getD none, message.getD none⟩
  name : state.2.contains 0 = name.isSome
  data : state.2.contains 1 = data.isSome
  space : state.2.contains 2 = space.isSome
  message : state.2.contains 3 = message.isSome

namespace Holds

variable {e : Event} {seen : List Nat} {name : Option String} {data : Option Value}
  {space message : Option (Option String)}

theorem take_name (h : Holds (e, seen) none data space message) (x : String) :
    Holds ({ e with name := x }, 0 :: seen) (some x) data space message := by
  obtain ⟨rfl, -, hdata, hspace, hmessage⟩ := h
  exact ⟨rfl, rfl, by simpa using hdata, by simpa using hspace, by simpa using hmessage⟩

theorem take_data (h : Holds (e, seen) name none space message) (x : Value) :
    Holds ({ e with data := x }, 1 :: seen) name (some x) space message := by
  obtain ⟨rfl, hname, -, hspace, hmessage⟩ := h
  exact ⟨rfl, by simpa using hname, rfl, by simpa using hspace, by simpa using hmessage⟩

theorem take_space (h : Holds (e, seen) name data none message) (x : Option String) :
    Holds ({ e with space? := x }, 2 :: seen) name data (some x) message := by
  obtain ⟨rfl, hname, hdata, -, hmessage⟩ := h
  exact ⟨rfl, by simpa using hname, by simpa using hdata, rfl, by simpa using hmessage⟩

theorem take_message (h : Holds (e, seen) name data space none) (x : Option String) :
    Holds ({ e with message? := x }, 3 :: seen) name data space (some x) := by
  obtain ⟨rfl, hname, hdata, hspace, -⟩ := h
  exact ⟨rfl, by simpa using hname, by simpa using hdata, by simpa using hspace, rfl⟩

end Holds

/-- What the keys of an object come to. -/
def slots (name : Option String) (data : Option Value) (space message : Option (Option String))
    (fields : List (String × Document)) : Option Event := do
  let name ← (slot "event" (·.text?) name fields).bind id
  let data ← (slot "data" (·.value?) data fields).map (·.getD .null)
  let space? ← (slot "nsp" (·.optionalText?) space fields).map (·.getD none)
  let message? ← (slot "message" (·.optionalText?) message fields).map (·.getD none)
  return ⟨name, data, space?, message?⟩

theorem slots_none (fields : List (String × Document)) :
    slots none none none none fields = ofFields? fields := by
  simp only [slots, slot_required, slot_default, ofFields?, ofParts?]

/-- The event of an object whose entries have been taken: its name has been seen. -/
def finished (state : Event × List Nat) : Option Event :=
  if state.2.contains 0 then some state.1 else none

section

variable {name : Option String} {data : Option Value} {space message : Option (Option String)}
  {state : Event × List Nat} {k : String} {d : Document}

/-- A key of an event in front of others: it must not have come to something before. -/
theorem slots_cons (fields : List (String × Document)) :
    slots name data space message ((k, d) :: fields) =
      if k = "event" then
        if name.isSome then none else d.text?.bind fun x => slots (some x) data space message fields
      else if k = "data" then
        if data.isSome then none else d.value?.bind fun x => slots name (some x) space message fields
      else if k = "nsp" then
        if space.isSome then none
        else d.optionalText?.bind fun x => slots name data (some x) message fields
      else if k = "message" then
        if message.isSome then none
        else d.optionalText?.bind fun x => slots name data space (some x) fields
      else slots name data space message fields := by
  by_cases h₀ : k = "event"
  · subst h₀
    cases name <;> cases hd : d.text? <;> simp [slots, slot, hd]
  by_cases h₁ : k = "data"
  · subst h₁
    cases data <;> cases hd : d.value? <;> simp [slots, slot, hd]
  by_cases h₂ : k = "nsp"
  · subst h₂
    cases space <;> cases hd : d.optionalText? <;> simp [slots, slot, hd]
  by_cases h₃ : k = "message"
  · subst h₃
    cases message <;> cases hd : d.optionalText? <;> simp [slots, slot, hd]
  simp [slots, slot, h₀, h₁, h₂, h₃]

/-- An entry in front of others. -/
theorem recordStep_eq (e : Event) (seen : List Nat) :
    Json.recordStep takenFields (e, seen) k d =
      if k = "event" then
        if seen.contains 0 then none else d.text?.map fun x => ({ e with name := x }, 0 :: seen)
      else if k = "data" then
        if seen.contains 1 then none else d.value?.map fun x => ({ e with data := x }, 1 :: seen)
      else if k = "nsp" then
        if seen.contains 2 then none
        else d.optionalText?.map fun x => ({ e with space? := x }, 2 :: seen)
      else if k = "message" then
        if seen.contains 3 then none
        else d.optionalText?.map fun x => ({ e with message? := x }, 3 :: seen)
      else some (e, seen) := by
  have hindex : takenFields.findIdx? (fun f => f.1.names.contains k) =
      if k = "event" then some 0 else if k = "data" then some 1 else if k = "nsp" then some 2
      else if k = "message" then some 3 else none := by
    simp only [takenFields, TakenField.of, Json.RecordField.of, List.findIdx?_cons, List.findIdx?_nil,
      List.contains_cons, List.contains_nil, Bool.or_false, beq_iff_eq]
    by_cases h₀ : k = "event" <;> by_cases h₁ : k = "data" <;> by_cases h₂ : k = "nsp" <;>
      by_cases h₃ : k = "message" <;> simp [h₀, h₁, h₂, h₃]
  rw [Json.recordStep, hindex]
  by_cases h₀ : k = "event"
  · subst h₀
    cases hd : d.text? <;> simp [takenFields, TakenField.of, hd]
  by_cases h₁ : k = "data"
  · subst h₁
    cases hd : d.value? <;> simp [takenFields, TakenField.of, hd]
  by_cases h₂ : k = "nsp"
  · subst h₂
    cases hd : d.optionalText? <;> simp [takenFields, TakenField.of, hd]
  by_cases h₃ : k = "message"
  · subst h₃
    cases hd : d.optionalText? <;> simp [takenFields, TakenField.of, hd]
  simp [h₀, h₁, h₂, h₃]

end

/-- **Taken one after the other, the entries come to what their keys come to.** -/
theorem foldEntries_eq {state : Event × List Nat} {name : Option String} {data : Option Value}
    {space message : Option (Option String)} (hs : Holds state name data space message)
    (fields : List (Except Fault String × Document)) :
    (Json.foldEntries (Json.recordStep takenFields) state fields).bind finished =
      (readable? fields).bind (slots name data space message) := by
  -- what the keys in front have come to is carried along, and `Holds` says that the state knows it
  induction fields generalizing state name data space message with
  | nil =>
    obtain ⟨e, seen⟩ := state
    obtain ⟨rfl, hname, -, -, -⟩ := hs
    simp only [Json.foldEntries, readable?, Option.bind_some, finished, hname, slots, slot]
    cases name <;> rfl
  | cons p fields ih =>
    obtain ⟨k, d⟩ := p
    cases k with
    | error fault => rfl
    | ok k =>
      obtain ⟨e, seen⟩ := state
      have hname : seen.contains 0 = name.isSome := hs.name
      have hdata : seen.contains 1 = data.isSome := hs.data
      have hspace : seen.contains 2 = space.isSome := hs.space
      have hmessage : seen.contains 3 = message.isSome := hs.message
      simp only [Json.foldEntries, readable?, Outcome.toOption_ok, Option.bind_some, recordStep_eq,
        hname, hdata, hspace, hmessage, Option.bind_map, Function.comp_def, slots_cons]
      -- a key of the event that has been seen is refused on both sides, and so is what it cannot take
      by_cases h₀ : k = "event"
      · subst h₀
        cases name with
        | some x => simp
        | none => cases d.text? with
          | none => simp
          | some x => simpa using ih (hs.take_name x)
      by_cases h₁ : k = "data"
      · subst h₁
        cases data with
        | some x => simp
        | none => cases d.value? with
          | none => simp
          | some x => simpa using ih (hs.take_data x)
      by_cases h₂ : k = "nsp"
      · subst h₂
        cases space with
        | some x => simp
        | none => cases d.optionalText? with
          | none => simp
          | some x => simpa using ih (hs.take_space x)
      by_cases h₃ : k = "message"
      · subst h₃
        cases message with
        | some x => simp
        | none => cases d.optionalText? with
          | none => simp
          | some x => simpa using ih (hs.take_message x)
      simp only [h₀, h₁, h₂, h₃, if_false, Option.bind_some]
      exact ih hs

/-! ### Reading documents -/

theorem takes_event {depth : Nat} {d : Document} (h : d.Nests (depth + 1)) :
    Takes (Json.record recordFields (new "" .null)) (depth + 1) d (envelope? d) := by
  rw [recordFields_eq]
  cases h with
  | list h =>
    rw [← takeItems_eq]
    exact Json.takes_recordList (takenFields_takes depth) h _
  | @object _ fields h =>
    have hstart : Holds (new "" .null, []) none none none none := ⟨rfl, rfl, rfl, rfl, rfl⟩
    have hfold := foldEntries_eq hstart fields
    rw [show slots none none none none = ofFields? from funext slots_none] at hfold
    rw [envelope?, ← hfold]
    -- of the fields of an event only the first is required
    have hrequired (seen : List Nat) : ((takenFields.map (·.1)).zipIdx.all fun (f, i) =>
        f.presence ≠ .required || seen.contains i) = seen.contains 0 := by
      simp [takenFields, TakenField.of, Json.RecordField.of]
    have htakes := Json.takes_recordObject (takenFields_takes depth) h (new "" .null)
    simp only [hrequired] at htakes
    exact htakes
  | null | bool | number | text => exact Json.takes_record_none (by simp) (by simp) _ _ _

/-- **What is read of a document as it stands is the event of its envelope.** -/
theorem toOption_readStrict {text : List Char} {d : Document} (h : IsDocument text d) :
    (readStrict text).toOption = envelope? d :=
  Json.toOption_read h (takes_event h.2)

/-- A text that is not read as it stands is read with its apostrophes taken for quotes, if it has
any. -/
theorem read_eq_ok_iff {text : List Char} (h : (readStrict text).toOption = none) (e : Event) :
    read text = .ok e ↔ '\'' ∈ text ∧ readStrict (quotesForApostrophes text) = .ok e := by
  unfold read
  cases hs : readStrict text with
  | ok e => simp [hs] at h
  | error fault =>
    by_cases hq : '\'' ∈ text
    · cases readStrict (quotesForApostrophes text) <;> simp [hq]
    · simp [hq]

/-- **What is read of a document.**  An envelope is read as it stands, with the texts that are written
there.  A document that is no envelope is read by its apostrophes or not at all: what it gives is the
event of the envelope that it becomes when they are taken for quotes.  Without apostrophes the
envelopes are all that is read. -/
theorem read_document {text : List Char} {d : Document} (h : IsDocument text d) :
    (∀ e, envelope? d = some e → read text = .ok e) ∧
    (envelope? d = none → ∀ e, read text = .ok e ↔
      '\'' ∈ text ∧ readStrict (quotesForApostrophes text) = .ok e) ∧
    (envelope? d = none → ∀ d', IsDocument (quotesForApostrophes text) d' →
      ∀ e, read text = .ok e ↔ '\'' ∈ text ∧ envelope? d' = some e) ∧
    ('\'' ∉ text → ((∃ e, read text = .ok e) ↔ (envelope? d).isSome)) := by
  have hstrict := toOption_readStrict h
  have hread : ∀ e, envelope? d = some e → read text = .ok e := fun e he => by
    rw [he, Outcome.toOption_eq_some_iff] at hstrict
    rw [read, hstrict]
  have hnone (hd : envelope? d = none) := read_eq_ok_iff (hstrict.trans hd)
  refine ⟨hread, hnone, fun hd d' hd' e => ?_, fun hq => ?_⟩
  · rw [hnone hd, ← Outcome.toOption_eq_some_iff, toOption_readStrict hd']
  · cases hd : envelope? d with
    | some e => exact ⟨fun _ => rfl, fun _ => ⟨e, hread e hd⟩⟩
    | none => simp [hnone hd, hq]

/-- Apostrophes in the name, in the data and in the key of a field that does not matter. -/
theorem read_document_quoted :
    let text := "\x7b\"event\":\"it's\",\"data\":[\"','\"],\"don't\":0\x7d".toList
    let d : Document := .object [(.ok "event", .text (.ok "it's")),
      (.ok "data", .list [.text (.ok "','")]), (.ok "don't", .number (.ok (.int 0)))]
    IsDocument text d ∧ read text = .ok (new "it's" (.list [.text "','"])) := by
  intro text d
  have h : IsDocument text d := by
    refine ⟨by rfl, .object fun p hp => ?_⟩
    simp only [List.mem_cons, List.not_mem_nil, or_false] at hp
    rcases hp with rfl | rfl | rfl
    · exact .text _
    · exact .list fun d hd => by
        rw [List.mem_singleton.mp hd]
        exact .text _
    · exact .number _
  exact ⟨h, (read_document h).1 _ (by rfl)⟩

/-- **An event that was smuggled in**: the document has one field, whose text becomes two others. -/
theorem read_smuggled :
    let text := "\x7b\"a\":\"','event':'ping\"\x7d".toList
    let d : Document := .object [(.ok "a", .text (.ok "','event':'ping"))]
    IsDocument text d ∧ envelope? d = none ∧ read text = .ok (new "ping" .null) := by
  intro text d
  refine ⟨⟨by rfl, .object fun p hp => ?_⟩, by rfl, by rfl⟩
  rw [List.mem_singleton.mp hp]
  exact .text _

end Event

end VirtualPrinter.Wire
