import VirtualPrinter.Machine.Snapshot
import VirtualPrinter.Proofs.Json.Printed
import VirtualPrinter.Proofs.Json.Records

/-!
# The state of a printer read back

The document of a state, put in order, has every field of the state.  Each is read by the reader of
its type, and gives the field again: names are looked up where they are written, a set of motors is
the union of the parts of its text, and a float stands as it is.  Only what a float is read as, once
it has been printed, need not be the float.

## Main definitions

* `State.document`: the document of a state whose floats are finite, in order.
* `State.reals`, `State.times`: the floats and the instants of a state.
* `State.mapReals`: a state with other floats.

## Main results

* `State.toJson_sorted`: the document, put in order.
* `State.reads_document`: the document is read as the state.
* `State.mapReals_eq_self_iff`: other floats make another state.
-/

namespace VirtualPrinter.Machine

open Json (Fields Value Reads reads_record entered_field reads_real reads_text reads_bool
  reads_natural reads_textAs reads_choice reads_fields reads_none reads_some)

/-- An integer of up to thirty-two bits fits every allowance. -/
theorem fits_ofNat {n : Nat} (h : n < 2 ^ 32) (depth : Nat) : (Value.ofNat n).Fits depth := by
  refine .number ⟨?_, ?_⟩ <;> simp only [Nat.pow_eq] <;> omega

theorem fits_real (x : Float) (depth : Nat) : (Value.number (.real x)).Fits depth :=
  .number trivial

/-! ### Motors -/

namespace Motors

/-- The parts of the text of a set. -/
def flagParts (m : Motors) : List (List Char) :=
  let rest := (m.diff all).bits.toNat
  named.filterMap (fun p => if m.contains p.2 then some [p.1] else Option.none) ++
    if rest = 0 then [] else ['0' :: 'x' :: Nat.toDigits 16 rest]

theorem toList_flags (m : Motors) : m.flags.toList = [' ', '|', ' '].intercalate m.flagParts := by
  have hletters : m.letters.map String.toList =
      named.filterMap fun p => if m.contains p.2 then some [p.1] else Option.none := by
    rw [letters, List.map_filterMap]
    congr 1
    funext p
    split
    split <;> simp [*]
  rw [flags, String.toList_intercalate, List.map_append, hletters, flagParts]
  split <;> simp

/-- A set of motors is the union of the parts of its text. -/
theorem parse?_flags (m : Motors) : parse? m.flags.toList = some m := by
  -- the bits are a byte, so that there are not too many sets to look at
  have hall : ∀ n < 256, parse? ([' ', '|', ' '].intercalate (flagParts ⟨n.toUInt8⟩)) =
      some ⟨n.toUInt8⟩ := by
    decide +kernel
  have h := hall m.bits.toNat m.bits.toNat_lt
  rw [Nat.toUInt8_eq, UInt8.ofNat_toNat] at h
  rw [toList_flags]
  exact h

end Motors

/-! ### Points -/

namespace Point

/-- The document of a point with finite coordinates. -/
def document (p : Point) : Value :=
  .object [("x", .number (.real p.x)), ("y", .number (.real p.y)), ("z", .number (.real p.z))]

/-- The coordinates. -/
def reals (p : Point) : List Float := [p.x, p.y, p.z]

/-- Other coordinates. -/
def mapReals (f : Float → Float) (p : Point) : Point := ⟨f p.x, f p.y, f p.z⟩

theorem toJson_sorted {p : Point} (h : ∀ x ∈ p.reals, x.isFinite) :
    p.toJson.sorted = p.document := by
  simp only [reals, List.forall_mem_cons] at h
  simp only [toJson, document, Value.ofFloat, h, Value.sorted, Value.sortedFields,
    Fields.ofList, List.foldl_cons, List.foldl_nil, Fields.insert, String.reduceLT, ↓reduceIte,
    String.reduceBEq, Bool.false_eq_true]

theorem fits_document (p : Point) (depth : Nat) : p.document.Fits (depth + 1) := by
  refine .object ?_ ?_
  · simp only [List.pairwise_cons, List.forall_mem_cons, String.reduceLT, List.not_mem_nil,
      false_implies, implies_true, List.Pairwise.nil, and_self]
  · simp only [List.forall_mem_cons]
    exact ⟨fits_real _ _, fits_real _ _, fits_real _ _, nofun⟩

theorem mapReals_eq_self_iff (f : Float → Float) (p : Point) :
    p.mapReals f = p ↔ ∀ x ∈ p.reals, f x = x := by
  obtain ⟨x, y, z⟩ := p
  simp [mapReals, reals]

theorem reads_document (p : Point) (depth : Nat) :
    Reads reader (depth + 1) p.document.tokens p :=
  reads_record (entered_field (i := 0) rfl rfl rfl (reads_real _) <|
    entered_field (i := 1) rfl rfl rfl (reads_real _) <|
    entered_field (i := 2) rfl rfl rfl (reads_real _) <| .nil _) rfl

end Point

/-! ### Identity, print head and bed -/

theorem reads_timestamp {t : Time.Timestamp} (h : Time.Timestamp.parse? t.print = some t)
    {depth : Nat} : Reads timestamp depth (timestampValue t).tokens t :=
  reads_textAs (by rw [String.toList_ofList, h])

namespace Identity

/-- The document of an identity, in order. -/
def document (i : Identity) : Value :=
  .object [
    ("createdAt", timestampValue i.createdAt),
    ("description", .text i.description),
    ("device", .text i.device),
    ("hwid", .text i.hwid),
    ("id", .ofNat i.id.toNat),
    ("name", .text i.name),
    ("status", .text i.status)]

theorem toJson_sorted (i : Identity) : i.toJson.sorted = i.document := by
  simp only [toJson, document, timestampValue, Value.ofNat, Value.sorted, Value.sortedFields,
    Fields.ofList, List.foldl_cons, List.foldl_nil, Fields.insert, String.reduceLT, ↓reduceIte,
    String.reduceBEq, Bool.false_eq_true]

theorem fits_document (i : Identity) (depth : Nat) : i.document.Fits (depth + 1) := by
  refine .object ?_ ?_
  · simp only [List.pairwise_cons, List.forall_mem_cons, String.reduceLT, List.not_mem_nil,
      false_implies, implies_true, List.Pairwise.nil, and_self]
  · simp only [List.forall_mem_cons]
    exact ⟨.text _, .text _, .text _, .text _, fits_ofNat i.id.toNat_lt _, .text _, .text _, nofun⟩

theorem reads_document {i : Identity}
    (ht : Time.Timestamp.parse? i.createdAt.print = some i.createdAt) (depth : Nat) :
    Reads reader (depth + 1) i.document.tokens i := by
  have hid : i.id.toNat.toUInt32 = i.id := by rw [Nat.toUInt32_eq, UInt32.ofNat_toNat]
  have hread : Reads reader (depth + 1) i.document.tokens { i with id := i.id.toNat.toUInt32 } :=
    reads_record (entered_field (i := 6) rfl rfl rfl (reads_timestamp ht) <|
      entered_field (i := 2) rfl rfl rfl (reads_text _) <|
      entered_field (i := 1) rfl rfl rfl (reads_text _) <|
      entered_field (i := 3) rfl rfl rfl (reads_text _) <|
      entered_field (i := 0) rfl rfl rfl (reads_natural i.id.toNat_lt) <|
      entered_field (i := 4) rfl rfl rfl (reads_text _) <|
      entered_field (i := 5) rfl rfl rfl (reads_text _) <| .nil _) rfl
  rw [hid] at hread
  exact hread

end Identity

/-- A way to understand words is looked up by its name. -/
theorem Positioning.reads_name (p : Positioning) (depth : Nat) :
    Reads reader depth (Value.text p.name).tokens p := by
  cases p <;> exact reads_choice rfl

theorem Units.reads_name (u : Units) (depth : Nat) :
    Reads reader depth (Value.text u.name).tokens u := by
  cases u <;> exact reads_choice rfl

theorem Motors.reads_flags (m : Motors) (depth : Nat) :
    Reads reader depth (Value.text m.flags).tokens m :=
  reads_textAs m.parse?_flags

namespace Extruder

/-- The document of a print head whose floats are finite, in order. -/
def document (e : Extruder) : Value :=
  .object [
    ("fanSpeed", .number (.real e.fanSpeed)),
    ("maxZHeight", .number (.real e.maxZHeight)),
    ("position", e.position.document),
    ("positioning", .text e.positioning.name),
    ("targetTemperature", .number (.real e.targetTemperature)),
    ("temperature", .number (.real e.temperature))]

/-- The floats of a print head. -/
def reals (e : Extruder) : List Float :=
  e.fanSpeed :: e.maxZHeight :: e.position.reals ++ [e.targetTemperature, e.temperature]

/-- A print head with other floats. -/
def mapReals (f : Float → Float) (e : Extruder) : Extruder where
  position := e.position.mapReals f
  temperature := f e.temperature
  targetTemperature := f e.targetTemperature
  fanSpeed := f e.fanSpeed
  positioning := e.positioning
  maxZHeight := f e.maxZHeight

theorem toJson_sorted {e : Extruder} (h : ∀ x ∈ e.reals, x.isFinite) :
    e.toJson.sorted = e.document := by
  simp only [reals, List.cons_append, List.forall_mem_cons, List.forall_mem_append] at h
  obtain ⟨hfan, hmax, hposition, htarget, htemperature, -⟩ := h
  have hp := Point.toJson_sorted hposition
  simp only [toJson, document, Value.ofFloat, hfan, hmax, htarget, htemperature,
    Value.sorted, Value.sortedFields, hp, Fields.ofList, List.foldl_cons, List.foldl_nil,
    Fields.insert, String.reduceLT, ↓reduceIte, String.reduceBEq, Bool.false_eq_true]

theorem fits_document (e : Extruder) (depth : Nat) : e.document.Fits (depth + 2) := by
  refine .object ?_ ?_
  · simp only [List.pairwise_cons, List.forall_mem_cons, String.reduceLT, List.not_mem_nil,
      false_implies, implies_true, List.Pairwise.nil, and_self]
  · simp only [List.forall_mem_cons]
    exact ⟨fits_real _ _, fits_real _ _, e.position.fits_document depth, .text _, fits_real _ _,
      fits_real _ _, nofun⟩

theorem mapReals_eq_self_iff (f : Float → Float) (e : Extruder) :
    e.mapReals f = e ↔ ∀ x ∈ e.reals, f x = x := by
  have hp := Point.mapReals_eq_self_iff f e.position
  obtain ⟨position, temperature, target, fan, positioning, height⟩ := e
  simp only [mapReals, reals, mk.injEq, hp, List.cons_append, List.forall_mem_cons,
    List.forall_mem_append]
  constructor
  · rintro ⟨hp, ht, htt, hf, -, hz⟩
    exact ⟨hf, hz, hp, htt, ht, nofun⟩
  · rintro ⟨hf, hz, hp, htt, ht, -⟩
    exact ⟨hp, ht, htt, hf, trivial, hz⟩

theorem reads_document (e : Extruder) (depth : Nat) :
    Reads reader (depth + 2) e.document.tokens e :=
  reads_record (entered_field (i := 3) rfl rfl rfl (reads_real _) <|
    entered_field (i := 5) rfl rfl rfl (reads_real _) <|
    entered_field (i := 0) rfl rfl rfl (e.position.reads_document depth) <|
    entered_field (i := 4) rfl rfl rfl (e.positioning.reads_name _) <|
    entered_field (i := 2) rfl rfl rfl (reads_real _) <|
    entered_field (i := 1) rfl rfl rfl (reads_real _) <| .nil _) rfl

end Extruder

namespace Heatbed

/-- The document of a bed whose floats are finite, in order. -/
def document (b : Heatbed) : Value :=
  .object [
    ("heating", .bool b.heating),
    ("length", .number (.real b.length)),
    ("targetTemperature", .number (.real b.targetTemperature)),
    ("temperature", .number (.real b.temperature)),
    ("width", .number (.real b.width))]

/-- The floats of a bed. -/
def reals (b : Heatbed) : List Float :=
  [b.length, b.targetTemperature, b.temperature, b.width]

/-- A bed with other floats. -/
def mapReals (f : Float → Float) (b : Heatbed) : Heatbed where
  temperature := f b.temperature
  targetTemperature := f b.targetTemperature
  heating := b.heating
  width := f b.width
  length := f b.length

theorem toJson_sorted {b : Heatbed} (h : ∀ x ∈ b.reals, x.isFinite) :
    b.toJson.sorted = b.document := by
  simp only [reals, List.forall_mem_cons] at h
  simp only [toJson, document, Value.ofFloat, h, Value.sorted, Value.sortedFields,
    Fields.ofList, List.foldl_cons, List.foldl_nil, Fields.insert, String.reduceLT, ↓reduceIte,
    String.reduceBEq, Bool.false_eq_true]

theorem fits_document (b : Heatbed) (depth : Nat) : b.document.Fits (depth + 1) := by
  refine .object ?_ ?_
  · simp only [List.pairwise_cons, List.forall_mem_cons, String.reduceLT, List.not_mem_nil,
      false_implies, implies_true, List.Pairwise.nil, and_self]
  · simp only [List.forall_mem_cons]
    exact ⟨.bool _, fits_real _ _, fits_real _ _, fits_real _ _, fits_real _ _, nofun⟩

theorem mapReals_eq_self_iff (f : Float → Float) (b : Heatbed) :
    b.mapReals f = b ↔ ∀ x ∈ b.reals, f x = x := by
  obtain ⟨temperature, target, heating, width, length⟩ := b
  simp only [mapReals, reals, mk.injEq, List.forall_mem_cons]
  constructor
  · rintro ⟨ht, htt, -, hw, hl⟩
    exact ⟨hl, htt, ht, hw, nofun⟩
  · rintro ⟨hl, htt, ht, hw, -⟩
    exact ⟨ht, htt, trivial, hw, hl⟩

theorem reads_document (b : Heatbed) (depth : Nat) :
    Reads reader (depth + 1) b.document.tokens b :=
  reads_record (entered_field (i := 2) rfl rfl rfl (reads_bool _) <|
    entered_field (i := 4) rfl rfl rfl (reads_real _) <|
    entered_field (i := 1) rfl rfl rfl (reads_real _) <|
    entered_field (i := 0) rfl rfl rfl (reads_real _) <|
    entered_field (i := 3) rfl rfl rfl (reads_real _) <| .nil _) rfl

end Heatbed

/-! ### The whole state -/

namespace State

/-- The document of a state whose floats are finite and whose free properties are in order. -/
def document (s : State) : Value :=
  .object [
    ("acceleration", .number (.real s.acceleration)),
    ("attributes", .object s.attributes),
    ("auxTargetTemperature", .number (.real s.auxTargetTemperature)),
    ("coldExtrusion", .bool s.coldExtrusion),
    ("data", .object s.data),
    ("enabledMotors", .text s.enabledMotors.flags),
    ("extruder", s.extruder.document),
    ("feedRate", .number (.real s.feedRate)),
    ("heatbed", s.heatbed.document),
    ("homePosition", s.homePosition.document),
    ("info", s.info.document),
    ("lastKeepalive", (s.lastKeepalive.map timestampValue).getD .null),
    ("linearAdvance", .number (.real s.linearAdvance)),
    ("paused", .bool s.paused),
    ("positioning", .text s.positioning.name),
    ("progress", .ofNat s.progress.toNat),
    ("remainingMinutes", .ofNat s.remainingMinutes.toNat),
    ("units", .text s.units.name)]

/-- The floats of a state, those of its free properties among them. -/
def reals (s : State) : List Float :=
  s.acceleration :: (Value.object s.attributes).reals ++ s.auxTargetTemperature ::
    (Value.object s.data).reals ++ s.extruder.reals ++ s.feedRate :: s.heatbed.reals ++
    s.homePosition.reals ++ [s.linearAdvance]

theorem forall_mem_reals {P : Float → Prop} (s : State) :
    (∀ x ∈ s.reals, P x) ↔ P s.acceleration ∧ (∀ x ∈ (Value.object s.attributes).reals, P x) ∧
      P s.auxTargetTemperature ∧ (∀ x ∈ (Value.object s.data).reals, P x) ∧
      (∀ x ∈ s.extruder.reals, P x) ∧ P s.feedRate ∧ (∀ x ∈ s.heatbed.reals, P x) ∧
      (∀ x ∈ s.homePosition.reals, P x) ∧ P s.linearAdvance := by
  simp only [reals, List.forall_mem_append, List.forall_mem_cons, List.cons_append,
    List.not_mem_nil, false_implies, implies_true, and_true, and_assoc]

/-- The instants of a state. -/
def times (s : State) : List Time.Timestamp :=
  s.info.createdAt :: s.lastKeepalive.toList

/-- A state with other floats. -/
def mapReals (f : Float → Float) (s : State) : State :=
  { s with
    extruder := s.extruder.mapReals f
    heatbed := s.heatbed.mapReals f
    acceleration := f s.acceleration
    linearAdvance := f s.linearAdvance
    auxTargetTemperature := f s.auxTargetTemperature
    feedRate := f s.feedRate
    homePosition := s.homePosition.mapReals f
    attributes := Value.mapRealsFields f s.attributes
    data := Value.mapRealsFields f s.data }

@[simp] theorem position_mapReals (f : Float → Float) (s : State) :
    (s.mapReals f).position = s.position.mapReals f := rfl

/-- The free properties of a state keep within an allowance of nesting. -/
structure Storable (depth : Nat) (s : State) : Prop where
  attributes : (Value.object s.attributes).Fits depth
  data : (Value.object s.data).Fits depth

/-- **The document of a state, put in order.** -/
theorem toJson_sorted {s : State} (h : ∀ x ∈ s.reals, x.isFinite) {depth : Nat}
    (hs : s.Storable depth) : s.toJson.sorted = s.document := by
  obtain ⟨ha, -, hx, -, hextruder, hf, hheatbed, hhome, hl⟩ := (forall_mem_reals s).mp h
  have he := Extruder.toJson_sorted hextruder
  have hb := Heatbed.toJson_sorted hheatbed
  have hp := Point.toJson_sorted hhome
  have hi := s.info.toJson_sorted
  have hattributes := hs.attributes.sorted_eq
  have hdata := hs.data.sorted_eq
  have htime : ((s.lastKeepalive.map timestampValue).getD .null).sorted =
      (s.lastKeepalive.map timestampValue).getD .null := by
    cases s.lastKeepalive <;> rfl
  rw [Value.sorted, Value.object.injEq] at hattributes hdata
  -- every field by itself, before the fields are put in order
  simp only [toJson, document, Value.ofFloat, Value.ofNat, ha, hx, hf, hl, Value.sorted,
    Value.sortedFields, he, hb, hp, hi, hattributes, hdata, htime, ↓reduceIte]
  simp only [Fields.ofList, List.foldl_cons, List.foldl_nil, Fields.insert, String.reduceLT,
    ↓reduceIte, String.reduceBEq, Bool.false_eq_true]

/-- The document keeps within an allowance, if the free properties do. -/
theorem fits_document {s : State} {depth : Nat} (h : s.Storable (depth + 2)) :
    s.document.Fits (depth + 3) := by
  have htime : ((s.lastKeepalive.map timestampValue).getD .null).Fits (depth + 2) := by
    cases s.lastKeepalive with
    | none => exact .null
    | some t => exact .text _
  have hprogress : s.progress.toNat < 2 ^ 32 := Nat.lt_trans s.progress.toNat_lt (by decide)
  refine .object ?_ ?_
  · simp only [List.pairwise_cons, List.forall_mem_cons, String.reduceLT, List.not_mem_nil,
      false_implies, implies_true, List.Pairwise.nil, and_self]
  · simp only [List.forall_mem_cons]
    exact ⟨fits_real _ _, h.attributes, fits_real _ _, .bool _, h.data, .text _,
      s.extruder.fits_document depth, fits_real _ _, s.heatbed.fits_document (depth + 1),
      s.homePosition.fits_document (depth + 1), s.info.fits_document (depth + 1), htime,
      fits_real _ _, .bool _, .text _, fits_ofNat hprogress _,
      fits_ofNat s.remainingMinutes.toNat_lt _, .text _, nofun⟩

theorem three_le_length_document (s : State) : 3 ≤ s.document.tokens.length := by
  rw [document, Value.tokens, Value.fieldTokens]
  simp only [List.length_append, List.length_cons]
  omega

/-- A state with other floats has the document with other floats. -/
theorem document_mapReals (f : Float → Float) (s : State) :
    (s.mapReals f).document = s.document.mapReals f := by
  have htime : ((s.lastKeepalive.map timestampValue).getD .null).mapReals f =
      (s.lastKeepalive.map timestampValue).getD .null := by
    cases s.lastKeepalive <;> rfl
  simp only [document, Value.mapReals, Value.mapRealsFields, htime]
  rfl

/-- Other floats need no other allowance. -/
theorem Storable.mapReals {s : State} {depth : Nat} (h : s.Storable depth) (f : Float → Float) :
    (s.mapReals f).Storable depth :=
  ⟨h.attributes.mapReals f, h.data.mapReals f⟩

/-- The floats of the document are those of the state. -/
theorem reals_document (s : State) : s.document.reals = s.reals := by
  have htime : ((s.lastKeepalive.map timestampValue).getD .null).reals = [] := by
    cases s.lastKeepalive <;> rfl
  simp only [document, reals, Value.reals, Value.realsOfFields, htime, Value.ofNat,
    List.nil_append, List.cons_append, List.append_assoc]
  rfl

/-- **Other floats make another state.** -/
theorem mapReals_eq_self_iff (f : Float → Float) (s : State) :
    s.mapReals f = s ↔ ∀ x ∈ s.reals, f x = x := by
  have he := Extruder.mapReals_eq_self_iff f s.extruder
  have hb := Heatbed.mapReals_eq_self_iff f s.heatbed
  have hp := Point.mapReals_eq_self_iff f s.homePosition
  have ha := Value.mapRealsFields_eq_self_iff f s.attributes
  have hd := Value.mapRealsFields_eq_self_iff f s.data
  rw [forall_mem_reals, Value.reals, Value.reals, ← he, ← hb, ← hp, ← ha, ← hd]
  constructor
  · intro h
    have hfield {α : Type} (field : State → α) : field (s.mapReals f) = field s := congrArg field h
    exact ⟨hfield acceleration, hfield attributes, hfield auxTargetTemperature, hfield data,
      hfield extruder, hfield feedRate, hfield heatbed, hfield homePosition, hfield linearAdvance⟩
  · rintro ⟨hacceleration, hattributes, haux, hdata, hextruder, hfeed, hheatbed, hhome, hadvance⟩
    simp only [mapReals, hacceleration, hattributes, haux, hdata, hextruder, hfeed, hheatbed, hhome,
      hadvance]

/-- **The document is read as the state.** -/
theorem reads_document {s : State} {depth : Nat} (h : s.Storable (depth + 2))
    (ht : ∀ t ∈ s.times, Time.Timestamp.parse? t.print = some t) :
    Reads reader (depth + 3) s.document.tokens s := by
  have hprogress : s.progress.toNat.toUInt8 = s.progress := by
    rw [Nat.toUInt8_eq, UInt8.ofNat_toNat]
  have hminutes : s.remainingMinutes.toNat.toUInt32 = s.remainingMinutes := by
    rw [Nat.toUInt32_eq, UInt32.ofNat_toNat]
  have hcreated := Identity.reads_document (ht _ List.mem_cons_self) (depth + 1)
  have hkeepalive : Reads (Json.nullable timestamp) (depth + 2)
      ((s.lastKeepalive.map timestampValue).getD .null).tokens s.lastKeepalive := by
    cases hs : s.lastKeepalive with
    | none => exact reads_none _
    | some t =>
      have hmem : t ∈ s.times := by simp [times, hs]
      exact reads_some (reads_timestamp (ht t hmem))
  -- in the order of the document, each field with its place in the record
  have hread : Reads reader (depth + 3) s.document.tokens
      { s with
        progress := s.progress.toNat.toUInt8
        remainingMinutes := s.remainingMinutes.toNat.toUInt32 } :=
    reads_record (entered_field (i := 6) rfl rfl rfl (reads_real _) <|
      entered_field (i := 16) rfl rfl rfl (reads_fields h.attributes) <|
      entered_field (i := 8) rfl rfl rfl (reads_real _) <|
      entered_field (i := 13) rfl rfl rfl (reads_bool _) <|
      entered_field (i := 17) rfl rfl rfl (reads_fields h.data) <|
      entered_field (i := 5) rfl rfl rfl (s.enabledMotors.reads_flags _) <|
      entered_field (i := 1) rfl rfl rfl (s.extruder.reads_document depth) <|
      entered_field (i := 9) rfl rfl rfl (reads_real _) <|
      entered_field (i := 2) rfl rfl rfl (s.heatbed.reads_document (depth + 1)) <|
      entered_field (i := 14) rfl rfl rfl (s.homePosition.reads_document (depth + 1)) <|
      entered_field (i := 0) rfl rfl rfl hcreated <|
      entered_field (i := 15) rfl rfl rfl hkeepalive <|
      entered_field (i := 7) rfl rfl rfl (reads_real _) <|
      entered_field (i := 10) rfl rfl rfl (reads_bool _) <|
      entered_field (i := 3) rfl rfl rfl (s.positioning.reads_name _) <|
      entered_field (i := 11) rfl rfl rfl (reads_natural s.progress.toNat_lt) <|
      entered_field (i := 12) rfl rfl rfl (reads_natural s.remainingMinutes.toNat_lt) <|
      entered_field (i := 4) rfl rfl rfl (s.units.reads_name _) <| .nil _) rfl
  rw [hprogress, hminutes] at hread
  exact hread

end State

end VirtualPrinter.Machine
