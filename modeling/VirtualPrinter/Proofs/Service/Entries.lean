import VirtualPrinter.Proofs.Json.Lookup
import VirtualPrinter.Proofs.Machine.Landing
import VirtualPrinter.Proofs.Machine.Registry
import VirtualPrinter.Proofs.Service.Blueprint
import VirtualPrinter.Proofs.Service.Registration
import VirtualPrinter.Proofs.Text.Ends

/-!
# Which entries make printers

An entry of the registry has to come up to five needs, which are looked at in a fixed order; a
printer is made if it meets them all, and otherwise the first one that it does not meet is
complained of.  The printer has the free properties of its entry, and besides them those that the
entry leaves out: a port among the data, and what the brand tells among the attributes.

## Main definitions

* `Machine.Need`, `Entry.Meets`: what an entry has to come up to.
* `Entry.FirstUnmet`, `Device.Complaint`: the first need that is not met, and what is said about it.
* `Entry.InOrder`: the free properties have their keys in order, and each once.

## Main results

* `inOrder_of_readRegistry`: an entry that was read has its free properties in order.
* `ofEntry_cases`: what comes of an entry.
* `get?_ofList_dataOf`, `get?_ofList_attributes`: the free properties of its printer.
* `ofEntry_exact`: all of that.
-/

namespace VirtualPrinter.Machine

/-! ### Needs -/

/-- What an entry has to come up to. -/
inductive Need where
  | product
  | model
  | name
  | temperature
  | home
deriving DecidableEq

/-- The place of a need in the order in which they are looked at. -/
def Need.place : Need → Nat
  | .product => 0
  | .model => 1
  | .name => 2
  | .temperature => 3
  | .home => 4

theorem Need.eq_of_place {a b : Need} (h : a.place = b.place) : a = b := by
  cases a <;> cases b <;> simp_all [Need.place]

namespace Entry

/-- The far corner of the travel volume that an entry tells.  A side of the bed counts only if the
other is told as well. -/
def corner (e : Entry) : Point :=
  let height := (e.number? "height").getD 220
  match e.number? "width", e.number? "length" with
  | some width, some length => ⟨width, length, height⟩
  | _, _ => ⟨250, 210, height⟩

/-- What it is to meet a need: the product is a text that is not empty or a number, maker and model
are more than blanks, and so is the name; a starting temperature that is a number suits the bed, and
a home position of exactly three numbers lies in the travel volume. -/
def Meets (e : Entry) : Need → Prop
  | .product => (∃ s, e.data.get? "productId" = some (.text s) ∧ s ≠ "") ∨
      ∃ n, e.data.get? "productId" = some (.number n)
  | .model => Text.trim (e.brand.printerName ++ " " ++ e.brand.printerModel).toList ≠ []
  | .name => ∃ c ∈ e.name.toList, Text.isBlank c = false
  | .temperature => ∀ n, e.data.get? "startTemp" = some (.number n) →
      0 ≤ n.toFloat ∧ n.toFloat ≤ 120
  | .home => ∀ x y z, e.data.get? "homePos" = some (.list [.number x, .number y, .number z]) →
      (⟨x.toFloat, y.toFloat, z.toFloat⟩ : Point).Inside e.corner

/-- The needs in front of a place are met. -/
def MeetsUpTo (e : Entry) (place : Nat) : Prop := ∀ need : Need, need.place < place → e.Meets need

/-- One need more. -/
theorem MeetsUpTo.succ {e : Entry} {need : Need} (h : e.MeetsUpTo need.place) (hn : e.Meets need) :
    e.MeetsUpTo (need.place + 1) := by
  intro other ho
  rcases Nat.lt_succ_iff_lt_or_eq.mp ho with hlt | heq
  · exact h other hlt
  · rwa [Need.eq_of_place heq]

/-- The first need that an entry does not meet. -/
structure FirstUnmet (e : Entry) (need : Need) : Prop where
  earlier : e.MeetsUpTo need.place
  unmet : ¬e.Meets need

theorem FirstUnmet.unique {e : Entry} {a b : Need} (ha : e.FirstUnmet a) (hb : e.FirstUnmet b) :
    a = b := by
  rcases lt_trichotomy a.place b.place with h | h | h
  · exact absurd (hb.earlier a h) ha.unmet
  · exact Need.eq_of_place h
  · exact absurd (ha.earlier b h) hb.unmet

/-- The free properties have their keys in order, and each once. -/
structure InOrder (e : Entry) : Prop where
  data : e.data.InOrder
  attributes : e.attributes.InOrder

theorem Storable.inOrder {depth : Nat} {e : Entry} (h : e.Storable depth) : e.InOrder := by
  obtain ⟨hattributes, hdata⟩ := h
  cases hattributes with
  | object attributes =>
    cases hdata with
    | object data => exact ⟨data, attributes⟩

/-- An entry that was read has its free properties in order. -/
theorem inOrder_of_readRegistry {text : String} {entries : List Entry}
    (h : readRegistry text = .ok entries) : ∀ e ∈ entries, e.InOrder :=
  fun e he => (storable_of_readRegistry h e he).inOrder

/-! ### Needs in terms of what is read off an entry -/

theorem float?_eq_some_iff {v : Json.Value} {x : Float} :
    v.float? = some x ↔ ∃ n, v = .number n ∧ n.toFloat = x := by
  cases v <;> simp [Json.Value.float?]

theorem number?_eq_some_iff {e : Entry} {key : String} {x : Float} :
    e.number? key = some x ↔ ∃ n, e.data.get? key = some (.number n) ∧ n.toFloat = x := by
  simp only [number?, Option.bind_eq_some_iff, float?_eq_some_iff]
  exact ⟨fun ⟨_, hv, n, he, hx⟩ => ⟨n, he ▸ hv, hx⟩, fun ⟨n, hv, hx⟩ => ⟨_, hv, n, rfl, hx⟩⟩

theorem home?_eq_some_iff {e : Entry} {p : Float × Float × Float} :
    e.home? = some p ↔ ∃ x y z,
      e.data.get? "homePos" = some (.list [.number x, .number y, .number z]) ∧
      (x.toFloat, y.toFloat, z.toFloat) = p := by
  unfold home?
  cases e.data.get? "homePos" with
  | none => simp
  | some v =>
    cases v with
    | null | bool | number | text | object => simp [Json.Value.items?]
    | list items =>
      match items with
      | [] | [_] | [_, _] | _ :: _ :: _ :: _ :: _ => simp [Json.Value.items?]
      | [a, b, c] =>
        simp only [Json.Value.items?, Option.bind_eq_bind, Option.bind_some,
          Option.bind_eq_some_iff, float?_eq_some_iff]
        constructor
        · rintro ⟨_, ⟨x, rfl, rfl⟩, _, ⟨y, rfl, rfl⟩, _, ⟨z, rfl, rfl⟩, hp⟩
          exact ⟨x, y, z, rfl, Option.some.inj hp⟩
        · rintro ⟨x, y, z, hv, rfl⟩
          cases hv
          exact ⟨_, ⟨x, rfl, rfl⟩, _, ⟨y, rfl, rfl⟩, _, ⟨z, rfl, rfl⟩, rfl⟩

end Entry

end VirtualPrinter.Machine

namespace VirtualPrinter.Service

open Json (Fields Value)
open Machine (Entry Extruder Heatbed Identity Leaves Need Point Refusal State)
open Outcome (bind_eq_ok_iff map_eq_ok_iff)

/-! ### Printers as they are told -/

/-- A printer that is told a head and a bed is built unless its identity lacks something, with the
free properties it is told. -/
theorem Blueprint.build_of_parts {b : Blueprint} {extruder : Extruder} {heatbed : Heatbed}
    (he : b.extruder = some extruder) (hb : b.heatbed = some heatbed) :
    b.build = match b.info.gap? with
      | some gap => .error (.data (.validation gap.message))
      | none => .ok (.ofState { State.new b.info extruder heatbed with
          attributes := Fields.ofList b.attributes
          data := Fields.ofList b.data }) := by
  unfold build Identity.check
  rw [he, hb]
  cases b.info.gap? with
  | some gap => rfl
  | none =>
    simp only [State.foldl_setAttribute, State.foldl_setData]
    rfl

namespace Device

variable {e : Entry} {createdAt : Time.Timestamp} {productId : String} {s t : State}

/-- What is complained of where a need is not met. -/
inductive Complaint (e : Entry) : Need → Error → Prop
  | product : Complaint e .product
      (.invalidConfig ("device " ++ toString e.id.toNat ++ " has no productId"))
  | model : Complaint e .model (.data (.validation "device string must not be empty"))
  | name : Complaint e .name (.data (.validation "device name must not be empty"))
  | temperature {x : Float} (told : e.number? "startTemp" = some x) : Complaint e .temperature
      (.invalidConfig ("invalid bed temperature " ++ Decimal.twoPlaces x ++
        ". Valid range: 0 to 120"))
  | home {x y z : Float} {axis : Char} {value max : Float} (told : e.home? = some (x, y, z))
      (leaves : Leaves ⟨x, y, z⟩ e.corner axis value max) : Complaint e .home
      (.invalidConfig ("move out of bounds: " ++ axis.toString ++ " " ++ Decimal.twoPlaces value ++
        " not within 0 to " ++ Decimal.twoPlaces max))

theorem valueText?_isSome_iff {v : Value} :
    (valueText? v).isSome ↔ (∃ s, v = .text s ∧ s ≠ "") ∨ ∃ n, v = .number n := by
  cases v with
  | text s =>
    by_cases hs : s = ""
    · simp [valueText?, hs]
    · simp [valueText?, hs]
  | number n => simp [valueText?]
  | null | bool | list | object => simp [valueText?]

/-- A product that is told as a text, or as a number. -/
theorem meets_product_iff :
    e.Meets .product ↔ ((e.data.get? "productId").bind valueText?).isSome := by
  rw [Option.isSome_bind]
  unfold Entry.Meets
  cases e.data.get? "productId" with
  | none => simp
  | some v => simp [valueText?_isSome_iff]

/-- What is left of maker and model has no outer blanks, so that it is nothing or not blank. -/
theorem meets_model_iff : e.Meets .model ↔ Text.isBlankText e.deviceString = false := by
  rw [Text.isBlankText, Entry.deviceString, String.toList_ofList, Bool.eq_false_iff, Ne,
    List.all_eq_true]
  refine not_congr ⟨fun h => ?_, fun h => Text.trim_eq_nil_of_blank h⟩
  rw [h]
  exact List.forall_mem_nil _

theorem meets_name_iff : e.Meets .name ↔ Text.isBlankText e.name = false := by
  simp [Entry.Meets, Text.isBlankText]

theorem meets_temperature_iff : e.Meets .temperature ↔
    ∀ x, e.number? "startTemp" = some x → Machine.within 0 Machine.bedMax x := by
  simp only [Entry.Meets, Entry.number?_eq_some_iff, Machine.within_iff]
  exact ⟨fun h x ⟨n, hn, hx⟩ => hx ▸ h n hn, fun h n hn => h _ ⟨n, hn, rfl⟩⟩

theorem meets_home_iff :
    e.Meets .home ↔ ∀ x y z, e.home? = some (x, y, z) → (⟨x, y, z⟩ : Point).Inside e.corner := by
  simp only [Entry.Meets, Entry.home?_eq_some_iff]
  constructor
  · rintro h _ _ _ ⟨x, y, z, hv, hp⟩
    cases hp
    exact h x y z hv
  · exact fun h x y z hv => h _ _ _ ⟨x, y, z, hv, rfl⟩

/-- The volume that a printer is given is the one that its entry tells. -/
theorem roomOf_eq (e : Entry) : roomOf e = e.corner := by
  have hz : (extruderOf e).maxZHeight = (e.number? "height").getD 220 := by
    unfold extruderOf
    cases e.number? "height" <;> rfl
  unfold roomOf heatbedOf Entry.corner
  rw [hz]
  cases e.number? "width" <;> cases e.number? "length" <;> rfl

/-! ### The starting temperature, and home -/

theorem temperature_message (x : Float) :
    (Refusal.outOfRange "bed temperature" x 0 Machine.bedMax).message =
      "invalid bed temperature " ++ Decimal.twoPlaces x ++ ". Valid range: 0 to 120" := by
  have hmin : Machine.limitText 0 = "0" := by decide +kernel
  have hmax : Machine.limitText Machine.bedMax = "120" := by decide +kernel
  change "invalid " ++ "bed temperature" ++ " " ++ Decimal.twoPlaces x ++ ". Valid range: " ++
    Machine.limitText 0 ++ " to " ++ Machine.limitText Machine.bedMax = _
  rw [hmin, hmax]
  -- the parts are put together in another way, whatever the number looks like
  generalize Decimal.twoPlaces x = number
  apply String.toList_inj.mp
  simp

theorem withStartTemperature_cases (e : Entry) (s : State) :
    (e.Meets .temperature ∧
      ∃ t, withStartTemperature e s = .ok t ∧ t.travelLimits = s.travelLimits) ∨
    ¬e.Meets .temperature ∧ ∃ x, e.number? "startTemp" = some x ∧
      withStartTemperature e s = .error (.outOfRange "bed temperature" x 0 Machine.bedMax) := by
  rw [meets_temperature_iff]
  unfold withStartTemperature
  cases e.number? "startTemp" with
  | none => exact .inl ⟨nofun, s, rfl, rfl⟩
  | some x =>
    by_cases hx : Machine.within 0 Machine.bedMax x
    · have hset : s.setBedTemperature x =
          .ok { s with heatbed := { s.heatbed with temperature := x } } := by
        simp only [State.setBedTemperature, Machine.checkRange, hx, if_true]
        rfl
      exact .inl ⟨fun y hy => Option.some.inj hy ▸ hx, _, hset, rfl⟩
    · refine .inr ⟨fun h => hx (h x rfl), x, rfl, ?_⟩
      simp only [State.setBedTemperature, Machine.checkRange, hx]
      rfl

theorem withHome_cases (hs : s.travelLimits = e.corner) :
    (e.Meets .home ∧ ∃ t, withHome e s = .ok t) ∨
    ¬e.Meets .home ∧ ∃ x y z axis value max, e.home? = some (x, y, z) ∧
      Leaves ⟨x, y, z⟩ e.corner axis value max ∧
      withHome e s = .error (.outOfBounds axis value max) := by
  rw [meets_home_iff]
  unfold withHome
  cases hhome : e.home? with
  | none => exact .inl ⟨nofun, s, rfl⟩
  | some p =>
    obtain ⟨x, y, z⟩ := p
    rcases Machine.checkBounds_cases s ⟨x, y, z⟩ with
      ⟨hin, hcheck⟩ | ⟨hout, axis, value, max, hleaves, hcheck⟩
    · refine .inl ⟨?_, _, by simp only [State.setHome, hcheck]; rfl⟩
      rintro _ _ _ ⟨⟩
      exact hs ▸ hin
    · rw [hs] at hout hleaves
      refine .inr ⟨fun h => hout (h x y z rfl), x, y, z, axis, value, max, rfl, hleaves, ?_⟩
      simp only [State.setHome, hcheck]
      rfl

/-! ### What comes of an entry -/

/-- The printer of an entry before its temperature is set and its head is sent home. -/
def draftOf (e : Entry) (productId : String) (createdAt : Time.Timestamp) : State :=
  let b := blueprintOf e productId createdAt
  { State.new b.info (extruderOf e) (heatbedOf e) with
    attributes := Fields.ofList b.attributes
    data := Fields.ofList b.data }

/-- What comes of an entry that tells a product. -/
theorem ofEntry_of_product (hp : (e.data.get? "productId").bind valueText? = some productId) :
    ofEntry e createdAt = match (blueprintOf e productId createdAt).info.gap? with
      | some gap => .error (.data (.validation gap.message))
      | none => (((withStartTemperature e (draftOf e productId createdAt)).bind
          (withHome e)).mapError fun r => Error.invalidConfig r.message).map fun t =>
            { ofState (draftOf e productId createdAt) with state := t } := by
  rw [ofEntry, hp]
  simp only [Blueprint.build_of_parts (b := blueprintOf e productId createdAt) rfl rfl]
  cases (blueprintOf e productId createdAt).info.gap? with
  | some gap => rfl
  | none =>
    dsimp only [bind, Except.bind]
    rfl

/-- What comes of the setters: the state with its temperature and its home, or what is complained
of. -/
theorem settled_cases (hs : s.travelLimits = e.corner) (h : e.MeetsUpTo Need.temperature.place) :
    ((∀ need, e.Meets need) ∧ ∃ t, s.SameProperties t ∧
      (withStartTemperature e s).bind (withHome e) = .ok t) ∨
    ∃ need refusal, e.FirstUnmet need ∧ Complaint e need (.invalidConfig refusal.message) ∧
      (withStartTemperature e s).bind (withHome e) = .error refusal := by
  rcases withStartTemperature_cases e s with ⟨hmet, t, ht, hlimits⟩ | ⟨hunmet, x, htold, ht⟩
  · have h' : e.MeetsUpTo Need.home.place := h.succ hmet
    rcases withHome_cases (hlimits.trans hs) with
      ⟨hhome, u, hu⟩ | ⟨hunmet, x, y, z, axis, value, max, htold, hleaves, hu⟩
    · have hall : e.MeetsUpTo 5 := h'.succ hhome
      refine .inl ⟨fun need => hall need (by cases need <;> decide), u, ?_, ?_⟩
      · exact (withStartTemperature_sameProperties ht).trans (withHome_sameProperties hu)
      · rw [ht]
        exact hu
    · refine .inr ⟨.home, .outOfBounds axis value max, ⟨h', hunmet⟩, .home htold hleaves, ?_⟩
      rw [ht]
      exact hu
  · refine .inr
      ⟨.temperature, .outOfRange "bed temperature" x 0 Machine.bedMax, ⟨h, hunmet⟩, ?_, ?_⟩
    · rw [temperature_message]
      exact .temperature htold
    · rw [ht]
      rfl

/-- **What comes of an entry**: a printer with the properties that were drafted, or what is
complained of at the first need that is not met. -/
theorem ofEntry_cases (e : Entry) (createdAt : Time.Timestamp) :
    ((∀ need, e.Meets need) ∧ ∃ productId d,
      (e.data.get? "productId").bind valueText? = some productId ∧
      (draftOf e productId createdAt).SameProperties d.state ∧ ofEntry e createdAt = .ok d) ∨
    ∃ need error, e.FirstUnmet need ∧ Complaint e need error ∧
      ofEntry e createdAt = .error error := by
  have h₀ : e.MeetsUpTo Need.product.place := nofun
  by_cases hproduct : e.Meets .product
  case neg =>
    refine .inr ⟨.product, _, ⟨h₀, hproduct⟩, .product, ?_⟩
    rw [meets_product_iff, Option.not_isSome_iff_eq_none] at hproduct
    rw [ofEntry, hproduct]
  have h₁ : e.MeetsUpTo Need.model.place := h₀.succ hproduct
  obtain ⟨productId, hp⟩ := Option.isSome_iff_exists.mp (meets_product_iff.mp hproduct)
  have hgap : (blueprintOf e productId createdAt).info.gap? =
      if Text.isBlankText e.deviceString then some .device
      else if Text.isBlankText e.name then some .name else none := rfl
  rw [ofEntry_of_product hp, hgap]
  by_cases hmodel : e.Meets .model
  case neg =>
    refine .inr ⟨.model, _, ⟨h₁, hmodel⟩, .model, ?_⟩
    rw [meets_model_iff, Bool.not_eq_false] at hmodel
    rw [hmodel]
    rfl
  have h₂ : e.MeetsUpTo Need.name.place := h₁.succ hmodel
  rw [meets_model_iff.mp hmodel]
  by_cases hname : e.Meets .name
  case neg =>
    refine .inr ⟨.name, _, ⟨h₂, hname⟩, .name, ?_⟩
    rw [meets_name_iff, Bool.not_eq_false] at hname
    rw [hname]
    rfl
  have h₃ : e.MeetsUpTo Need.temperature.place := h₂.succ hname
  rw [meets_name_iff.mp hname]
  -- with an identity that lacks nothing the setters decide
  rcases settled_cases (s := draftOf e productId createdAt) (roomOf_eq e) h₃ with
    ⟨hall, t, hsame, ht⟩ | ⟨need, refusal, hfirst, hcomplaint, ht⟩
  · refine .inl ⟨hall, productId, { ofState (draftOf e productId createdAt) with state := t }, hp,
      hsame, ?_⟩
    rw [ht]
    rfl
  · refine .inr ⟨need, _, hfirst, hcomplaint, ?_⟩
    rw [ht]
    rfl

/-! ### The free properties of a printer -/

/-- The attributes that a brand tells. -/
def brandAttribute? (e : Entry) (key : String) : Option Value :=
  if key = "model" then some (.text e.brand.printerModel)
  else if key = "vendorId" then some (.text e.brand.vendorId)
  else none

/-- The port that is made up from the number of an entry. -/
def madeUpPort? (e : Entry) (key : String) : Option Value :=
  if key = "port" then some (.text ("EMU" ++ toString (e.id.toNat % 10))) else none

/-- The data of a printer are those of its entry, and a port where the entry has none. -/
theorem get?_ofList_dataOf (h : e.data.InOrder) (key : String) :
    (Fields.ofList (dataOf e)).get? key = (e.data.get? key).or (madeUpPort? e key) := by
  unfold dataOf madeUpPort?
  split
  · next hport =>
    rw [Fields.ofList_eq_self h]
    split
    · next hkey =>
      obtain ⟨port, hport⟩ := Option.isSome_iff_exists.mp hport
      rw [hkey, hport, Option.some_or]
    · rw [Option.or_none]
  · next hport =>
    rw [Fields.ofList_append_singleton h, Fields.get?_insert]
    split
    · next hkey =>
      rw [hkey, Option.not_isSome_iff_eq_none.mp hport, Option.none_or]
    · rw [Option.or_none]

/-- The attributes of a printer are those of its entry, and below them those that the brand tells.
-/
theorem get?_ofList_attributes (h : e.attributes.InOrder) (productId : String)
    (createdAt : Time.Timestamp) (key : String) :
    (Fields.ofList (blueprintOf e productId createdAt).attributes).get? key =
      (e.attributes.get? key).or (brandAttribute? e key) := by
  have hkeys : "model" < "vendorId" := by decide
  have horder : Fields.InOrder [("model", .text e.brand.printerModel),
      ("vendorId", .text e.brand.vendorId)] := List.pairwise_pair.mpr hkeys
  have hlaid : Fields.ofList (blueprintOf e productId createdAt).attributes =
      e.attributes.foldl (fun f p => f.insert p.1 p.2) (Fields.ofList [
        ("model", .text e.brand.printerModel), ("vendorId", .text e.brand.vendorId)]) :=
    List.foldl_append
  rw [hlaid, Fields.get?_foldl h, Fields.ofList_eq_self horder, Fields.get?_cons, Fields.get?_cons]
  rfl

theorem Complaint.unique {need : Need} {a b : Error} (ha : Complaint e need a)
    (hb : Complaint e need b) : a = b := by
  cases ha with
  | product | model | name =>
    cases hb
    rfl
  | temperature htold =>
    cases hb with
    | temperature htold' => rw [Option.some.inj (htold.symm.trans htold')]
  | home htold hleaves =>
    cases hb with
    | home htold' hleaves' =>
      cases Option.some.inj (htold.symm.trans htold')
      obtain ⟨rfl, rfl, rfl⟩ := hleaves.unique hleaves'
      rfl

/-- **Which entries make printers, and what of.**  A printer is made exactly of an entry that meets
every need; otherwise there is the complaint about the first need that is not met, and no other.
The data of the printer are those of the entry, with a port made up where the entry has none, and
its attributes are those of the entry, with what the brand tells where the entry has no such
attribute. -/
theorem ofEntry_exact (e : Entry) (createdAt : Time.Timestamp) :
    ((∃ d, ofEntry e createdAt = .ok d) ↔ ∀ need, e.Meets need) ∧
    (∀ error, ofEntry e createdAt = .error error ↔
      ∃ need, e.FirstUnmet need ∧ Complaint e need error) ∧
    ∀ d, ofEntry e createdAt = .ok d → e.InOrder →
      (d.state.data.InOrder ∧
        ∀ key, d.state.data.get? key = (e.data.get? key).or (madeUpPort? e key)) ∧
      d.state.attributes.InOrder ∧
        ∀ key, d.state.attributes.get? key =
          (e.attributes.get? key).or (brandAttribute? e key) := by
  rcases ofEntry_cases e createdAt with
    ⟨hall, productId, d, hp, hsame, hd⟩ | ⟨need, error, hfirst, hcomplaint, he⟩
  · refine ⟨iff_of_true ⟨d, hd⟩ hall, fun error => iff_of_false (by simp [hd]) ?_, ?_⟩
    · rintro ⟨need, hfirst, -⟩
      exact hfirst.unmet (hall need)
    · intro d' hd' horder
      cases hd.symm.trans hd'
      rw [hsame.data, hsame.attributes]
      exact ⟨⟨Fields.ofList_order _, get?_ofList_dataOf horder.data⟩, Fields.ofList_order _,
        get?_ofList_attributes horder.attributes productId createdAt⟩
  · refine ⟨iff_of_false (by simp [he]) fun hall => hfirst.unmet (hall need), fun error' => ?_, ?_⟩
    · rw [he, Except.error.injEq]
      constructor
      · rintro rfl
        exact ⟨need, hfirst, hcomplaint⟩
      · rintro ⟨need', hfirst', hcomplaint'⟩
        obtain rfl := hfirst.unique hfirst'
        exact hcomplaint.unique hcomplaint'
    · intro d hd
      cases he.symm.trans hd

/-- An entry without a maker, with a number for its product and a vendor of its own; its home is in
the far corner, and it has no port. -/
theorem ofEntry_exact_override :
    let e : Entry := ⟨27, "Printer27", ⟨"", "MK4", "2c99"⟩,
      [("homePos", .list [.number (.int 180), .number (.int 170), .number (.int 220)]),
        ("length", .number (.int 170)), ("productId", .number (.int 26)),
        ("startTemp", .number (.int 120)), ("width", .number (.int 180))],
      [("nozzle", .number (.real 0.4)), ("vendorId", .text "ffff")]⟩
    e.InOrder ∧ ∃ d, ofEntry e ⟨0, 0⟩ = .ok d ∧
      (d.state.data.InOrder ∧ d.state.data.get? "port" = some (.text "EMU7") ∧
        d.state.data.get? "productId" = some (.number (.int 26)) ∧
        d.state.data.get? "height" = none) ∧
      d.state.attributes.InOrder ∧ d.state.attributes.get? "model" = some (.text "MK4") ∧
        d.state.attributes.get? "vendorId" = some (.text "ffff") ∧
        d.state.attributes.get? "nozzle" = some (.number (.real 0.4)) := by
  intro e
  have horder : e.InOrder := ⟨by decide +kernel, by decide +kernel⟩
  have hsome : (ofEntry e ⟨0, 0⟩).toOption.isSome := by decide +kernel
  obtain ⟨d, hd⟩ := Option.isSome_iff_exists.mp hsome
  have hd := Outcome.toOption_eq_some_iff.mp hd
  have hmadeUp : "EMU" ++ toString (e.id.toNat % 10) = "EMU7" := by decide +kernel
  obtain ⟨⟨hdata, hfound⟩, hattributes, hbrand⟩ := (ofEntry_exact e ⟨0, 0⟩).2.2 d hd horder
  have hport := (hfound "port").trans (congrArg (fun s => some (Value.text s)) hmadeUp)
  exact ⟨horder, d, hd, ⟨hdata, hport, hfound "productId", hfound "height"⟩, hattributes,
    hbrand "model", hbrand "vendorId", hbrand "nozzle"⟩

end Device

end VirtualPrinter.Service
