import VirtualPrinter.Proofs.Json.Printed
import VirtualPrinter.Proofs.Number.Finite
import VirtualPrinter.Proofs.Outcome

/-!
# What is read from a text

A value that is read from a text keeps within the allowance it was read with: every container in it
took one off, an object was put in order, and an integer that did not fit was refused.  A float in it
is finite.  Each reader is looked at once, for the property of what it gives and for the tokens it
leaves.

## Main definitions

* `Value.Admitted`: a value that is read with an allowance.
* `Json.Sound`: tokens that a text can have.
* `Json.Yields`: what a reader gives has a property.

## Main results

* `sound_tokens`: the tokens of a text are sound.
* `yields_value`, `yields_fields`: a value that is read keeps within its allowance, and its floats are
  finite.
* `yields_record`, `yields_listOf`: what records and lists keep.
* `read_yields`: what is read from a text has what its reader gives.
-/

namespace VirtualPrinter.Json

open Outcome (map_eq_ok_iff bind_eq_ok_iff)

/-! ### Values that are read -/

/-- A value that is read with an allowance: it keeps within it, and its floats are finite. -/
structure Value.Admitted (depth : Nat) (v : Value) : Prop where
  fits : v.Fits depth
  finite : ∀ x ∈ v.reals, x.isFinite

namespace Value.Admitted

variable {depth : Nat}

theorem mono {v : Value} {depth' : Nat} (h : v.Admitted depth) (hd : depth ≤ depth') :
    v.Admitted depth' :=
  ⟨h.fits.mono hd, h.finite⟩

theorem int {i : Int} (h : (Number.int i).InRange) : (Value.number (.int i)).Admitted depth :=
  ⟨.number h, nofun⟩

theorem real {x : Float} (h : x.isFinite) : (Value.number (.real x)).Admitted depth :=
  ⟨.number trivial, List.forall_mem_singleton.mpr h⟩

theorem text (s : String) : (Value.text s).Admitted depth :=
  ⟨.text s, nofun⟩

theorem list {vs : List Value} (h : ∀ v ∈ vs, v.Admitted depth) :
    (Value.list vs).Admitted (depth + 1) := by
  refine ⟨.list fun v hv => (h v hv).fits, fun x hx => ?_⟩
  rw [reals, realsOfItems_eq_flatMap] at hx
  obtain ⟨v, hv, hx⟩ := List.mem_flatMap.mp hx
  exact (h v hv).finite x hx

theorem object {fields : Fields} (ho : fields.InOrder) (h : ∀ p ∈ fields, p.2.Admitted depth) :
    (Value.object fields).Admitted (depth + 1) := by
  refine ⟨.object ho fun p hp => (h p hp).fits, fun x hx => ?_⟩
  rw [reals, realsOfFields_eq_flatMap] at hx
  obtain ⟨p, hp, hx⟩ := List.mem_flatMap.mp hx
  exact (h p hp).finite x hx

end Value.Admitted

/-! ### The tokens of a text -/

/-- A token of a text stands for a value that needs no allowance, if it stands for a value. -/
def Token.Sound : Token → Prop
  | .word (.ok v) => v.Admitted 0
  | .number ⟨.ok n, _⟩ => (Value.number n).Admitted 0
  | _ => True

/-- Tokens of a text. -/
def Sound (ts : List Token) : Prop := ∀ t ∈ ts, t.Sound

theorem sound_nil : Sound [] := fun _ h => absurd h List.not_mem_nil

theorem Sound.head {t : Token} {ts : List Token} (h : Sound (t :: ts)) : t.Sound :=
  h t List.mem_cons_self

theorem Sound.tail {t : Token} {ts : List Token} (h : Sound (t :: ts)) : Sound ts := fun u hu =>
  h u (List.mem_cons_of_mem _ hu)

/-- A count of digits is finite wherever the exponent moves it, and with either sign. -/
theorem isFinite_float {count : Nat} (hc : count < 2 ^ 64) {shift : Int}
    {exponent : Option (Bool × List Char)} {y : Float}
    (h : Numeral.float count shift exponent = .ok y) (negative : Bool) :
    (Decimal.signed negative y).isFinite := by
  have hy : y.isFinite := by
    unfold Numeral.float at h
    split at h
    · exact Number.isFinite_scaled hc h
    · split at h
      · exact Number.isFinite_scaled hc h
      · split at h
        · cases h
        · cases h
          decide
  cases negative with
  | false => exact hy
  | true => exact Number.isFinite_neg hy

/-- A number as written has been counted in sixty-four bits: an integer is in range, and one further
down than `-2 ^ 63` is a float. -/
theorem value_admitted {n : Numeral} {x : Number} (h : n.value = .ok x) : (Value.number x).Admitted 0 := by
  unfold Numeral.value at h
  have hcount := collect_lt (n := 0) (by decide) n.whole
  generalize Numeral.collect 0 n.whole = counted at h hcount
  obtain ⟨count, left⟩ := counted
  dsimp only at h hcount
  split at h
  · -- an integer, of which no digit has been left out
    cases h
    unfold Numeral.integer
    simp only [Nat.pow_eq] at hcount ⊢
    split
    · split
      · exact .real (Number.isFinite_neg (Number.isFinite_of_below (Number.below_toFloat hcount)))
      · exact .int (by constructor <;> simp only [Nat.pow_eq] <;> omega)
    · exact .int (by constructor <;> simp only [Nat.pow_eq] <;> omega)
  · have hmore := collect_lt hcount (n.fraction.getD [])
    obtain ⟨y, hy, rfl⟩ := map_eq_ok_iff.mp h
    exact .real (isFinite_float hmore hy n.negative)

theorem numberToken_sound (negative : Bool) (text : List Char) :
    (numberToken negative text).1.Sound := by
  unfold numberToken
  split
  · next n rest _ =>
    cases hn : n.value with
    | ok x => exact value_admitted hn
    | error fault => trivial
  · trivial

theorem wordOf?_admitted {c : Char} {letters : List Char} {v : Value}
    (h : wordOf? c = some (letters, v)) : v.Admitted 0 := by
  unfold wordOf? at h
  split at h <;> cases h
  · exact ⟨.null, nofun⟩
  · exact ⟨.bool true, nofun⟩
  · exact ⟨.bool false, nofun⟩

theorem token_sound (c : Char) (rest : List Char) : (token c rest).1.Sound := by
  unfold token
  repeat' split
  all_goals first
    | trivial
    | exact numberToken_sound _ _
    | exact wordOf?_admitted ‹_›

theorem sound_tokensWithin (limit : Nat) (text : List Char) : Sound (tokensWithin limit text) := by
  induction limit generalizing text with
  | zero => exact sound_nil
  | succ limit ih =>
    rw [tokensWithin]
    split
    · exact sound_nil
    · next c rest _ =>
      exact List.forall_mem_cons.mpr ⟨token_sound c rest, ih _⟩

theorem sound_tokens (text : List Char) : Sound (tokens text) :=
  sound_tokensWithin _ _

/-! ### Parts of lists and objects -/

/-- What a reader gives has a property, and it leaves sound tokens. -/
def Yields {α : Type} (r : List Token → Except Fault (α × List Token)) (P : α → Prop) : Prop :=
  ∀ ts x rest, Sound ts → r ts = .ok (x, rest) → P x ∧ Sound rest

variable {ts rest : List Token}

theorem nextItem_sound {first : Bool} (h : Sound ts) (hr : nextItem first ts = .ok (some rest)) :
    Sound rest := by
  unfold nextItem at hr
  split at hr
  · cases hr
  · cases hr
  · split at hr
    · cases hr
      exact h
    · split at hr <;> cases hr
      exact h.tail

theorem endOfList_sound (h : Sound ts) (hr : endOfList ts = .ok rest) : Sound rest := by
  unfold endOfList at hr
  split at hr <;> cases hr
  exact h.tail

theorem key_sound {k : String} (h : Sound ts) (hr : key ts = .ok (k, rest)) : Sound rest := by
  unfold key at hr
  split at hr
  · cases hr
  · obtain ⟨_, -, he⟩ := map_eq_ok_iff.mp hr
    cases he
    exact h.tail
  · cases hr

theorem nextKey_sound {first : Bool} {k : String} (h : Sound ts)
    (hr : nextKey first ts = .ok (some (k, rest))) : Sound rest := by
  unfold nextKey at hr
  split at hr
  · cases hr
  · cases hr
  · split at hr
    · obtain ⟨_, hk, he⟩ := map_eq_ok_iff.mp hr
      cases he
      exact key_sound h hk
    · split at hr
      · obtain ⟨_, hk, he⟩ := map_eq_ok_iff.mp hr
        cases he
        exact key_sound h.tail hk
      · cases hr

theorem endOfObject_sound (h : Sound ts) (hr : endOfObject ts = .ok rest) : Sound rest := by
  unfold endOfObject at hr
  split at hr <;> cases hr
  exact h.tail

theorem colon_sound (h : Sound ts) (hr : colon ts = .ok rest) : Sound rest := by
  unfold colon at hr
  split at hr <;> cases hr
  exact h.tail

theorem skip_sound (h : Sound ts) (hr : skip ts = .ok rest) : Sound rest := by
  -- the induction is on the tokens, at any place of the grammar and any depth
  suffices hfrom : ∀ ts expected enclosing, Sound ts → skipFrom expected enclosing ts = .ok rest →
      Sound rest from hfrom ts .value [] h hr
  clear h hr
  intro ts
  induction ts with
  | nil => intro _ _ _ hr; cases hr
  | cons t ts ih =>
    intro expected enclosing h hr
    rw [skipFrom] at hr
    obtain ⟨next, -, hr⟩ := bind_eq_ok_iff.mp hr
    cases next with
    | none =>
      cases hr
      exact h.tail
    | some next => exact ih _ _ h.tail hr

/-! ### Lists and objects -/

section

variable {α σ : Type} {P : α → Prop} {I : σ → Prop}

/-- The items of a list have what each of them has. -/
theorem yields_items {item : List Token → Except Fault (α × List Token)} (h : Yields item P) :
    Yields (items item) fun xs => ∀ x ∈ xs, P x := by
  suffices hwithin : ∀ limit first, Yields (itemsWithin item limit first) fun xs => ∀ x ∈ xs, P x from
    fun ts => hwithin _ _ ts
  intro limit
  induction limit with
  | zero => intro _ _ _ _ _ hr; cases hr
  | succ limit ih =>
    intro first ts xs rest hs hr
    rw [itemsWithin] at hr
    obtain ⟨next, hnext, hr⟩ := bind_eq_ok_iff.mp hr
    cases next with
    | none =>
      obtain ⟨rest, hend, hr⟩ := bind_eq_ok_iff.mp hr
      cases hr
      exact ⟨fun _ hx => absurd hx List.not_mem_nil, endOfList_sound hs hend⟩
    | some next =>
      obtain ⟨⟨x, us⟩, hx, hr⟩ := bind_eq_ok_iff.mp hr
      obtain ⟨⟨ys, vs⟩, hys, hr⟩ := bind_eq_ok_iff.mp hr
      cases hr
      obtain ⟨hpx, hus⟩ := h next x us (nextItem_sound hs hnext) hx
      obtain ⟨hpys, hvs⟩ := ih false us ys rest hus hys
      exact ⟨List.forall_mem_cons.mpr ⟨hpx, hpys⟩, hvs⟩

/-- What every entry of an object keeps, all of them keep. -/
theorem yields_entries {entry : σ → String → List Token → Except Fault (σ × List Token)}
    (h : ∀ s k, I s → Yields (entry s k) I) {s : σ} (hi : I s) : Yields (entries entry s) I := by
  suffices hwithin : ∀ limit first s, I s → Yields (entriesWithin entry limit first s) I from
    fun ts => hwithin _ _ s hi ts
  intro limit
  induction limit with
  | zero => intro _ _ _ _ _ _ _ hr; cases hr
  | succ limit ih =>
    intro first s hi ts t rest hs hr
    rw [entriesWithin] at hr
    obtain ⟨next, hnext, hr⟩ := bind_eq_ok_iff.mp hr
    cases next with
    | none =>
      cases hr
      exact ⟨hi, hs⟩
    | some next =>
      obtain ⟨k, us⟩ := next
      obtain ⟨⟨u, vs⟩, hu, hr⟩ := bind_eq_ok_iff.mp hr
      obtain ⟨hiu, hvs⟩ := h s k hi us u vs (nextKey_sound hs hnext) hu
      exact ih false u hiu vs t rest hvs hr

end

/-! ### Any value -/

/-- An entry of an object is admitted like the entries before it. -/
theorem yields_valueEntry {depth : Nat} (h : Yields (value depth) (Value.Admitted depth))
    {pairs : Fields} (hpairs : ∀ p ∈ pairs, p.2.Admitted depth) (k : String) :
    Yields (valueEntry depth pairs k) fun pairs => ∀ p ∈ pairs, p.2.Admitted depth := by
  intro ts pairs' rest hs hr
  obtain ⟨us, hcolon, hr⟩ := bind_eq_ok_iff.mp hr
  obtain ⟨⟨v, vs⟩, hv, hr⟩ := bind_eq_ok_iff.mp hr
  cases hr
  obtain ⟨hadmitted, hvs⟩ := h us v rest (colon_sound hs hcolon) hv
  exact ⟨List.forall_mem_cons.mpr ⟨hadmitted, hpairs⟩, hvs⟩

/-- **A value that is read from a text keeps within the allowance**, and its floats are finite. -/
theorem yields_value (depth : Nat) : Yields (value depth) (Value.Admitted depth) := by
  induction depth using Nat.strongRecOn with
  | ind depth ih =>
    intro ts v rest hs hr
    unfold value at hr
    split at hr
    · cases hr
    · -- a word: what it stands for is not nested
      obtain ⟨w, hw, he⟩ := map_eq_ok_iff.mp hr
      cases he
      subst hw
      exact ⟨hs.head.mono (Nat.zero_le depth), hs.tail⟩
    · next n _ =>
      obtain ⟨m, hm, he⟩ := map_eq_ok_iff.mp hr
      cases he
      obtain ⟨_, skipped⟩ := n
      subst hm
      exact ⟨hs.head.mono (Nat.zero_le depth), hs.tail⟩
    · obtain ⟨t, -, he⟩ := map_eq_ok_iff.mp hr
      cases he
      exact ⟨.text t, hs.tail⟩
    · cases hr
    · next depth _ =>
      -- a list: its items have one level less
      obtain ⟨⟨vs, us⟩, hvs, he⟩ := map_eq_ok_iff.mp hr
      cases he
      obtain ⟨hitems, hus⟩ := yields_items (ih depth (Nat.lt_succ_self _)) _ vs rest hs.tail hvs
      exact ⟨.list hitems, hus⟩
    · next depth _ =>
      -- an object: the entries are collected first, and put in order behind the last one
      obtain ⟨⟨pairs, us⟩, hpairs, hr⟩ := bind_eq_ok_iff.mp hr
      obtain ⟨us', hend, hr⟩ := bind_eq_ok_iff.mp hr
      cases hr
      have hentry (pairs : Fields) (k : String) (h : ∀ p ∈ pairs, p.2.Admitted depth) :=
        yields_valueEntry (ih depth (Nat.lt_succ_self _)) h k
      obtain ⟨hall, hus⟩ := yields_entries hentry (fun _ hp => absurd hp List.not_mem_nil)
        _ pairs us hs.tail hpairs
      refine ⟨.object (Fields.ofList_order _) fun p hp => ?_, endOfObject_sound hus hend⟩
      exact hall p (List.mem_reverse.mp (Fields.mem_of_mem_ofList hp))
    · cases hr

/-- An object with any fields keeps within the allowance. -/
theorem yields_fields (depth : Nat) : Yields (fields depth) fun fs => (Value.object fs).Fits depth := by
  intro ts fs rest hs hr
  unfold fields at hr
  split at hr
  · obtain ⟨⟨v, us⟩, hv, hr⟩ := bind_eq_ok_iff.mp hr
    obtain ⟨hadmitted, hus⟩ := yields_value depth _ v us hs hv
    dsimp only at hr
    split at hr <;> cases hr
    exact ⟨hadmitted.fits, hus⟩
  · cases hr

/-! ### Texts, integers and records -/

/-- Nothing is said about what a reader gives. -/
abbrev Passes {α : Type} (r : List Token → Except Fault (α × List Token)) : Prop :=
  Yields r fun _ => True

theorem textAs_passes {α : Type} (parse : String → Option α) (depth : Nat) :
    Passes (textAs parse depth) := by
  intro ts x rest hs hr
  unfold textAs at hr
  split at hr
  · split at hr <;> cases hr
    exact ⟨trivial, hs.tail⟩
  · cases hr

theorem nullable_passes {α : Type} {r : Reader α} {depth : Nat} (h : Passes (r depth)) :
    Passes (nullable r depth) := by
  intro ts x rest hs hr
  unfold nullable at hr
  split at hr
  · cases hr
    exact ⟨trivial, hs.tail⟩
  · obtain ⟨⟨y, _⟩, hy, he⟩ := map_eq_ok_iff.mp hr
    cases he
    exact ⟨trivial, (h ts y rest hs hy).2⟩

theorem natural_passes (bound depth : Nat) : Passes (natural bound depth) := by
  intro ts x rest hs hr
  unfold natural at hr
  split at hr
  · split at hr <;> cases hr
    exact ⟨trivial, hs.tail⟩
  · cases hr

section

variable {α σ : Type} {P : α → Prop} {I : σ → Prop} {depth : Nat}

theorem yields_listOf {r : Reader α} (h : Yields (r depth) P) :
    Yields (listOf r (depth + 1)) fun xs => ∀ x ∈ xs, P x := by
  intro ts xs rest hs hr
  unfold listOf at hr
  split at hr
  · exact yields_items h _ xs rest hs.tail hr
  · cases hr

/-- A field keeps what a record has. -/
theorem yields_field {name : String} {r : Reader α} {set : σ → α → σ} {presence : Presence}
    (h : Yields (r depth) P) {s : σ} (hset : ∀ x, P x → I (set s x)) :
    Yields ((RecordField.of name r set presence).read s depth) I := by
  intro ts t rest hs hr
  obtain ⟨⟨x, us⟩, hx, he⟩ := map_eq_ok_iff.mp hr
  cases he
  obtain ⟨hp, hus⟩ := h ts x rest hs hx
  exact ⟨hset x hp, hus⟩

/-- An entry of a record keeps what every field keeps, and so does one that is passed over. -/
theorem yields_recordEntry {fs : List (RecordField σ)}
    (h : ∀ f ∈ fs, ∀ s, I s → Yields (f.read s depth) I) (state : σ × List Nat) (k : String)
    (hi : I state.1) : Yields (recordEntry fs depth state k) fun state => I state.1 := by
  intro ts t rest hs hr
  unfold recordEntry at hr
  split at hr
  · obtain ⟨us, hcolon, hr⟩ := bind_eq_ok_iff.mp hr
    obtain ⟨vs, hskip, hr⟩ := bind_eq_ok_iff.mp hr
    cases hr
    exact ⟨hi, skip_sound (colon_sound hs hcolon) hskip⟩
  · split at hr
    · cases hr
    · split at hr
      · cases hr
      · next f hf =>
        obtain ⟨us, hcolon, hr⟩ := bind_eq_ok_iff.mp hr
        obtain ⟨⟨t, vs⟩, hread, hr⟩ := bind_eq_ok_iff.mp hr
        cases hr
        exact h f (List.mem_of_getElem? hf) state.1 hi us t rest (colon_sound hs hcolon) hread

/-- A record that is written as a list keeps what every field keeps. -/
theorem yields_recordItems {fs : List (RecordField σ)}
    (h : ∀ f ∈ fs, ∀ s, I s → Yields (f.read s depth) I) (first : Bool) {s : σ} (hi : I s) :
    Yields (recordItems depth fs first s) I := by
  induction fs generalizing first s with
  | nil =>
    intro ts t rest hs hr
    cases hr
    exact ⟨hi, hs⟩
  | cons f fs ih =>
    have hothers := fun first {s} => ih (fun g hg => h g (List.mem_cons_of_mem _ hg)) first (s := s)
    intro ts t rest hs hr
    rw [recordItems] at hr
    obtain ⟨next, hnext, hr⟩ := bind_eq_ok_iff.mp hr
    cases next with
    | none =>
      dsimp only at hr
      split at hr
      · exact hothers first hi ts t rest hs hr
      · cases hr
    | some us =>
      obtain ⟨⟨u, vs⟩, hu, hr⟩ := bind_eq_ok_iff.mp hr
      obtain ⟨hiu, hvs⟩ := h f List.mem_cons_self s hi us u vs (nextItem_sound hs hnext) hu
      exact hothers false hiu vs t rest hvs hr

/-- **What every field keeps, a record has**, in whichever of the two ways it is written. -/
theorem yields_record {fs : List (RecordField σ)} {start : σ} (hi : I start)
    (h : ∀ f ∈ fs, ∀ s, I s → Yields (f.read s depth) I) :
    Yields (record fs start (depth + 1)) I := by
  intro ts t rest hs hr
  unfold record at hr
  split at hr
  · obtain ⟨⟨u, us⟩, hu, hr⟩ := bind_eq_ok_iff.mp hr
    obtain ⟨vs, hend, hr⟩ := bind_eq_ok_iff.mp hr
    cases hr
    obtain ⟨hiu, hus⟩ := yields_recordItems h true hi _ t us hs.tail hu
    exact ⟨hiu, endOfList_sound hus hend⟩
  · obtain ⟨⟨⟨u, seen⟩, us⟩, hu, hr⟩ := bind_eq_ok_iff.mp hr
    -- which fields have been seen does not matter
    obtain ⟨hiu, hus⟩ := yields_entries (I := fun state : σ × List Nat => I state.1)
      (yields_recordEntry h) (s := (start, [])) hi _ (u, seen) us hs.tail hu
    dsimp only at hr
    split at hr
    · obtain ⟨vs, hend, hr⟩ := bind_eq_ok_iff.mp hr
      cases hr
      exact ⟨hiu, endOfObject_sound hus hend⟩
    · cases hr
  · cases hr

end

/-- What is read from a text has what its reader gives. -/
theorem read_yields {α : Type} {r : Reader α} {P : α → Prop} (h : Yields (r nesting) P)
    {text : List Char} {x : α} (hr : read r text = .ok x) : P x := by
  obtain ⟨⟨y, rest⟩, hy, hr⟩ := bind_eq_ok_iff.mp hr
  have hp := (h _ y rest (sound_tokens text) hy).1
  dsimp only at hr
  split at hr <;> cases hr
  exact hp

end VirtualPrinter.Json
