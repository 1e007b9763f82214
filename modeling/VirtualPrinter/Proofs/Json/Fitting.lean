import VirtualPrinter.Json.Reader
import VirtualPrinter.Proofs.Json.Numerals

/-!
# Values read from their tokens

A value that keeps within an allowance of nesting, whose objects have their keys in order, is read
from its tokens as itself.  The order matters, since an object that is read is put in order, and so
does the range of its integers, since no other integers are read from a text.

## Main definitions

* `Value.Fits`: the value keeps within an allowance.
* `Json.Reads`: a reader takes a value from the front, whatever follows.
* `Json.Entered`: what entries leave behind, one after the other.

## Main results

* `insert_order`, `ofList_eq_self`: fields in order stay in order.
* `Value.Fits.sorted_eq`: a value that fits is in order.
* `items_tokens`, `entries_tokens`: lists and objects are read part by part.
* `Value.Fits.reads`: a value that fits is read from its tokens.
* `Value.Fits.shrink`: no value needs more allowance than it has tokens.
-/

namespace VirtualPrinter.Json

/-! ### Fields in order -/

namespace Fields

/-- The keys are in order, and none occurs twice. -/
abbrev InOrder (fields : Fields) : Prop := fields.Pairwise (·.1 < ·.1)

variable {k : String} {v : Value} {fields : Fields}

theorem mem_insert {p : String × Value} (h : p ∈ insert k v fields) : p = (k, v) ∨ p ∈ fields := by
  induction fields with
  | nil => exact .inl (List.mem_singleton.mp h)
  | cons q rest ih =>
    rw [insert] at h
    split at h
    · exact List.mem_cons.mp h
    · split at h
      · rcases List.mem_cons.mp h with rfl | h
        · exact .inl rfl
        · exact .inr (List.mem_cons_of_mem _ h)
      · rcases List.mem_cons.mp h with rfl | h
        · exact .inr List.mem_cons_self
        · exact (ih h).imp_right (List.mem_cons_of_mem _)

/-- A field is put where its key belongs. -/
theorem insert_order (h : fields.InOrder) : (insert k v fields).InOrder := by
  induction fields with
  | nil => exact List.pairwise_singleton _ _
  | cons q rest ih =>
    obtain ⟨hq, hrest⟩ := List.pairwise_cons.mp h
    rw [insert]
    split
    · next hk =>
      refine List.pairwise_cons.mpr ⟨fun p hp => ?_, h⟩
      rcases List.mem_cons.mp hp with rfl | hp
      · exact hk
      · exact String.lt_trans hk (hq p hp)
    · next hk =>
      split
      · next he =>
        obtain rfl := beq_iff_eq.mp he
        exact List.pairwise_cons.mpr ⟨hq, hrest⟩
      · next hne =>
        -- neither before the first key nor the first key itself
        have hlt : q.1 < k := by
          apply Decidable.of_not_not
          intro hn
          exact hne (beq_iff_eq.mpr (String.le_antisymm (String.not_lt.mp hn) (String.not_lt.mp hk)))
        refine List.pairwise_cons.mpr ⟨fun p hp => ?_, ih hrest⟩
        rcases mem_insert hp with rfl | hp
        · exact hlt
        · exact hq p hp

/-- A field whose key comes last is put behind the others. -/
theorem insert_last (h : ∀ p ∈ fields, p.1 < k) : insert k v fields = fields ++ [(k, v)] := by
  induction fields with
  | nil => rfl
  | cons q rest ih =>
    have hq : q.1 < k := h q List.mem_cons_self
    have hne : (k == q.1) = false := by
      apply beq_false_of_ne
      rintro rfl
      exact String.lt_irrefl _ hq
    rw [insert, if_neg (String.lt_asymm hq), hne, if_neg Bool.false_ne_true,
      ih fun p hp => h p (List.mem_cons_of_mem _ hp), List.cons_append]

/-- Fields that are folded into others. -/
theorem foldl_order {pairs acc : Fields} (h : acc.InOrder) :
    (pairs.foldl (fun fields p => insert p.1 p.2 fields) acc).InOrder ∧
      ∀ p ∈ pairs.foldl (fun fields p => insert p.1 p.2 fields) acc, p ∈ acc ∨ p ∈ pairs := by
  induction pairs generalizing acc with
  | nil => exact ⟨h, fun p hp => .inl hp⟩
  | cons q pairs ih =>
    obtain ⟨horder, hmem⟩ := ih (insert_order (k := q.1) (v := q.2) h)
    refine ⟨horder, fun p hp => ?_⟩
    rcases hmem p hp with hp | hp
    · rcases mem_insert hp with rfl | hp
      · exact .inr List.mem_cons_self
      · exact .inl hp
    · exact .inr (List.mem_cons_of_mem _ hp)

theorem ofList_order (pairs : Fields) : (ofList pairs).InOrder :=
  (foldl_order .nil).1

theorem mem_of_mem_ofList {pairs : Fields} {p : String × Value} (h : p ∈ ofList pairs) :
    p ∈ pairs :=
  ((foldl_order .nil).2 p h).resolve_left List.not_mem_nil

/-- Fields that are in order stay as they are. -/
theorem ofList_eq_self (h : fields.InOrder) : ofList fields = fields := by
  -- every field comes behind those that have been inserted before it
  suffices hfold : ∀ acc : Fields, (acc ++ fields).InOrder →
      fields.foldl (fun fields p => insert p.1 p.2 fields) acc = acc ++ fields from hfold [] h
  clear h
  induction fields with
  | nil => intro acc _; exact (List.append_nil acc).symm
  | cons q rest ih =>
    intro acc hacc
    have hlast : ∀ p ∈ acc, p.1 < q.1 := fun p hp =>
      (List.pairwise_append.mp hacc).2.2 p hp q List.mem_cons_self
    rw [List.foldl_cons, insert_last hlast, ih, List.append_assoc, List.singleton_append]
    rw [List.append_assoc, List.singleton_append]
    exact hacc

end Fields

/-! ### Values within an allowance -/

namespace Value

/-- A value that keeps within an allowance of nesting: its integers are in range, and the keys of
its objects in order. -/
inductive Fits : Nat → Value → Prop
  | null {depth : Nat} : Fits depth .null
  | bool {depth : Nat} (b : Bool) : Fits depth (.bool b)
  | number {depth : Nat} {n : Number} (h : n.InRange) : Fits depth (.number n)
  | text {depth : Nat} (s : String) : Fits depth (.text s)
  | list {depth : Nat} {items : List Value} (h : ∀ v ∈ items, Fits depth v) :
    Fits (depth + 1) (.list items)
  | object {depth : Nat} {fields : Fields} (order : fields.InOrder)
    (h : ∀ p ∈ fields, Fits depth p.2) : Fits (depth + 1) (.object fields)

theorem Fits.mono {depth deep : Nat} {v : Value} (h : v.Fits depth) (hd : depth ≤ deep) :
    v.Fits deep := by
  induction h generalizing deep with
  | null => exact .null
  | bool b => exact .bool b
  | number h => exact .number h
  | text s => exact .text s
  | list _ ih =>
    obtain ⟨deep, rfl⟩ := Nat.exists_eq_add_of_lt hd
    exact .list fun v hv => ih v hv (by omega)
  | object order _ ih =>
    obtain ⟨deep, rfl⟩ := Nat.exists_eq_add_of_lt hd
    exact .object order fun p hp => ih p hp (by omega)

theorem sortedItems_eq_self {items : List Value} (h : ∀ v ∈ items, v.sorted = v) :
    sortedItems items = items := by
  induction items with
  | nil => rfl
  | cons v rest ih =>
    rw [sortedItems, h v List.mem_cons_self, ih fun w hw => h w (List.mem_cons_of_mem _ hw)]

theorem sortedFields_eq_self {fields : Fields} (h : ∀ p ∈ fields, p.2.sorted = p.2) :
    sortedFields fields = fields := by
  induction fields with
  | nil => rfl
  | cons p rest ih =>
    rw [sortedFields, h p List.mem_cons_self, ih fun q hq => h q (List.mem_cons_of_mem _ hq)]

/-- A value that fits is in order. -/
theorem Fits.sorted_eq {depth : Nat} {v : Value} (h : v.Fits depth) : v.sorted = v := by
  induction h with
  | null | bool | number | text => rfl
  | list _ ih => rw [sorted, sortedItems_eq_self ih]
  | object order _ ih => rw [sorted, sortedFields_eq_self ih, Fields.ofList_eq_self order]

/-! ### The tokens of lists and objects -/

/-- The items behind the first, each with a comma in front. -/
theorem itemTokens_cons (v : Value) (rest : List Value) :
    itemTokens (v :: rest) = v.tokens ++ rest.flatMap fun w => .comma :: w.tokens := by
  induction rest generalizing v with
  | nil => rw [itemTokens, List.flatMap_nil, List.append_nil]
  | cons w rest ih => rw [itemTokens, ih, List.flatMap_cons, List.cons_append]

/-- The tokens of a field. -/
def entryTokens (p : String × Value) : List Token := .ofText p.1 :: .colon :: p.2.tokens

/-- The fields behind the first, each with a comma in front. -/
theorem fieldTokens_cons (p : String × Value) (rest : Fields) :
    fieldTokens (p :: rest) = entryTokens p ++ rest.flatMap fun q => .comma :: entryTokens q := by
  induction rest generalizing p with
  | nil => rw [fieldTokens, List.flatMap_nil, List.append_nil, entryTokens]
  | cons q rest ih =>
    obtain ⟨k, v⟩ := p
    rw [fieldTokens, ih, List.flatMap_cons]
    simp only [entryTokens, List.cons_append]

/-- No value begins with the end of a list. -/
theorem tokens_head (v : Value) :
    ∃ t ts, v.tokens = t :: ts ∧ t ≠ .closing .square := by
  cases v <;> exact ⟨_, _, rfl, nofun⟩

theorem tokens_list (items : List Value) (rest : List Token) :
    (list items).tokens ++ rest =
      .opening .square :: (itemTokens items ++ .closing .square :: rest) := by
  rw [tokens, List.cons_append, List.cons_append, List.append_assoc, List.singleton_append]

theorem tokens_object (fields : Fields) (rest : List Token) :
    (object fields).tokens ++ rest =
      .opening .curly :: (fieldTokens fields ++ .closing .curly :: rest) := by
  rw [tokens, List.cons_append, List.cons_append, List.append_assoc, List.singleton_append]

end Value

open Value (itemTokens fieldTokens entryTokens itemTokens_cons fieldTokens_cons tokens_list
  tokens_object)

/-! ### Lists -/

theorem nextItem_first {t : Token} (ht : t ≠ .closing .square) (ts : List Token) :
    nextItem true (t :: ts) = .ok (some (t :: ts)) := by
  unfold nextItem
  split <;> simp_all

theorem nextItem_comma {t : Token} (ht : t ≠ .closing .square) (ts : List Token) :
    nextItem false (.comma :: t :: ts) = .ok (some (t :: ts)) := by
  cases t with
  | closing b =>
    cases b with
    | square => exact absurd rfl ht
    | curly => rfl
  | opening | comma | colon | word | number | text | stray => rfl

variable {item : List Token → Except Fault (Value × List Token)} {rest : List Token}

/-- The items behind the first are read one by one. -/
theorem itemsWithin_more {vs : List Value}
    (h : ∀ v ∈ vs, ∀ rest, item (v.tokens ++ rest) = .ok (v, rest)) (limit : Nat)
    (hl : vs.length < limit) (rest : List Token) :
    itemsWithin item limit false
      (vs.flatMap (fun w => .comma :: w.tokens) ++ .closing .square :: rest) = .ok (vs, rest) := by
  induction vs generalizing limit with
  | nil =>
    obtain ⟨limit, rfl⟩ := Nat.exists_eq_add_of_lt hl
    rfl
  | cons v vs ih =>
    obtain ⟨limit, rfl⟩ := Nat.exists_eq_add_of_lt hl
    obtain ⟨t, ts, hv, ht⟩ := v.tokens_head
    have hitem := h v List.mem_cons_self
    have hmore := ih (fun w hw => h w (List.mem_cons_of_mem _ hw)) ((v :: vs).length + limit)
      (by simp only [List.length_cons]; omega)
    rw [List.flatMap_cons, List.append_assoc, List.cons_append, itemsWithin, hv, List.cons_append,
      nextItem_comma ht, ← List.cons_append, ← hv]
    simp only [bind, Except.bind, hitem, hmore]
    rfl

/-- Parts that begin with a comma each are no more than their tokens. -/
theorem length_le_commas {α : Type} (xs : List α) (ts : α → List Token) :
    xs.length ≤ (xs.flatMap fun x => Token.comma :: ts x).length := by
  induction xs with
  | nil => exact Nat.le_refl _
  | cons x xs ih =>
    rw [List.flatMap_cons, List.length_append, List.length_cons, List.length_cons]
    omega

/-- **A list is read item by item.** -/
theorem items_tokens {vs : List Value}
    (h : ∀ v ∈ vs, ∀ rest, item (v.tokens ++ rest) = .ok (v, rest)) (rest : List Token) :
    items item (itemTokens vs ++ .closing .square :: rest) = .ok (vs, rest) := by
  cases vs with
  | nil => rfl
  | cons v vs =>
    obtain ⟨t, ts, hv, ht⟩ := v.tokens_head
    have hitem := h v List.mem_cons_self
    -- a further item has a comma of its own, so the number of tokens is limit enough
    have hmore := itemsWithin_more (fun w hw => h w (List.mem_cons_of_mem _ hw))
      (itemTokens (v :: vs) ++ .closing .square :: rest).length (by
        have := length_le_commas vs Value.tokens
        simp only [itemTokens_cons, List.length_append, List.length_cons]
        omega) rest
    rw [items, itemsWithin]
    -- the tokens are opened now, and the limit is not to change with them
    generalize (itemTokens (v :: vs) ++ .closing .square :: rest).length = limit at hmore ⊢
    rw [itemTokens_cons, List.append_assoc, hv, List.cons_append, nextItem_first ht,
      ← List.cons_append, ← hv]
    simp only [bind, Except.bind, hitem, hmore]
    rfl

/-! ### Objects -/

/-- What entries leave behind, one after the other, from what they find. -/
inductive Entered {σ : Type} (entry : σ → String → List Token → Except Fault (σ × List Token)) :
    σ → Fields → σ → Prop
  | nil (s : σ) : Entered entry s [] s
  | cons {s t u : σ} {k : String} {v : Value} {fields : Fields}
    (first : ∀ rest, entry s k (.colon :: v.tokens ++ rest) = .ok (t, rest))
    (others : Entered entry t fields u) : Entered entry s ((k, v) :: fields) u

section

variable {σ : Type} {entry : σ → String → List Token → Except Fault (σ × List Token)} {s t : σ}

/-- The entries behind the first are read one by one. -/
theorem entriesWithin_more {fields : Fields} (h : Entered entry s fields t) (limit : Nat)
    (hl : fields.length < limit) (rest : List Token) :
    entriesWithin entry limit false s
      (fields.flatMap (fun p => .comma :: entryTokens p) ++ .closing .curly :: rest) =
        .ok (t, .closing .curly :: rest) := by
  induction h generalizing limit with
  | nil s =>
    obtain ⟨limit, rfl⟩ := Nat.exists_eq_add_of_lt hl
    rfl
  | @cons s t u k v fields first _ ih =>
    obtain ⟨limit, rfl⟩ := Nat.exists_eq_add_of_lt hl
    have hmore := ih (((k, v) :: fields).length + limit) (by simp only [List.length_cons]; omega)
    rw [List.flatMap_cons, List.append_assoc, List.cons_append, entriesWithin]
    simp only [entryTokens, Token.ofText, List.cons_append, nextKey, key, Except.map, bind,
      Except.bind, Bool.false_eq_true, if_false]
    rw [← List.cons_append, first]
    exact hmore

/-- **An object is read entry by entry**, up to its end. -/
theorem entries_tokens {fields : Fields} (h : Entered entry s fields t) (rest : List Token) :
    entries entry s (fieldTokens fields ++ .closing .curly :: rest) =
      .ok (t, .closing .curly :: rest) := by
  cases h with
  | nil s => rfl
  | @cons _ u _ k v fields first others =>
    have hmore := entriesWithin_more others
      (fieldTokens ((k, v) :: fields) ++ .closing .curly :: rest).length (by
        have := length_le_commas fields entryTokens
        simp only [fieldTokens_cons, List.length_append, List.length_cons]
        omega) rest
    rw [entries, entriesWithin]
    generalize (fieldTokens ((k, v) :: fields) ++ .closing .curly :: rest).length = limit at hmore ⊢
    rw [fieldTokens_cons, List.append_assoc]
    simp only [entryTokens, Token.ofText, List.cons_append, nextKey, key, Except.map, bind,
      Except.bind, if_true]
    rw [← List.cons_append, first]
    exact hmore

end

/-! ### Any value -/

/-- A reader takes a value from the front, whatever follows. -/
def Reads {α : Type} (r : Reader α) (depth : Nat) (ts : List Token) (x : α) : Prop :=
  ∀ rest, r depth (ts ++ rest) = .ok (x, rest)

/-- An entry of any object, put in front of those that have been read. -/
def valueEntry (depth : Nat) (pairs : Fields) (k : String) (ts : List Token) :
    Except Fault (Fields × List Token) := do
  let (v, ts) ← value depth (← colon ts)
  return ((k, v) :: pairs, ts)

/-- The entries of an object are put in order behind the last one. -/
theorem value_object (depth : Nat) (ts : List Token) :
    value (depth + 1) (.opening .curly :: ts) = (do
      let (pairs, rest) ← entries (valueEntry depth) [] ts
      return (.object (Fields.ofList pairs.reverse), ← endOfObject rest)) := by
  rw [value]
  rfl

/-- The entries of any object, in the order in which they are read. -/
theorem entered_value {depth : Nat} {fields : Fields}
    (h : ∀ p ∈ fields, Reads value depth p.2.tokens p.2) (pairs : Fields) :
    Entered (valueEntry depth) pairs fields (fields.reverse ++ pairs) := by
  induction fields generalizing pairs with
  | nil => exact .nil pairs
  | cons p fields ih =>
    obtain ⟨k, v⟩ := p
    have hv : Reads value depth v.tokens v := h (k, v) List.mem_cons_self
    rw [List.reverse_cons, List.append_assoc, List.singleton_append]
    refine .cons (fun rest => ?_) (ih (fun q hq => h q (List.mem_cons_of_mem _ hq)) _)
    simp only [valueEntry, List.cons_append, colon, bind, Except.bind, hv rest]
    rfl

/-- **A value that fits is read from its tokens.** -/
theorem Value.Fits.reads {depth : Nat} {v : Value} (h : v.Fits depth) :
    Reads value depth v.tokens v := by
  induction h with
  | null => intro rest; rw [tokens, List.singleton_append, value]; rfl
  | bool => intro rest; rw [tokens, List.singleton_append, value]; rfl
  | number => intro rest; rw [tokens, List.singleton_append, Token.ofNumber, value]; rfl
  | text => intro rest; rw [tokens, List.singleton_append, Token.ofText, value]; rfl
  | @list depth items _ ih =>
    intro rest
    rw [tokens_list, value, items_tokens ih]
    rfl
  | @object depth fields order _ ih =>
    intro rest
    rw [tokens_object, value_object, entries_tokens (entered_value ih [])]
    -- the last entry stands first, so they are turned round before they are put in order
    simp only [bind, Except.bind, List.append_nil, List.reverse_reverse, endOfObject,
      Fields.ofList_eq_self order]
    rfl

/-! ### Allowances -/

/-- Parts that begin with a comma each are together longer than every one of them. -/
theorem length_le_of_mem {α : Type} {xs : List α} {x : α} (h : x ∈ xs) (ts : α → List Token) :
    (ts x).length < (xs.flatMap fun x => Token.comma :: ts x).length := by
  have hsub := List.sublist_flatten_of_mem (List.mem_map_of_mem (f := fun x => Token.comma :: ts x) h)
  exact hsub.length_le

theorem length_tokens_le_items {items : List Value} {v : Value} (h : v ∈ items) :
    v.tokens.length ≤ (itemTokens items).length := by
  cases items with
  | nil => exact absurd h List.not_mem_nil
  | cons w items =>
    rw [itemTokens_cons, List.length_append]
    rcases List.mem_cons.mp h with rfl | h
    · omega
    · have := length_le_of_mem h Value.tokens
      omega

theorem length_tokens_le_fields {fields : Fields} {p : String × Value} (h : p ∈ fields) :
    p.2.tokens.length ≤ (fieldTokens fields).length := by
  have hentry (q : String × Value) : q.2.tokens.length ≤ (entryTokens q).length := by
    simp only [entryTokens, List.length_cons]
    omega
  have hp := hentry p
  cases fields with
  | nil => exact absurd h List.not_mem_nil
  | cons q fields =>
    rw [fieldTokens_cons, List.length_append]
    rcases List.mem_cons.mp h with rfl | h
    · omega
    · have := length_le_of_mem h entryTokens
      omega

/-- **No value needs more allowance than it has tokens**: every container has two brackets. -/
theorem Value.Fits.shrink {depth : Nat} {v : Value} (h : v.Fits depth) :
    v.Fits v.tokens.length := by
  induction h with
  | null => exact .null
  | bool b => exact .bool b
  | number h => exact .number h
  | text s => exact .text s
  | @list _ items _ ih =>
    have hlist : (Value.list items).Fits ((itemTokens items).length + 1) :=
      .list fun v hv => (ih v hv).mono (length_tokens_le_items hv)
    -- its two brackets pay for the one level
    refine hlist.mono ?_
    rw [tokens, List.length_append, List.length_cons]
    omega
  | @object _ fields order _ ih =>
    have hobject : (Value.object fields).Fits ((fieldTokens fields).length + 1) :=
      .object order fun p hp => (ih p hp).mono (length_tokens_le_fields hp)
    refine hobject.mono ?_
    rw [tokens, List.length_append, List.length_cons]
    omega

end VirtualPrinter.Json
