import VirtualPrinter.Proofs.Json.Fitting
import VirtualPrinter.Proofs.Outcome

/-!
# Documents as written

A text is a document if its tokens are those of a tree of values.  In the tree an object still has
its fields as written: in their order, with those that are repeated.  A number that no float holds
and a text with half a surrogate pair have their place in a document, though they have no value: they
may be passed over.

What the readers make of a document is said here on its tree, reader by reader.  Why something is
refused is left out, so each of these is an equation between two options.

## Main definitions

* `Json.Document`, with `Document.tokens` and `Document.Nests`.
* `Json.IsDocument`: a text is a document, and is not nested too deep.
* `Document.value?`: the value of a document, if all its parts have one.
* `Json.Takes`: what a reader makes of a document.

## Main results

* `skip_document`: every document can be passed over.
* `takes_value`: the value of a document is read from it.
* `takes_recordObject`, `takes_recordList`: a record is read field by field.
* `toOption_read`: what is read from a text that is a document.
-/

namespace VirtualPrinter.Json

open Outcome (toOption_ok toOption_error toOption_map toOption_bind)

/-- A document as written. -/
inductive Document where
  | null
  | bool (b : Bool)
  | number (n : Except Fault Number)
  | text (s : Except Fault String)
  | list (items : List Document)
  | object (fields : List (Except Fault String × Document))

namespace Document

mutual

/-- The tokens of a document. -/
def tokens : Document → List Token
  | .null => [.word (.ok .null)]
  | .bool b => [.word (.ok (.bool b))]
  | .number n => [.number ⟨n, .ok ()⟩]
  | .text s => [.text ⟨s, .ok ()⟩]
  | .list items => .opening .square :: itemTokens items ++ [.closing .square]
  | .object fields => .opening .curly :: fieldTokens fields ++ [.closing .curly]

/-- The tokens of items, with commas between them. -/
def itemTokens : List Document → List Token
  | [] => []
  | [d] => d.tokens
  | d :: e :: rest => d.tokens ++ .comma :: itemTokens (e :: rest)

/-- The tokens of fields, with commas between them. -/
def fieldTokens : List (Except Fault String × Document) → List Token
  | [] => []
  | [(k, d)] => .text ⟨k, .ok ()⟩ :: .colon :: d.tokens
  | (k, d) :: next :: rest =>
    .text ⟨k, .ok ()⟩ :: .colon :: d.tokens ++ .comma :: fieldTokens (next :: rest)

end

/-- Containers are nested so deep at most. -/
inductive Nests : Nat → Document → Prop
  | null {depth : Nat} : Nests depth .null
  | bool {depth : Nat} (b : Bool) : Nests depth (.bool b)
  | number {depth : Nat} (n : Except Fault Number) : Nests depth (.number n)
  | text {depth : Nat} (s : Except Fault String) : Nests depth (.text s)
  | list {depth : Nat} {items : List Document} (h : ∀ d ∈ items, Nests depth d) :
    Nests (depth + 1) (.list items)
  | object {depth : Nat} {fields : List (Except Fault String × Document)}
    (h : ∀ p ∈ fields, Nests depth p.2) : Nests (depth + 1) (.object fields)

mutual

/-- The value of a document, if all its parts have one. -/
def value? : Document → Option Value
  | .null => some .null
  | .bool b => some (.bool b)
  | .number n => n.toOption.map .number
  | .text s => s.toOption.map .text
  | .list items => (itemValues? items).map .list
  | .object fields => (fieldValues? fields).map fun fs => .object (Fields.ofList fs)

/-- The values of items. -/
def itemValues? : List Document → Option (List Value)
  | [] => some []
  | d :: rest => d.value?.bind fun v => (itemValues? rest).map (v :: ·)

/-- The values of fields, with their keys. -/
def fieldValues? : List (Except Fault String × Document) → Option Fields
  | [] => some []
  | (k, d) :: rest => k.toOption.bind fun k => d.value?.bind fun v =>
    (fieldValues? rest).map ((k, v) :: ·)

end

/-- The text of a document that is one. -/
def text? : Document → Option String
  | .text s => s.toOption
  | _ => none

/-- The text of a document that is one, or nothing for `null`. -/
def optionalText? : Document → Option (Option String)
  | .null => some none
  | d => d.text?.map some

/-! ### The shape of the tokens -/

/-- The items behind the first, each with a comma in front. -/
theorem itemTokens_cons (d : Document) (rest : List Document) :
    itemTokens (d :: rest) = d.tokens ++ rest.flatMap fun e => .comma :: e.tokens := by
  induction rest generalizing d with
  | nil => rw [itemTokens, List.flatMap_nil, List.append_nil]
  | cons e rest ih => rw [itemTokens, ih, List.flatMap_cons, List.cons_append]

/-- The tokens of a field. -/
def entryTokens (p : Except Fault String × Document) : List Token :=
  .text ⟨p.1, .ok ()⟩ :: .colon :: p.2.tokens

/-- The fields behind the first, each with a comma in front. -/
theorem fieldTokens_cons (p : Except Fault String × Document)
    (rest : List (Except Fault String × Document)) :
    fieldTokens (p :: rest) = entryTokens p ++ rest.flatMap fun q => .comma :: entryTokens q := by
  induction rest generalizing p with
  | nil => rw [fieldTokens, List.flatMap_nil, List.append_nil, entryTokens]
  | cons q rest ih =>
    obtain ⟨k, d⟩ := p
    rw [fieldTokens, ih, List.flatMap_cons]
    simp only [entryTokens, List.cons_append]

theorem tokens_list (items : List Document) (rest : List Token) :
    (list items).tokens ++ rest =
      .opening .square :: (itemTokens items ++ .closing .square :: rest) := by
  rw [tokens, List.cons_append, List.cons_append, List.append_assoc, List.singleton_append]

theorem tokens_object (fields : List (Except Fault String × Document)) (rest : List Token) :
    (object fields).tokens ++ rest =
      .opening .curly :: (fieldTokens fields ++ .closing .curly :: rest) := by
  rw [tokens, List.cons_append, List.cons_append, List.append_assoc, List.singleton_append]

/-- No document begins with the end of a list. -/
theorem tokens_head (d : Document) : ∃ t ts, d.tokens = t :: ts ∧ t ≠ .closing .square := by
  cases d <;> exact ⟨_, _, rfl, nofun⟩

end Document

open Document (Nests itemTokens fieldTokens entryTokens itemTokens_cons fieldTokens_cons tokens_list
  tokens_object)

/-- A text is a document that keeps within the allowance of nesting. -/
def IsDocument (text : List Char) (d : Document) : Prop :=
  tokens text = d.tokens ∧ d.Nests nesting

/-! ### Passing over -/

/-- What is left to pass over behind a value. -/
def skipBehind (enclosing : List Bracket) (rest : List Token) : Except Fault (List Token) :=
  if enclosing.isEmpty then .ok rest else skipFrom .commaOrEnd enclosing rest

/-- An item that begins a list is passed over like any other value. -/
theorem skipFrom_itemOrEnd {t : Token} (ht : t ≠ .closing .square) (outer : List Bracket)
    (rest : List Token) :
    skipFrom .itemOrEnd (.square :: outer) (t :: rest) =
      skipFrom .value (.square :: outer) (t :: rest) := by
  have hstep : skipStep .itemOrEnd (.square :: outer) t = skipStep .value (.square :: outer) t := by
    cases t with
    | closing b =>
      cases b with
      | square => exact absurd rfl ht
      | curly => rfl
    | opening | comma | colon | word | number | text | stray => rfl
  rw [skipFrom, skipFrom, hstep]

/-- The end of a container, and what is behind it. -/
theorem skipFrom_end (b : Bracket) (outer : List Bracket) (rest : List Token) :
    skipFrom .commaOrEnd (b :: outer) (.closing b :: rest) = skipBehind outer rest := by
  cases b <;> cases outer <;> rfl

theorem skipFrom_emptyEnd (b : Bracket) (outer : List Bracket) (rest : List Token) :
    skipFrom .itemOrEnd (b :: outer) (.closing b :: rest) = skipBehind outer rest := by
  cases b <;> cases outer <;> rfl

/-- The items behind the first are passed over one by one. -/
theorem skipFrom_more {items : List Document} {outer : List Bracket}
    (h : ∀ d ∈ items, ∀ rest, skipFrom .value (.square :: outer) (d.tokens ++ rest) =
      skipFrom .commaOrEnd (.square :: outer) rest) (rest : List Token) :
    skipFrom .commaOrEnd (.square :: outer)
      (items.flatMap (fun d => .comma :: d.tokens) ++ .closing .square :: rest) =
        skipBehind outer rest := by
  induction items with
  | nil => exact skipFrom_end .square outer rest
  | cons d items ih =>
    rw [List.flatMap_cons, List.append_assoc, List.cons_append, skipFrom]
    change skipFrom .value (.square :: outer) _ = _
    rw [h d List.mem_cons_self]
    exact ih fun e he => h e (List.mem_cons_of_mem _ he)

/-- The fields behind the first are passed over one by one. -/
theorem skipFrom_moreFields {fields : List (Except Fault String × Document)} {outer : List Bracket}
    (h : ∀ p ∈ fields, ∀ rest, skipFrom .value (.curly :: outer) (p.2.tokens ++ rest) =
      skipFrom .commaOrEnd (.curly :: outer) rest) (rest : List Token) :
    skipFrom .commaOrEnd (.curly :: outer)
      (fields.flatMap (fun p => .comma :: entryTokens p) ++ .closing .curly :: rest) =
        skipBehind outer rest := by
  induction fields with
  | nil => exact skipFrom_end .curly outer rest
  | cons p fields ih =>
    rw [List.flatMap_cons, List.append_assoc, List.cons_append, entryTokens]
    -- the comma, the key and the colon
    change skipFrom .value (.curly :: outer) (p.2.tokens ++ _) = _
    rw [h p List.mem_cons_self]
    exact ih fun q hq => h q (List.mem_cons_of_mem _ hq)

/-- A document is passed over within any containers. -/
theorem skipFrom_document {depth : Nat} {d : Document} (h : d.Nests depth)
    (enclosing : List Bracket) (rest : List Token) :
    skipFrom .value enclosing (d.tokens ++ rest) = skipBehind enclosing rest := by
  -- induction on the nesting: a container only adds a bracket to those that enclose it
  induction h generalizing enclosing rest with
  | null | bool | number | text => cases enclosing <;> rfl
  | @list _ items _ ih =>
    rw [tokens_list]
    change skipFrom .itemOrEnd (.square :: enclosing) _ = _
    have hitem : ∀ d ∈ items, ∀ rest, skipFrom .value (.square :: enclosing) (d.tokens ++ rest) =
        skipFrom .commaOrEnd (.square :: enclosing) rest := fun d hd rest => ih d hd _ rest
    cases items with
    | nil => exact skipFrom_emptyEnd .square enclosing rest
    | cons d items =>
      obtain ⟨t, ts, hd, ht⟩ := d.tokens_head
      rw [itemTokens_cons, List.append_assoc, hd, List.cons_append, skipFrom_itemOrEnd ht,
        ← List.cons_append, ← hd, hitem d List.mem_cons_self]
      exact skipFrom_more (fun e he => hitem e (List.mem_cons_of_mem _ he)) rest
  | @object _ fields _ ih =>
    rw [tokens_object]
    change skipFrom .itemOrEnd (.curly :: enclosing) _ = _
    have hitem : ∀ p ∈ fields, ∀ rest, skipFrom .value (.curly :: enclosing) (p.2.tokens ++ rest) =
        skipFrom .commaOrEnd (.curly :: enclosing) rest := fun p hp rest => ih p hp _ rest
    cases fields with
    | nil => exact skipFrom_emptyEnd .curly enclosing rest
    | cons p fields =>
      rw [fieldTokens_cons, List.append_assoc, entryTokens]
      -- the key and the colon
      change skipFrom .value (.curly :: enclosing) (p.2.tokens ++ _) = _
      rw [hitem p List.mem_cons_self]
      exact skipFrom_moreFields (fun q hq => hitem q (List.mem_cons_of_mem _ hq)) rest

/-- **Every document can be passed over.** -/
theorem skip_document {depth : Nat} {d : Document} (h : d.Nests depth) (rest : List Token) :
    skip (d.tokens ++ rest) = .ok rest :=
  skipFrom_document h [] rest

/-! ### Lists and objects -/

/-- What a reader makes of a document, whatever follows it. -/
def Takes {α : Type} (r : Reader α) (depth : Nat) (d : Document) (x : Option α) : Prop :=
  ∀ rest, (r depth (d.tokens ++ rest)).toOption = x.map (·, rest)

section

variable {α σ : Type}

/-- The items behind the first are read one by one. -/
theorem itemsWithin_documents {item : List Token → Except Fault (α × List Token)}
    {g : Document → Option α} {items : List Document}
    (h : ∀ d ∈ items, ∀ rest, (item (d.tokens ++ rest)).toOption = (g d).map (·, rest))
    (limit : Nat) (hl : items.length < limit) (rest : List Token) :
    (itemsWithin item limit false
      (items.flatMap (fun d => .comma :: d.tokens) ++ .closing .square :: rest)).toOption =
        (items.mapM g).map (·, rest) := by
  -- every item takes one off the limit
  induction items generalizing limit with
  | nil =>
    obtain ⟨limit, rfl⟩ := Nat.exists_eq_add_of_lt hl
    rfl
  | cons d items ih =>
    obtain ⟨limit, rfl⟩ := Nat.exists_eq_add_of_lt hl
    obtain ⟨t, ts, hd, ht⟩ := d.tokens_head
    have hitem := h d List.mem_cons_self
    have hmore := ih (fun e he => h e (List.mem_cons_of_mem _ he)) ((d :: items).length + limit)
      (by simp only [List.length_cons]; omega)
    rw [List.flatMap_cons, List.append_assoc, List.cons_append, itemsWithin, hd, List.cons_append,
      nextItem_comma ht, ← List.cons_append, ← hd, List.mapM_cons]
    simp only [toOption_bind, toOption_ok, Option.bind_some, hitem]
    cases g d with
    | none => rfl
    | some x =>
      simp only [Option.map_some, Option.bind_some, hmore]
      cases items.mapM g <;> rfl

/-- **A list is read item by item.** -/
theorem items_documents {item : List Token → Except Fault (α × List Token)}
    {g : Document → Option α} {items : List Document}
    (h : ∀ d ∈ items, ∀ rest, (item (d.tokens ++ rest)).toOption = (g d).map (·, rest))
    (rest : List Token) :
    (Json.items item (itemTokens items ++ .closing .square :: rest)).toOption =
      (items.mapM g).map (·, rest) := by
  cases items with
  | nil => rfl
  | cons d items =>
    obtain ⟨t, ts, hd, ht⟩ := d.tokens_head
    have hitem := h d List.mem_cons_self
    have hmore := itemsWithin_documents (fun e he => h e (List.mem_cons_of_mem _ he))
      (itemTokens (d :: items) ++ .closing .square :: rest).length (by
        have := length_le_commas items Document.tokens
        simp only [itemTokens_cons, List.length_append, List.length_cons]
        omega) rest
    rw [Json.items, itemsWithin]
    -- the tokens are opened now, and the limit is not to change with them
    generalize (itemTokens (d :: items) ++ .closing .square :: rest).length = limit at hmore ⊢
    rw [itemTokens_cons, List.append_assoc, hd, List.cons_append, nextItem_first ht,
      ← List.cons_append, ← hd, List.mapM_cons]
    simp only [toOption_bind, toOption_ok, Option.bind_some, hitem]
    cases g d with
    | none => rfl
    | some x =>
      simp only [Option.map_some, Option.bind_some, hmore]
      cases items.mapM g <;> rfl

/-- What an object makes of a state, entry by entry. -/
def foldEntries (step : σ → String → Document → Option σ) :
    σ → List (Except Fault String × Document) → Option σ
  | s, [] => some s
  | s, (k, d) :: rest => k.toOption.bind fun k => (step s k d).bind fun s => foldEntries step s rest

variable {entry : σ → String → List Token → Except Fault (σ × List Token)}
  {step : σ → String → Document → Option σ} {fields : List (Except Fault String × Document)}

theorem toOption_key (k : Except Fault String) (ts : List Token) :
    (key (.text ⟨k, .ok ()⟩ :: ts)).toOption = k.toOption.map (·, ts) :=
  toOption_map k _

/-- The entries behind the first are read one by one. -/
theorem entriesWithin_documents
    (h : ∀ p ∈ fields, ∀ s k rest, (entry s k (.colon :: p.2.tokens ++ rest)).toOption =
      (step s k p.2).map (·, rest))
    (s : σ) (limit : Nat) (hl : fields.length < limit) (rest : List Token) :
    (entriesWithin entry limit false s
      (fields.flatMap (fun p => .comma :: entryTokens p) ++ .closing .curly :: rest)).toOption =
        (foldEntries step s fields).map (·, .closing .curly :: rest) := by
  -- every entry takes one off the limit, and may change what the others are folded into
  induction fields generalizing s limit with
  | nil =>
    obtain ⟨limit, rfl⟩ := Nat.exists_eq_add_of_lt hl
    rfl
  | cons p fields ih =>
    obtain ⟨limit, rfl⟩ := Nat.exists_eq_add_of_lt hl
    obtain ⟨k, d⟩ := p
    have hfirst := h (k, d) List.mem_cons_self
    have hmore := fun s => ih (fun q hq => h q (List.mem_cons_of_mem _ hq)) s
      (((k, d) :: fields).length + limit) (by simp only [List.length_cons]; omega)
    rw [List.flatMap_cons, List.append_assoc, List.cons_append, entriesWithin, foldEntries]
    simp only [entryTokens, List.cons_append, nextKey, toOption_bind, toOption_map, toOption_key,
      Bool.false_eq_true, if_false]
    cases k with
    | error fault => rfl
    | ok k =>
      simp only [toOption_ok, Option.map_some, Option.bind_some, toOption_bind,
        ← List.cons_append, hfirst]
      cases step s k d with
      | none => rfl
      | some s => exact hmore s

/-- **An object is read entry by entry**, up to its end. -/
theorem entries_documents (step : σ → String → Document → Option σ)
    (h : ∀ p ∈ fields, ∀ s k rest, (entry s k (.colon :: p.2.tokens ++ rest)).toOption =
      (step s k p.2).map (·, rest))
    (s : σ) (rest : List Token) :
    (entries entry s (fieldTokens fields ++ .closing .curly :: rest)).toOption =
      (foldEntries step s fields).map (·, .closing .curly :: rest) := by
  cases fields with
  | nil => rfl
  | cons p fields =>
    have hfirst := h p List.mem_cons_self
    have hmore := fun s => entriesWithin_documents (fun q hq => h q (List.mem_cons_of_mem _ hq)) s
      (fieldTokens (p :: fields) ++ .closing .curly :: rest).length (by
        have := length_le_commas fields entryTokens
        simp only [fieldTokens_cons, List.length_append, List.length_cons]
        omega) rest
    rw [entries, entriesWithin]
    generalize (fieldTokens (p :: fields) ++ .closing .curly :: rest).length = limit at hmore ⊢
    obtain ⟨k, d⟩ := p
    rw [fieldTokens_cons, List.append_assoc, foldEntries]
    simp only [entryTokens, List.cons_append, nextKey, toOption_bind, toOption_map, toOption_key,
      if_true]
    cases k with
    | error fault => rfl
    | ok k =>
      simp only [toOption_ok, Option.map_some, Option.bind_some, toOption_bind,
        ← List.cons_append, hfirst]
      cases step s k d with
      | none => rfl
      | some s => exact hmore s

end

/-! ### Any value -/

theorem itemValues?_eq_mapM (items : List Document) :
    Document.itemValues? items = items.mapM Document.value? := by
  induction items with
  | nil => rfl
  | cons d items ih =>
    rw [Document.itemValues?, List.mapM_cons, ih]
    cases d.value? <;> cases items.mapM Document.value? <;> rfl

/-- The entries of any object are collected from behind. -/
theorem foldEntries_value (pairs : Fields) (fields : List (Except Fault String × Document)) :
    foldEntries (fun pairs k d => d.value?.map fun v => (k, v) :: pairs) pairs fields =
      (Document.fieldValues? fields).map (·.reverse ++ pairs) := by
  induction fields generalizing pairs with
  | nil => rfl
  | cons p fields ih =>
    obtain ⟨k, d⟩ := p
    rw [foldEntries, Document.fieldValues?]
    cases k with
    | error fault => rfl
    | ok k =>
      cases d.value? with
      | none => rfl
      | some v =>
        simp only [toOption_ok, Option.bind_some, Option.map_some, ih]
        cases Document.fieldValues? fields <;> simp

/-- **The value of a document is read from it.** -/
theorem takes_value {depth : Nat} {d : Document} (h : d.Nests depth) :
    Takes value depth d d.value? := by
  induction h with
  | null | bool =>
    intro rest
    rw [Document.tokens, List.singleton_append, value]
    rfl
  | number n | text n =>
    intro rest
    rw [Document.tokens, List.singleton_append, value]
    cases n <;> rfl
  | @list depth items _ ih =>
    intro rest
    rw [tokens_list, value, toOption_map, items_documents ih, Document.value?, itemValues?_eq_mapM]
    cases items.mapM Document.value? <;> rfl
  | @object depth fields _ ih =>
    intro rest
    -- each entry is put in front of those that have been read
    let step (pairs : Fields) (k : String) (d : Document) : Option Fields :=
      d.value?.map fun v => (k, v) :: pairs
    have hentry : ∀ p ∈ fields, ∀ (pairs : Fields) k rest,
        (valueEntry depth pairs k (.colon :: p.2.tokens ++ rest)).toOption =
          (step pairs k p.2).map (·, rest) := by
      intro p hp pairs k rest
      simp only [valueEntry, List.cons_append, colon, toOption_bind, toOption_ok, Option.bind_some,
        ih p hp rest, step]
      cases p.2.value? <;> rfl
    rw [tokens_object, value_object, toOption_bind, entries_documents step hentry, foldEntries_value,
      Document.value?]
    cases Document.fieldValues? fields with
    | none => rfl
    | some fs =>
      simp only [Option.map_some, Option.bind_some, toOption_bind, endOfObject, List.append_nil,
        List.reverse_reverse]
      rfl

/-! ### Texts -/

theorem takes_text (depth : Nat) (d : Document) : Takes text depth d d.text? := by
  intro rest
  cases d with
  | text s => cases s <;> rfl
  | number n => cases n <;> rfl
  | null | bool | list | object => rfl

theorem takes_optionalText (depth : Nat) (d : Document) :
    Takes (nullable text) depth d d.optionalText? := by
  intro rest
  cases d with
  | null => rfl
  | text s => cases s <;> rfl
  | number n => cases n <;> rfl
  | bool | list | object => rfl

/-! ### Records -/

section

variable {σ : Type} {depth : Nat}

/-- A field of a record, with what it makes of a document. -/
abbrev TakenField (σ : Type) := RecordField σ × (σ → Document → Option σ)

/-- A field of any type, with what its reader makes of a document. -/
def TakenField.of {α : Type} (name : String) (r : Reader α) (set : σ → α → σ) (presence : Presence)
    (get : Document → Option α) : TakenField σ :=
  (.of name r set presence, fun s d => (get d).map (set s))

theorem TakenField.of_takes {α : Type} {name : String} {r : Reader α} {set : σ → α → σ}
    {presence : Presence} {get : Document → Option α} {d : Document} (h : Takes r depth d (get d))
    (s : σ) :
    Takes ((TakenField.of name r set presence get).1.read s) depth d
      ((TakenField.of name r set presence get).2 s d) := by
  intro rest
  change ((r depth (d.tokens ++ rest)).map _).toOption = ((get d).map (set s)).map _
  rw [toOption_map, h rest]
  cases get d <;> rfl

/-- What is said of the fields is what their readers do. -/
def TakenFields (depth : Nat) (fs : List (TakenField σ)) : Prop :=
  ∀ f ∈ fs, ∀ s d, d.Nests depth → Takes (f.1.read s) depth d (f.2 s d)

/-- What an entry makes of a record under construction: a known field is taken once, anything else
is passed over. -/
def recordStep (fs : List (TakenField σ)) (state : σ × List Nat) (k : String) (d : Document) :
    Option (σ × List Nat) :=
  match fs.findIdx? (fun f => f.1.names.contains k) with
  | none => some state
  | some i =>
    if state.2.contains i then none
    else (fs[i]?).bind fun f => (f.2 state.1 d).map (·, i :: state.2)

/-- What a list makes of a record: those fields may be missing at the end that have a default. -/
def takeItems : List (TakenField σ) → σ → List Document → Option σ
  | [], s, [] => some s
  | [], _, _ :: _ => none
  | f :: fs, s, [] => if f.1.presence = .defaulted then takeItems fs s [] else none
  | f :: fs, s, d :: ds => (f.2 s d).bind fun s => takeItems fs s ds

variable {fs : List (TakenField σ)}

theorem recordEntry_document (hf : TakenFields depth fs) {d : Document} (hd : d.Nests depth)
    (state : σ × List Nat) (k : String) (rest : List Token) :
    (recordEntry (fs.map (·.1)) depth state k (.colon :: d.tokens ++ rest)).toOption =
      (recordStep fs state k d).map (·, rest) := by
  unfold recordEntry recordStep
  rw [List.findIdx?_map, show (fun f : TakenField σ => f.1.names.contains k) =
    (fun f : RecordField σ => f.names.contains k) ∘ (·.1) from rfl]
  cases hi : fs.findIdx? ((fun f : RecordField σ => f.names.contains k) ∘ (·.1)) with
  | none =>
    simp only [List.cons_append, colon, toOption_bind, toOption_ok, Option.bind_some,
      skip_document hd]
    rfl
  | some i =>
    dsimp only
    split
    · rfl
    · rw [List.getElem?_map]
      cases hfi : fs[i]? with
      | none => rfl
      | some f =>
        have htake := hf f (List.mem_of_getElem? hfi) state.1 d hd rest
        simp only [Option.map_some, Option.bind_some, List.cons_append, colon, toOption_bind,
          toOption_ok, htake]
        cases f.2 state.1 d <;> rfl

/-- **A record that is written as an object** takes its fields in any order. -/
theorem takes_recordObject (hf : TakenFields depth fs)
    {fields : List (Except Fault String × Document)} (hn : ∀ p ∈ fields, p.2.Nests depth) (start : σ) :
    Takes (record (fs.map (·.1)) start) (depth + 1) (.object fields)
      ((foldEntries (recordStep fs) (start, []) fields).bind fun (s, seen) =>
        if (fs.map (·.1)).zipIdx.all fun (f, i) => f.presence ≠ .required || seen.contains i
        then some s else none) := by
  intro rest
  rw [tokens_object, record, deeper, toOption_bind,
    entries_documents (recordStep fs) (fun p hp s k rest => recordEntry_document hf (hn p hp) s k rest)]
  cases foldEntries (recordStep fs) (start, []) fields with
  | none => rfl
  | some state =>
    obtain ⟨s, seen⟩ := state
    simp only [Option.map_some, Option.bind_some]
    split <;> rfl

/-- What is left of a record at the end of a list. -/
def closeList (r : σ × List Token) : Option (σ × List Token) :=
  (endOfList r.2).toOption.map (r.1, ·)

/-- The fields behind the first of a list are taken one by one. -/
theorem recordItems_more (hf : TakenFields depth fs) (s : σ) {items : List Document}
    (hn : ∀ d ∈ items, d.Nests depth) (rest : List Token) :
    (recordItems depth (fs.map (·.1)) false s
      (items.flatMap (fun d => .comma :: d.tokens) ++ .closing .square :: rest)).toOption.bind
        closeList = (takeItems fs s items).map (·, rest) := by
  -- the reader goes along the fields, and the items may run out before them
  induction fs generalizing s items with
  | nil => cases items <;> rfl
  | cons f fs ih =>
    have hothers : TakenFields depth fs := fun g hg => hf g (List.mem_cons_of_mem _ hg)
    cases items with
    | nil =>
      have hnext : nextItem false (([] : List Document).flatMap (fun d => .comma :: d.tokens) ++
          .closing .square :: rest) = .ok none := rfl
      simp only [List.map_cons, recordItems, takeItems, hnext, toOption_bind, toOption_ok,
        Option.bind_some]
      split
      · exact ih hothers s hn
      · rfl
    | cons d items =>
      obtain ⟨t, ts, hd, ht⟩ := d.tokens_head
      have hmore := fun s => ih hothers s fun e he => hn e (List.mem_cons_of_mem _ he)
      rw [List.map_cons, recordItems, takeItems, List.flatMap_cons, List.append_assoc,
        List.cons_append, hd, List.cons_append, nextItem_comma ht, ← List.cons_append, ← hd]
      simp only [toOption_bind, toOption_ok, Option.bind_some,
        hf f List.mem_cons_self s d (hn d List.mem_cons_self) _]
      cases f.2 s d with
      | none => rfl
      | some s => exact hmore s

/-- All fields of a list are taken one by one. -/
theorem recordItems_documents (hf : TakenFields depth fs) (s : σ) {items : List Document}
    (hn : ∀ d ∈ items, d.Nests depth) (rest : List Token) :
    (recordItems depth (fs.map (·.1)) true s
      (itemTokens items ++ .closing .square :: rest)).toOption.bind closeList =
        (takeItems fs s items).map (·, rest) := by
  induction fs generalizing s with
  | nil =>
    cases items with
    | nil => rfl
    | cons d items =>
      -- no field is left, and the list does not end
      obtain ⟨t, ts, hd, ht⟩ := d.tokens_head
      rw [itemTokens_cons, hd, takeItems]
      simp only [List.map_nil, recordItems, toOption_ok, Option.bind_some, closeList,
        List.cons_append]
      cases t with
      | closing b =>
        cases b with
        | square => exact absurd rfl ht
        | curly => rfl
      | opening | comma | colon | word | number | text | stray => rfl
  | cons f fs ih =>
    have hothers : TakenFields depth fs := fun g hg => hf g (List.mem_cons_of_mem _ hg)
    cases items with
    | nil =>
      have hnext : nextItem true (itemTokens [] ++ .closing .square :: rest) = .ok none := rfl
      simp only [List.map_cons, recordItems, takeItems, hnext, toOption_bind, toOption_ok,
        Option.bind_some]
      split
      · exact ih hothers s
      · rfl
    | cons d items =>
      obtain ⟨t, ts, hd, ht⟩ := d.tokens_head
      rw [List.map_cons, recordItems, takeItems, itemTokens_cons, List.append_assoc, hd,
        List.cons_append, nextItem_first ht, ← List.cons_append, ← hd]
      simp only [toOption_bind, toOption_ok, Option.bind_some,
        hf f List.mem_cons_self s d (hn d List.mem_cons_self) _]
      cases f.2 s d with
      | none => rfl
      | some s => exact recordItems_more hothers s (fun e he => hn e (List.mem_cons_of_mem _ he)) rest

/-- **A record that is written as a list** takes its fields in their own order. -/
theorem takes_recordList (hf : TakenFields depth fs) {items : List Document}
    (hn : ∀ d ∈ items, d.Nests depth) (start : σ) :
    Takes (record (fs.map (·.1)) start) (depth + 1) (.list items) (takeItems fs start items) := by
  intro rest
  rw [tokens_list, record, deeper, toOption_bind, ← recordItems_documents hf start hn rest]
  refine congrArg _ (funext fun r => ?_)
  rw [closeList, toOption_bind]
  cases endOfList r.2 <;> rfl

/-- Nothing else is a record. -/
theorem takes_record_none {d : Document} (hl : ∀ items, d ≠ .list items)
    (ho : ∀ fields, d ≠ .object fields) (fs : List (RecordField σ)) (start : σ) (depth : Nat) :
    Takes (record fs start) depth d none := by
  intro rest
  cases d with
  | list items => exact absurd rfl (hl items)
  | object fields => exact absurd rfl (ho fields)
  | null | bool | number | text => rfl

end

/-- **What is read from a text that is a document.** -/
theorem toOption_read {α : Type} {r : Reader α} {text : List Char} {d : Document} {x : Option α}
    (h : IsDocument text d) (ht : Takes r nesting d x) : (read r text).toOption = x := by
  have ht := ht []
  rw [List.append_nil] at ht
  rw [read, h.1, toOption_bind, ht]
  cases x <;> rfl

end VirtualPrinter.Json
