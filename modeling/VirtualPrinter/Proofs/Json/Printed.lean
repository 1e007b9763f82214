import VirtualPrinter.Proofs.Json.Fitting
import VirtualPrinter.Proofs.Json.Floats
import VirtualPrinter.Proofs.Json.Quoting

/-!
# The tokens of a printed value

A value that is printed and cut into tokens again stands there as it was, but for its floats: in
place of each stands the float that its text is read as.  The cutting looks at one token at a time
and knows no nesting, so this holds at any depth.

## Main definitions

* `Json.reread`: the float that is read where a float was written.
* `Value.mapReals`, `Value.reals`: a value with other floats, and its floats.
* `Json.Spells`: a text is cut into tokens, whatever follows it.

## Main results

* `Value.Fits.spells`: the text of a value is cut into the tokens of the value with its floats
  reread.
* `mapReals_eq_self_iff`: other floats make another value.
-/

namespace VirtualPrinter.Json

/-! ### Other floats -/

/-- The float that is read where a float was written. -/
def reread (x : Float) : Float :=
  ((read real (numberStyle.write x)).toOption).getD x

/-- A number with another float. -/
def Number.mapReal (f : Float → Float) : Number → Number
  | .int i => .int i
  | .real x => .real (f x)

namespace Value

mutual

/-- A value with other floats. -/
def mapReals (f : Float → Float) : Value → Value
  | .number n => .number (n.mapReal f)
  | .list items => .list (mapRealsItems f items)
  | .object fields => .object (mapRealsFields f fields)
  | v => v

/-- Items with other floats. -/
def mapRealsItems (f : Float → Float) : List Value → List Value
  | [] => []
  | v :: rest => v.mapReals f :: mapRealsItems f rest

/-- Fields with other floats. -/
def mapRealsFields (f : Float → Float) : List (String × Value) → List (String × Value)
  | [] => []
  | (k, v) :: rest => (k, v.mapReals f) :: mapRealsFields f rest

end

mutual

/-- The floats of a value. -/
def reals : Value → List Float
  | .number (.real x) => [x]
  | .list items => realsOfItems items
  | .object fields => realsOfFields fields
  | _ => []

/-- The floats of items. -/
def realsOfItems : List Value → List Float
  | [] => []
  | v :: rest => v.reals ++ realsOfItems rest

/-- The floats of fields. -/
def realsOfFields : List (String × Value) → List Float
  | [] => []
  | (_, v) :: rest => v.reals ++ realsOfFields rest

end

mutual

/-- **Other floats make another value.** -/
theorem mapReals_eq_self_iff (f : Float → Float) :
    ∀ v : Value, v.mapReals f = v ↔ ∀ x ∈ v.reals, f x = x
  | .null | .bool _ | .text _ => by simp [mapReals, reals]
  | .number n => by cases n <;> simp [mapReals, Number.mapReal, reals]
  | .list items => by
    rw [mapReals, reals, Value.list.injEq]
    exact mapRealsItems_eq_self_iff f items
  | .object fields => by
    rw [mapReals, reals, Value.object.injEq]
    exact mapRealsFields_eq_self_iff f fields

theorem mapRealsItems_eq_self_iff (f : Float → Float) :
    ∀ items, mapRealsItems f items = items ↔ ∀ x ∈ realsOfItems items, f x = x
  | [] => by simp [mapRealsItems, realsOfItems]
  | v :: rest => by
    rw [mapRealsItems, realsOfItems, List.cons.injEq, mapReals_eq_self_iff f v,
      mapRealsItems_eq_self_iff f rest, List.forall_mem_append]

theorem mapRealsFields_eq_self_iff (f : Float → Float) :
    ∀ fields, mapRealsFields f fields = fields ↔ ∀ x ∈ realsOfFields fields, f x = x
  | [] => by simp [mapRealsFields, realsOfFields]
  | (k, v) :: rest => by
    rw [mapRealsFields, realsOfFields, List.cons.injEq, Prod.mk.injEq, mapReals_eq_self_iff f v,
      mapRealsFields_eq_self_iff f rest, List.forall_mem_append]
    simp only [true_and]

end

end Value

/-! ### Cutting a text into tokens -/

/-- The front of a text is cut into tokens, and a rest is left. -/
structure Lexes (text : List Char) (ts : List Token) (rest : List Char) : Prop where
  /-- Every token takes a character. -/
  length : ts.length + rest.length ≤ text.length
  tokens : ∀ limit, tokensWithin (ts.length + limit) text = ts ++ tokensWithin limit rest

namespace Lexes

variable {a b c : List Char} {ts us : List Token}

theorem refl (a : List Char) : Lexes a [] a := by
  constructor
  · simp
  · intro limit
    rw [List.length_nil, Nat.zero_add, List.nil_append]

theorem trans (h : Lexes a ts b) (k : Lexes b us c) : Lexes a (ts ++ us) c := by
  constructor
  · have := h.length
    have := k.length
    rw [List.length_append]
    omega
  · intro limit
    rw [List.length_append, Nat.add_assoc, h.tokens, k.tokens, List.append_assoc]

/-- One token. -/
theorem single {x : Char} {t : Token} (hx : isSpace x = false) (ht : token x a = (t, b))
    (hb : b.length ≤ a.length) : Lexes (x :: a) [t] b := by
  constructor
  · simpa [Nat.add_comm] using hb
  · intro limit
    rw [List.length_singleton, Nat.add_comm, tokensWithin,
      List.dropWhile_cons_of_neg (by simp [hx])]
    simp only [ht, List.singleton_append]

theorem eq_tokens (h : Lexes a ts []) : Json.tokens a = ts := by
  -- every token takes a character, so the length of the text is limit enough
  obtain ⟨limit, hl⟩ := Nat.exists_eq_add_of_le h.length
  rw [List.length_nil, Nat.add_zero] at hl
  have hnil : tokensWithin limit [] = [] := by cases limit <;> rfl
  rw [Json.tokens, hl, h.tokens, hnil, List.append_nil]

end Lexes

/-- A text is cut into tokens, whatever follows it that does not go on with a number. -/
def Spells (text : List Char) (ts : List Token) : Prop :=
  ∀ rest, Ends rest → Lexes (text ++ rest) ts rest

namespace Spells

variable {a b : List Char} {ts us : List Token}

theorem nil : Spells [] [] := fun rest _ => .refl rest

/-- A text behind another: it must not go on with a number. -/
theorem append (h : Spells a ts) (k : Spells b us) (hb : ∀ rest, Ends rest → Ends (b ++ rest)) :
    Spells (a ++ b) (ts ++ us) := by
  intro rest hr
  rw [List.append_assoc]
  exact (h (b ++ rest) (hb rest hr)).trans (k rest hr)

/-- A character that is a token by itself. -/
theorem cons {x : Char} {t : Token} (hx : isSpace x = false) (ht : ∀ rest, token x rest = (t, rest))
    (h : Spells b us) : Spells (x :: b) (t :: us) := fun rest hr =>
  (Lexes.single hx (ht _) (Nat.le_refl _)).trans (h rest hr)

/-- A text with nothing behind it. -/
theorem eq_tokens (h : Spells a ts) : tokens a = ts := by
  have hwhole := h [] ends_nil
  rw [List.append_nil] at hwhole
  exact hwhole.eq_tokens

end Spells

/-- The characters that are tokens by themselves. -/
def Token.mark? : Token → Option Char
  | .opening .square => some '['
  | .opening .curly => some '{'
  | .closing .square => some ']'
  | .closing .curly => some '}'
  | .comma => some ','
  | .colon => some ':'
  | _ => none

/-- A text that begins with a mark does not go on with a number. -/
theorem ends_mark {t : Token} {x : Char} (h : t.mark? = some x) (rest : List Char) :
    Ends (x :: rest) := by
  apply ends_cons
  unfold Token.mark? at h
  split at h <;> cases h <;> decide

theorem Spells.mark {t : Token} {x : Char} (h : t.mark? = some x) {b : List Char} {us : List Token}
    (hb : Spells b us) : Spells (x :: b) (t :: us) := by
  unfold Token.mark? at h
  split at h <;> cases h <;> exact hb.cons rfl fun _ => rfl

/-! ### Texts, numbers and words -/

theorem spells_quote (s : String) : Spells (quote s.toList) [.ofText s] := by
  intro rest _
  have hq : quote s.toList ++ rest = '"' :: (s.toList.flatMap escape ++ '"' :: rest) := by
    simp [quote]
  rw [hq]
  -- the quote behind a text ends it, so nothing is asked of what follows
  refine Lexes.single rfl (textToken_quoted s rest) ?_
  rw [List.length_append, List.length_cons]
  omega

theorem digit_beq {d c : Char} (hd : d.isDigit) (hc : c.isDigit = false) : (d == c) = false := by
  apply beq_false_of_ne
  rintro rfl
  rw [hd] at hc
  cases hc

/-- A digit begins a number. -/
theorem token_digit {d : Char} (h : d.isDigit) (rest : List Char) :
    token d rest = numberToken false (d :: rest) := by
  simp only [token, digit_beq h (c := '[') rfl, digit_beq h (c := '{') rfl,
    digit_beq h (c := ']') rfl, digit_beq h (c := '}') rfl, digit_beq h (c := ',') rfl,
    digit_beq h (c := ':') rfl, digit_beq h (c := '"') rfl, digit_beq h (c := '-') rfl, h,
    Bool.false_eq_true, if_true, if_false]

theorem isSpace_digit {d : Char} (h : d.isDigit) : isSpace d = false := by
  simp only [isSpace, digit_beq h (c := ' ') rfl, digit_beq h (c := '\n') rfl,
    digit_beq h (c := '\t') rfl, digit_beq h (c := '\r') rfl, Bool.or_self]

/-- The token of a number as written, whether it has a value or not. -/
theorem lexes_number {n : Numeral} (h : n.WellFormed) {rest : List Char} (hr : Ends rest) :
    Lexes ((if n.negative then ['-'] else []) ++ n.text ++ rest) [.number ⟨n.value, .ok ()⟩] rest := by
  have htoken : numberToken n.negative (n.text ++ rest) = (.number ⟨n.value, .ok ()⟩, rest) := by
    rw [numberToken, numeral_text h hr]
  cases hn : n.negative with
  | true =>
    rw [hn] at htoken
    refine Lexes.single rfl htoken ?_
    simp
  | false =>
    rw [hn] at htoken
    -- the first character is a digit, and stays part of the number
    obtain ⟨d, ds, hd⟩ := List.exists_cons_of_ne_nil h.whole.1
    have hdigit : d.isDigit := h.whole.2 d (by rw [hd]; exact List.mem_cons_self)
    obtain ⟨text, htext⟩ : ∃ text, n.text = d :: text := ⟨_, by rw [Numeral.text, hd]; rfl⟩
    have hpart : Numeral.text n ++ rest = d :: (text ++ rest) := by rw [htext, List.cons_append]
    rw [hpart] at htoken
    simp only [Bool.false_eq_true, if_false, List.nil_append]
    rw [hpart]
    refine Lexes.single (isSpace_digit hdigit) ?_ (by simp)
    rw [token_digit hdigit, htoken]

/-- The token of a number as written that has a value. -/
theorem lexes_numeral {n : Numeral} (h : n.WellFormed) {x : Number} (hx : n.value = .ok x)
    {rest : List Char} (hr : Ends rest) :
    Lexes ((if n.negative then ['-'] else []) ++ n.text ++ rest) [.ofNumber x] rest := by
  rw [Token.ofNumber, ← hx]
  exact lexes_number h hr

theorem printInt_eq (i : Int) :
    printInt i = (if (Numeral.ofInt i).negative then ['-'] else []) ++ (Numeral.ofInt i).text := by
  simp [printInt, Numeral.ofInt, Numeral.text, Numeral.fractionText, Numeral.exponentText]

/-- An integer of any size is read as the number that its digits have the value of, if they have one. -/
theorem read_printInt (i : Int) :
    read value (printInt i) = (Numeral.ofInt i).value.map .number := by
  have htokens : tokens (printInt i) = [.number ⟨(Numeral.ofInt i).value, .ok ()⟩] := by
    have hlexes := lexes_number (ofInt_wellFormed i) ends_nil
    rw [List.append_nil, ← printInt_eq] at hlexes
    exact hlexes.eq_tokens
  rw [read, htokens]
  cases (Numeral.ofInt i).value <;> rfl

/-- **What is read of a printed integer is the integer.** -/
theorem spells_int {i : Int} (h : (Number.int i).InRange) :
    Spells (printInt i) [.ofNumber (.int i)] := by
  intro rest hr
  rw [printInt_eq]
  exact lexes_numeral (ofInt_wellFormed i) (ofInt_value h) hr

/-- What is read of a printed float is the float that it is read as. -/
theorem spells_real {x : Float} (hx : x.isFinite) :
    Spells (numberStyle.write x) [.ofNumber (.real (reread x))] := by
  obtain ⟨negative, text, hwrite, n, rfl, hn, hreal, rfl⟩ := write_numeral hx
  obtain ⟨y, hy⟩ : ∃ y, n.value = .ok (.real y) := by
    unfold Numeral.isReal at hreal
    split at hreal
    · exact ⟨_, ‹_›⟩
    · cases hreal
  have hspells : Spells (numberStyle.write x) [.ofNumber (.real y)] := by
    intro rest hr
    rw [hwrite]
    exact lexes_numeral hn hy hr
  -- the text by itself is one token, and that is what `reread` takes
  have hread : reread x = y := by
    rw [reread, read, hspells.eq_tokens]
    rfl
  rw [hread]
  exact hspells

/-- A word that stands for a value. -/
theorem spells_word {c : Char} {letters : List Char} {v : Value}
    (hw : wordOf? c = some (letters, v)) : Spells (c :: letters) [.word (.ok v)] := by
  intro rest _
  refine Lexes.single (a := letters ++ rest) ?_ ?_ (by simp)
  · unfold wordOf? at hw
    split at hw <;> cases hw <;> rfl
  · unfold wordOf? at hw
    split at hw <;> cases hw <;> rfl

/-! ### Any value -/

open Value (itemTokens fieldTokens mapRealsItems mapRealsFields realsOfItems realsOfFields
  printItems printFields)

theorem realsOfItems_eq_flatMap (items : List Value) :
    realsOfItems items = items.flatMap (·.reals) := by
  induction items with
  | nil => rfl
  | cons v rest ih => rw [realsOfItems, ih, List.flatMap_cons]

theorem realsOfFields_eq_flatMap (fields : Fields) :
    realsOfFields fields = fields.flatMap (·.2.reals) := by
  induction fields with
  | nil => rfl
  | cons p rest ih => rw [realsOfFields, ih, List.flatMap_cons]

/-- The text of items, if the text of each is cut into its tokens. -/
theorem spells_items {f : Float → Float} {items : List Value}
    (h : ∀ v ∈ items, Spells v.print (v.mapReals f).tokens) :
    Spells (printItems items) (itemTokens (mapRealsItems f items)) := by
  induction items with
  | nil => exact .nil
  | cons v rest ih =>
    have hv := h v List.mem_cons_self
    have hrest := ih fun w hw => h w (List.mem_cons_of_mem _ hw)
    cases rest with
    | nil => exact hv
    | cons w rest =>
      -- the item may be a number, which the comma ends
      exact hv.append (hrest.mark (t := .comma) rfl) fun _ _ => ends_mark (t := .comma) rfl _

/-- The text of fields, if the text of each value is cut into its tokens. -/
theorem spells_fields {f : Float → Float} {fields : Fields}
    (h : ∀ p ∈ fields, Spells p.2.print (p.2.mapReals f).tokens) :
    Spells (printFields fields) (fieldTokens (mapRealsFields f fields)) := by
  have hentry {k : String} {v : Value} (hv : Spells v.print (v.mapReals f).tokens) :
      Spells (quote k.toList ++ ':' :: v.print) (.ofText k :: .colon :: (v.mapReals f).tokens) :=
    (spells_quote k).append (hv.mark (t := .colon) rfl) fun _ _ => ends_mark (t := .colon) rfl _
  induction fields with
  | nil => exact .nil
  | cons p rest ih =>
    obtain ⟨k, v⟩ := p
    have hv := hentry (k := k) (h (k, v) List.mem_cons_self)
    have hrest := ih fun q hq => h q (List.mem_cons_of_mem _ hq)
    cases rest with
    | nil => exact hv
    | cons q rest =>
      exact hv.append (hrest.mark (t := .comma) rfl) fun _ _ => ends_mark (t := .comma) rfl _

/-- A text between brackets. -/
theorem Spells.between {b : Bracket} {left right : Char} (hl : (Token.opening b).mark? = some left)
    (hr : (Token.closing b).mark? = some right) {text : List Char} {ts : List Token}
    (h : Spells text ts) : Spells (left :: text ++ [right]) (.opening b :: ts ++ [.closing b]) :=
  (h.mark hl).append (Spells.nil.mark hr) fun _ _ => ends_mark hr _

theorem spells_list {f : Float → Float} {items : List Value}
    (h : ∀ v ∈ items, Spells v.print (v.mapReals f).tokens) :
    Spells (Value.list items).print ((Value.list items).mapReals f).tokens :=
  (spells_items h).between rfl rfl

theorem spells_object {f : Float → Float} {fields : Fields}
    (h : ∀ p ∈ fields, Spells p.2.print (p.2.mapReals f).tokens) :
    Spells (Value.object fields).print ((Value.object fields).mapReals f).tokens :=
  (spells_fields h).between rfl rfl

/-- **A printed value is cut into the tokens of the value with its floats reread.** -/
theorem Value.Fits.spells {depth : Nat} {v : Value} (h : v.Fits depth)
    (hx : ∀ x ∈ v.reals, x.isFinite) : Spells v.print (v.mapReals reread).tokens := by
  induction h with
  | null => exact spells_word rfl
  | bool b => cases b <;> exact spells_word rfl
  | @number _ n h =>
    cases n with
    | int i => exact spells_int h
    | real x => exact spells_real (hx x List.mem_cons_self)
  | text s => exact spells_quote s
  | list _ ih =>
    -- the floats of a container are those of its parts
    rw [Value.reals, realsOfItems_eq_flatMap] at hx
    exact spells_list fun v hv => ih v hv fun x h => hx x (List.mem_flatMap_of_mem hv h)
  | object _ _ ih =>
    rw [Value.reals, realsOfFields_eq_flatMap] at hx
    exact spells_object fun p hp => ih p hp fun x h => hx x (List.mem_flatMap_of_mem hp h)

theorem mapRealsItems_eq_map (f : Float → Float) (items : List Value) :
    mapRealsItems f items = items.map (·.mapReals f) := by
  induction items with
  | nil => rfl
  | cons v rest ih => rw [mapRealsItems, ih, List.map_cons]

theorem mapRealsFields_eq_map (f : Float → Float) (fields : Fields) :
    mapRealsFields f fields = fields.map fun p => (p.1, p.2.mapReals f) := by
  induction fields with
  | nil => rfl
  | cons p rest ih => rw [mapRealsFields, ih, List.map_cons]

/-- Other floats need no other allowance. -/
theorem Value.Fits.mapReals {depth : Nat} {v : Value} (h : v.Fits depth) (f : Float → Float) :
    (v.mapReals f).Fits depth := by
  induction h with
  | null => exact .null
  | bool b => exact .bool b
  | @number _ n h =>
    cases n with
    | int i => exact .number (n := .int i) h
    | real x => exact .number (n := .real (f x)) trivial
  | text s => exact .text s
  | @list _ items _ ih =>
    rw [Value.mapReals, mapRealsItems_eq_map]
    exact .list (List.forall_mem_map.mpr ih)
  | @object _ fields order _ ih =>
    rw [Value.mapReals, mapRealsFields_eq_map]
    -- the keys stay, and so does their order
    exact .object (List.pairwise_map.mpr order) (List.forall_mem_map.mpr ih)

end VirtualPrinter.Json
