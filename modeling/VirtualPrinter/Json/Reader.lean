import VirtualPrinter.Json.Token

/-!
# Typed reading of JSON

A reader takes a value of one type from the front of a list of tokens.  It stops at the first
token that does not fit, so of two faults the one further left is reported.  Containers may be
nested `Json.nesting` deep; values that are only passed over may be nested at will.

A record may be written as an object, with its fields in any order and others between them, or as
a list of its fields in their own order.

## Main definitions

* `Json.Reader`: takes a value from the front, within an allowance of nesting.
* `Json.value`, `text`, `bool`, `natural`, `real`, `nullable`, `listOf`, `fields`, `choice`:
  the readers of the types that documents are made of.
* `Json.RecordField`, `Json.record`: the reader of a record.
* `Json.read`: reads a whole text, which may hold nothing behind the value.
* `Value.tokens`, `Json.readValue`: reads a value that has been read before.
-/

namespace VirtualPrinter.Json

/-- Takes a value from the front of the tokens; the number is the nesting still allowed. -/
abbrev Reader (α : Type) := Nat → List Token → Except Fault (α × List Token)

/-- How deep lists and objects may be nested. -/
def nesting : Nat := 127

/-- The fault of a value of another type than was asked for.  A word, number or text is read before
it is found to be of the wrong type. -/
def mismatch : List Token → Fault
  | [] => .truncated
  | .word (.error fault) :: _ => fault
  | .number ⟨.error fault, _⟩ :: _ => fault
  | .text ⟨.error fault, _⟩ :: _ => fault
  | .word _ :: _ | .number _ :: _ | .text _ :: _ | .opening _ :: _ => .mismatched
  | _ => .malformed

/-! ### Lists and objects -/

/-- The tokens of the next item of a list, if the list does not end here.  A comma stands before
every item but the first. -/
def nextItem (first : Bool) : List Token → Except Fault (Option (List Token))
  | [] => .error .truncated
  | .closing .square :: _ => .ok none
  | t :: rest =>
    if first then .ok (some (t :: rest))
    else match t, rest with
      | .comma, [] => .error .truncated
      | .comma, .closing .square :: _ => .error .malformed
      | .comma, _ => .ok (some rest)
      | _, _ => .error .malformed

/-- The end of a list. -/
def endOfList : List Token → Except Fault (List Token)
  | [] => .error .truncated
  | .closing .square :: rest => .ok rest
  | _ => .error .malformed

/-- The key at the front. -/
def key : List Token → Except Fault (String × List Token)
  | [] => .error .truncated
  | .text s :: rest => s.value.map fun k => (k, rest)
  | _ => .error .malformed

/-- The next key of an object, if the object does not end here. -/
def nextKey (first : Bool) : List Token → Except Fault (Option (String × List Token))
  | [] => .error .truncated
  | .closing .curly :: _ => .ok none
  | t :: rest =>
    if first then (key (t :: rest)).map some
    else match t with
      | .comma => (key rest).map some
      | _ => .error .malformed

/-- The end of an object, where no further key was found. -/
def endOfObject : List Token → Except Fault (List Token)
  | .closing .curly :: rest => .ok rest
  | [] => .error .truncated
  | _ => .error .malformed

/-- The colon between a key and its value. -/
def colon : List Token → Except Fault (List Token)
  | [] => .error .truncated
  | .colon :: rest => .ok rest
  | _ => .error .malformed

/-- The items of a list up to its end, at most `limit` of them. -/
def itemsWithin {α : Type} (item : List Token → Except Fault (α × List Token)) :
    Nat → Bool → List Token → Except Fault (List α × List Token)
  | 0, _, _ => .error .truncated
  | limit + 1, first, ts => do
    match ← nextItem first ts with
    | none => return ([], ← endOfList ts)
    | some ts =>
      let (x, ts) ← item ts
      let (xs, ts) ← itemsWithin item limit false ts
      return (x :: xs, ts)

/-- The items of a list, behind its opening bracket.  Each takes a token. -/
def items {α : Type} (item : List Token → Except Fault (α × List Token)) (ts : List Token) :
    Except Fault (List α × List Token) :=
  itemsWithin item (ts.length + 1) true ts

/-- The entries of an object up to its end, at most `limit` of them, folded into a value. -/
def entriesWithin {σ : Type} (entry : σ → String → List Token → Except Fault (σ × List Token)) :
    Nat → Bool → σ → List Token → Except Fault (σ × List Token)
  | 0, _, _, _ => .error .truncated
  | limit + 1, first, s, ts => do
    match ← nextKey first ts with
    | none => return (s, ts)
    | some (k, ts) =>
      let (s, ts) ← entry s k ts
      entriesWithin entry limit false s ts

/-- The entries of an object, behind its opening bracket; its end is left.  Each entry takes a
token. -/
def entries {σ : Type} (entry : σ → String → List Token → Except Fault (σ × List Token))
    (s : σ) (ts : List Token) : Except Fault (σ × List Token) :=
  entriesWithin entry (ts.length + 1) true s ts

/-- Goes one container deeper. -/
def deeper {α : Type} (inside : Nat → Except Fault α) : Nat → Except Fault α
  | 0 => .error .malformed
  | depth + 1 => inside depth

/-! ### Any value -/

/-- Any value. -/
def value : Reader Value
  | _, [] => .error .truncated
  | _, .word w :: rest => w.map fun v => (v, rest)
  | _, .number n :: rest => n.value.map fun n => (.number n, rest)
  | _, .text s :: rest => s.value.map fun s => (.text s, rest)
  | 0, .opening _ :: _ => .error .malformed
  | depth + 1, .opening .square :: rest =>
    (items (value depth) rest).map fun (vs, rest) => (.list vs, rest)
  | depth + 1, .opening .curly :: rest => do
    let (pairs, rest) ← entries (fun pairs k ts => do
      let (v, ts) ← value depth (← colon ts)
      return ((k, v) :: pairs, ts)) [] rest
    return (.object (Fields.ofList pairs.reverse), ← endOfObject rest)
  | _, _ :: _ => .error .malformed

/-! ### Passing over a value -/

/-- What comes next while a value is passed over. -/
inductive Expected where
  | value
  | itemOrEnd
  | commaOrEnd
  | key
  | colon

/-- Passes over the rest of a value: the brackets that are open, innermost first, and what comes
next.  `none` is a token that ends the value. -/
def skipStep (expected : Expected) (enclosing : List Bracket) (t : Token) :
    Except Fault (Option (Expected × List Bracket)) :=
  let behind (enclosing : List Bracket) : Option (Expected × List Bracket) :=
    if enclosing.isEmpty then none else some (.commaOrEnd, enclosing)
  let atValue : Except Fault (Option (Expected × List Bracket)) :=
    match t with
    | .word w => w.map fun _ => behind enclosing
    | .number n => n.skipped.map fun _ => behind enclosing
    | .text s => s.skipped.map fun _ => behind enclosing
    | .opening b => .ok (some (.itemOrEnd, b :: enclosing))
    | _ => .error .malformed
  let atKey : Except Fault (Option (Expected × List Bracket)) :=
    match t with
    | .text s => s.skipped.map fun _ => some (.colon, enclosing)
    | _ => .error .malformed
  match expected, enclosing, t with
  | .value, _, _ => atValue
  | .key, _, _ => atKey
  | .colon, _, .colon => .ok (some (.value, enclosing))
  | .colon, _, _ => .error .malformed
  | .itemOrEnd, .square :: outer, .closing .square => .ok (behind outer)
  | .itemOrEnd, .curly :: outer, .closing .curly => .ok (behind outer)
  | .itemOrEnd, .curly :: _, _ => atKey
  | .itemOrEnd, _, _ => atValue
  | .commaOrEnd, .square :: outer, .closing .square => .ok (behind outer)
  | .commaOrEnd, .curly :: outer, .closing .curly => .ok (behind outer)
  | .commaOrEnd, .curly :: _, .comma => .ok (some (.key, enclosing))
  | .commaOrEnd, .square :: _, .comma => .ok (some (.value, enclosing))
  | .commaOrEnd, _, _ => .error .malformed

/-- Passes over the rest of a value. -/
def skipFrom (expected : Expected) (enclosing : List Bracket) :
    List Token → Except Fault (List Token)
  | [] => .error .truncated
  | t :: rest => do
    match ← skipStep expected enclosing t with
    | none => return rest
    | some (expected, enclosing) => skipFrom expected enclosing rest

/-- Passes over a value. -/
def skip (ts : List Token) : Except Fault (List Token) :=
  skipFrom .value [] ts

/-! ### The types that documents are made of -/

/-- A text that a condition turns into a value. -/
def textAs {α : Type} (parse : String → Option α) : Reader α
  | _, .text ⟨.ok s, _⟩ :: rest =>
    match parse s with
    | some x => .ok (x, rest)
    | none => .error .mismatched
  | _, ts => .error (mismatch ts)

/-- A text. -/
def text : Reader String :=
  textAs some

/-- A truth value. -/
def bool : Reader Bool
  | _, .word (.ok (.bool b)) :: rest => .ok (b, rest)
  | _, ts => .error (mismatch ts)

/-- A natural number below a bound. -/
def natural (bound : Nat) : Reader Nat
  | _, .number ⟨.ok (.int (.ofNat n)), _⟩ :: rest =>
    if n < bound then .ok (n, rest) else .error .mismatched
  | _, ts => .error (mismatch ts)

/-- A float, or the float nearest to an integer. -/
def real : Reader Float
  | _, .number ⟨.ok n, _⟩ :: rest => .ok (n.toFloat, rest)
  | _, ts => .error (mismatch ts)

/-- A value, or `null` for none. -/
def nullable {α : Type} (r : Reader α) : Reader (Option α)
  | _, .word (.ok .null) :: rest => .ok (none, rest)
  | depth, ts => (r depth ts).map fun (x, rest) => (some x, rest)

/-- A list. -/
def listOf {α : Type} (r : Reader α) : Reader (List α)
  | depth, .opening .square :: rest => deeper (fun depth => items (r depth) rest) depth
  | _, ts => .error (mismatch ts)

/-- An object with any fields. -/
def fields : Reader Fields
  | depth, .opening .curly :: rest => do
    let (v, rest) ← value depth (.opening .curly :: rest)
    match v with
    | .object fs => return (fs, rest)
    | _ => .error .mismatched
  | _, ts => .error (mismatch ts)

/-- One of several names: as a text, or as the key of an object whose only value is `null`. -/
def choice {α : Type} (names : List (String × α)) : Reader α
  | _, [] => .error .truncated
  | depth, .text s :: rest => textAs (fun s => names.lookup s) depth (.text s :: rest)
  | depth, .opening .curly :: rest => deeper (fun _ => do
      let (name, ts) ← key rest
      let x ← (names.lookup name).elim (.error .mismatched) .ok
      let ts ← colon ts
      match ts with
      | .word (.ok .null) :: .closing .curly :: rest => return (x, rest)
      | [.word (.ok .null)] => .error .truncated
      | .word (.ok .null) :: _ => .error .malformed
      | ts => .error (mismatch ts)) depth
  | _, _ => .error .malformed

/-! ### Records -/

/-- Whether a field may be left out. -/
inductive Presence where
  /-- It may not. -/
  | required
  /-- It may be left out of an object, not of a list. -/
  | nullable
  /-- It may be left out, and keeps the value the record started with. -/
  | defaulted
deriving DecidableEq

/-- A field of a record under construction: the keys it goes by, whether it may be left out, and
how its value enters the record. -/
structure RecordField (σ : Type) where
  names : List String
  presence : Presence
  read : σ → Reader σ

/-- A field of any type. -/
def RecordField.of {σ α : Type} (name : String) (r : Reader α) (set : σ → α → σ)
    (presence : Presence) : RecordField σ where
  names := [name]
  presence := presence
  read := fun s depth ts => (r depth ts).map fun (x, rest) => (set s x, rest)

/-- One entry of an object: a known field once, anything else passed over. -/
def recordEntry {σ : Type} (fs : List (RecordField σ)) (depth : Nat) (state : σ × List Nat)
    (k : String) (ts : List Token) : Except Fault ((σ × List Nat) × List Token) := do
  match fs.findIdx? (fun f => f.names.contains k) with
  | none => return (state, ← skip (← colon ts))
  | some i =>
    if state.2.contains i then .error .mismatched
    else match fs[i]? with
      | none => .error .mismatched
      | some f =>
        let (s, ts) ← f.read state.1 depth (← colon ts)
        return ((s, i :: state.2), ts)

/-- The fields of a record written as a list; those left out at the end must have a default. -/
def recordItems {σ : Type} (depth : Nat) :
    List (RecordField σ) → Bool → σ → List Token → Except Fault (σ × List Token)
  | [], _, s, ts => .ok (s, ts)
  | f :: fs, first, s, ts => do
    match ← nextItem first ts with
    | some ts =>
      let (s, ts) ← f.read s depth ts
      recordItems depth fs false s ts
    | none =>
      if f.presence = .defaulted then recordItems depth fs first s ts else .error .mismatched

/-- A record: an object that has every required field, or a list. -/
def record {σ : Type} (fs : List (RecordField σ)) (start : σ) : Reader σ
  | depth, .opening .square :: rest => deeper (fun depth => do
      let (s, ts) ← recordItems depth fs true start rest
      return (s, ← endOfList ts)) depth
  | depth, .opening .curly :: rest => deeper (fun depth => do
      let ((s, seen), ts) ← entries (recordEntry fs depth) (start, []) rest
      if (fs.zipIdx.all fun (f, i) => f.presence ≠ .required || seen.contains i) then
        return (s, ← endOfObject ts)
      else .error .mismatched) depth
  | _, ts => .error (mismatch ts)

/-- Reads a whole text. -/
def read {α : Type} (r : Reader α) (text : List Char) : Except Fault α := do
  let (x, rest) ← r nesting (tokens text)
  match rest with
  | [] => return x
  | _ :: _ => .error .malformed

/-! ### Values that have been read before -/

/-- The token of a text that is known. -/
def Token.ofText (s : String) : Token := .text ⟨.ok s, .ok ()⟩

/-- The token of a number that is known. -/
def Token.ofNumber (n : Number) : Token := .number ⟨.ok n, .ok ()⟩

namespace Value

mutual

/-- The tokens that a value stands for. -/
def tokens : Value → List Token
  | .null => [.word (.ok .null)]
  | .bool b => [.word (.ok (.bool b))]
  | .number n => [.ofNumber n]
  | .text s => [.ofText s]
  | .list items => .opening .square :: itemTokens items ++ [.closing .square]
  | .object fields => .opening .curly :: fieldTokens fields ++ [.closing .curly]

/-- The tokens of items, with commas between them. -/
def itemTokens : List Value → List Token
  | [] => []
  | [v] => v.tokens
  | v :: w :: rest => v.tokens ++ .comma :: itemTokens (w :: rest)

/-- The tokens of fields, with commas between them. -/
def fieldTokens : List (String × Value) → List Token
  | [] => []
  | [(k, v)] => .ofText k :: .colon :: v.tokens
  | (k, v) :: next :: rest => .ofText k :: .colon :: v.tokens ++ .comma :: fieldTokens (next :: rest)

end

end Value

/-- Reads a value that has been read before.  Its nesting is not limited a second time. -/
def readValue {α : Type} (r : Reader α) (v : Value) : Except Fault α := do
  let (x, rest) ← r v.tokens.length v.tokens
  match rest with
  | [] => return x
  | _ :: _ => .error .malformed

end VirtualPrinter.Json
