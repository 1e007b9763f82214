import VirtualPrinter.Decimal.Layout

/-!
# JSON values

A number is an integer or a float, and the two are never equal.  The fields of an object are kept
in the order of their keys, by code point, and a key occurs once.

## Main definitions

* `Json.Number`, `Json.Value`, `Json.Fields`.
* `Fields.get?`, `Fields.insert`: look-up, and replacement in place of an earlier value.
* `Value.sorted`: every object below brought into key order.
* `Value.same`: equality that compares floats as numbers, so that both zeros are equal.
* `Value.ofFloat`: a float as a value; one that is not finite has no number and becomes `null`.
-/

namespace VirtualPrinter.Json

/-- A number: an integer, or a float. -/
inductive Number where
  | int (i : Int)
  | real (x : Float)
deriving DecidableEq

/-- A JSON value. -/
inductive Value where
  | null
  | bool (b : Bool)
  | number (n : Number)
  | text (s : String)
  | list (items : List Value)
  | object (fields : List (String × Value))

/-- The fields of an object. -/
abbrev Fields := List (String × Value)

instance : Inhabited Value := ⟨.null⟩

/-- The float nearest to a number. -/
def Number.toFloat : Number → Float
  | .int i => Float.ofInt i
  | .real x => x

/-- Equality of numbers; an integer never equals a float. -/
def Number.same : Number → Number → Bool
  | .int i, .int j => i == j
  | .real x, .real y => x == y
  | _, _ => false

namespace Fields

/-- The value of a key. -/
def get? (fields : Fields) (key : String) : Option Value :=
  fields.lookup key

/-- The fields with a value for a key, instead of the one it had. -/
def insert (key : String) (value : Value) : Fields → Fields
  | [] => [(key, value)]
  | (k, v) :: rest =>
    if key < k then (key, value) :: (k, v) :: rest
    else if key == k then (key, value) :: rest
    else (k, v) :: insert key value rest

/-- Fields from pairs in any order; of two values of a key the later counts. -/
def ofList (pairs : List (String × Value)) : Fields :=
  pairs.foldl (fun fields p => insert p.1 p.2 fields) []

end Fields

namespace Value

/-- A natural number as a value. -/
def ofNat (n : Nat) : Value :=
  .number (.int n)

/-- A float as a value. -/
def ofFloat (x : Float) : Value :=
  if x.isFinite then .number (.real x) else .null

/-- The text of a text value. -/
def text? : Value → Option String
  | .text s => some s
  | _ => none

/-- The float nearest to a number value. -/
def float? : Value → Option Float
  | .number n => some n.toFloat
  | _ => none

/-- The items of a list value. -/
def items? : Value → Option (List Value)
  | .list items => some items
  | _ => none

mutual

/-- A value with the fields of every object in key order. -/
def sorted : Value → Value
  | .list items => .list (sortedItems items)
  | .object fields => .object (Fields.ofList (sortedFields fields))
  | v => v

/-- The items of a list, each sorted. -/
def sortedItems : List Value → List Value
  | [] => []
  | v :: rest => v.sorted :: sortedItems rest

/-- The fields of an object, each sorted, in their own order. -/
def sortedFields : List (String × Value) → List (String × Value)
  | [] => []
  | (k, v) :: rest => (k, v.sorted) :: sortedFields rest

end

mutual

/-- Equality of values. -/
def same : Value → Value → Bool
  | .null, .null => true
  | .bool a, .bool b => a == b
  | .number m, .number n => m.same n
  | .text s, .text t => s == t
  | .list xs, .list ys => sameItems xs ys
  | .object xs, .object ys => sameFields xs ys
  | _, _ => false

/-- Equality of lists of items. -/
def sameItems : List Value → List Value → Bool
  | [], [] => true
  | x :: xs, y :: ys => x.same y && sameItems xs ys
  | _, _ => false

/-- Equality of fields. -/
def sameFields : List (String × Value) → List (String × Value) → Bool
  | [], [] => true
  | (k, x) :: xs, (l, y) :: ys => k == l && x.same y && sameFields xs ys
  | _, _ => false

end

end Value

end VirtualPrinter.Json
