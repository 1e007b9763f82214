import VirtualPrinter.Json.Value

/-!
# The text of a JSON value

Values are written without blanks.  Inside quotes only the quote, the backslash and the control
characters are escaped; every other character stands for itself.

## Main definitions

* `Json.numberStyle`: how floats are written.
* `Json.escape`: a character inside quotes.
* `Value.print`: the text of a value.
-/

namespace VirtualPrinter.Json

/-- Floats from `0.00001` up to `10 ^ 16` are positional, an integral one keeps `.0`, and a
positive exponent has its sign. -/
def numberStyle : Decimal.Style where
  positional := fun lead => decide (-5 ≤ lead ∧ lead ≤ 15)
  pointZero := true
  plusSign := true
  tie := .toEven

/-- The text of an integer. -/
def printInt (i : Int) : List Char :=
  (if i < 0 then ['-'] else []) ++ Decimal.digitsOf i.natAbs

/-- The text of a number. -/
def Number.print : Number → List Char
  | .int i => printInt i
  | .real x => numberStyle.write x

/-- A code below 256 as four hexadecimal digits. -/
def hexCode (n : Nat) : List Char :=
  ['0', '0', Nat.digitChar (n / 16), Nat.digitChar (n % 16)]

/-- A character inside quotes. -/
def escape (c : Char) : List Char :=
  if c == '"' then ['\\', '"']
  else if c == '\\' then ['\\', '\\']
  else if c.toNat < 0x20 then
    if c.toNat == 8 then ['\\', 'b']
    else if c.toNat == 9 then ['\\', 't']
    else if c.toNat == 10 then ['\\', 'n']
    else if c.toNat == 12 then ['\\', 'f']
    else if c.toNat == 13 then ['\\', 'r']
    else '\\' :: 'u' :: hexCode c.toNat
  else [c]

/-- A text between quotes. -/
def quote (s : List Char) : List Char :=
  '"' :: s.flatMap escape ++ ['"']

namespace Value

mutual

/-- The text of a value. -/
def print : Value → List Char
  | .null => ['n', 'u', 'l', 'l']
  | .bool true => ['t', 'r', 'u', 'e']
  | .bool false => ['f', 'a', 'l', 's', 'e']
  | .number n => n.print
  | .text s => quote s.toList
  | .list items => '[' :: printItems items ++ [']']
  | .object fields => '{' :: printFields fields ++ ['}']

/-- Items with commas between them. -/
def printItems : List Value → List Char
  | [] => []
  | [v] => v.print
  | v :: w :: rest => v.print ++ ',' :: printItems (w :: rest)

/-- Fields with commas between them. -/
def printFields : List (String × Value) → List Char
  | [] => []
  | [(k, v)] => quote k.toList ++ ':' :: v.print
  | (k, v) :: next :: rest =>
    quote k.toList ++ ':' :: v.print ++ ',' :: printFields (next :: rest)

end

/-- The text of a value as a string. -/
def toJson (v : Value) : String :=
  String.ofList v.print

end Value

end VirtualPrinter.Json
