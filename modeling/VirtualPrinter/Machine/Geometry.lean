import VirtualPrinter.Decimal.Places

/-!
# Points and motors

Coordinates are millimetres.  The motors of the three axes and of the extruder are enabled one by
one; a set of motors is an octet, and bits without a motor are kept as they are.

## Main definitions

* `Machine.Point`, and its text.
* `Machine.Motors`: a set of motors, with its two texts: the letters alone, and the letters with
  the bits that have none, which `Motors.parse?` reads.
-/

namespace VirtualPrinter.Machine

/-- A point of the travel volume, in millimetres. -/
structure Point where
  x : Float
  y : Float
  z : Float
deriving DecidableEq

/-- The corner in which all coordinates are zero. -/
def Point.origin : Point := ⟨0, 0, 0⟩

/-- The coordinates with two places. -/
def Point.text (p : Point) : String :=
  "X:" ++ Decimal.twoPlaces p.x ++ " Y:" ++ Decimal.twoPlaces p.y ++
    " Z:" ++ Decimal.twoPlaces p.z

/-- A set of motors, a bit each. -/
structure Motors where
  bits : UInt8
deriving DecidableEq

namespace Motors

/-- No motor. -/
def none : Motors := ⟨0⟩

/-- Every motor. -/
def all : Motors := ⟨15⟩

/-- The motors by their letters. -/
def named : List (Char × Motors) :=
  [('X', ⟨1⟩), ('Y', ⟨2⟩), ('Z', ⟨4⟩), ('E', ⟨8⟩)]

/-- The motor of a letter, in either case. -/
def ofLetter? (letter : Char) : Option Motors :=
  named.lookup letter.toUpper

/-- The motors in either set. -/
def union (a b : Motors) : Motors := ⟨a.bits ||| b.bits⟩

/-- The motors in the first set alone. -/
def diff (a b : Motors) : Motors := ⟨a.bits &&& ~~~b.bits⟩

/-- The second set is part of the first. -/
def contains (a b : Motors) : Bool := a.bits &&& b.bits == b.bits

/-- The letters of the motors in a set. -/
def letters (m : Motors) : List String :=
  named.filterMap fun (letter, motor) =>
    if m.contains motor then some letter.toString else Option.none

/-- The letters with blanks between them. -/
def text (m : Motors) : String :=
  " ".intercalate m.letters

/-- The letters and, last, the bits without a motor in hexadecimal, with bars between them. -/
def flags (m : Motors) : String :=
  let rest := (m.diff all).bits.toNat
  let parts := if rest = 0 then [] else ["0x" ++ String.ofList (Nat.toDigits 16 rest)]
  " | ".intercalate (m.letters ++ parts)

end Motors

end VirtualPrinter.Machine
