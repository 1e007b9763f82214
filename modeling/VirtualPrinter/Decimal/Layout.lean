import VirtualPrinter.Decimal.Shortest

/-!
# How a shortest decimal is laid out

The digits of a float are those of `Binary.shortest`; a `Style` holds every further decision:
which magnitudes are written positionally, whether an integral value keeps `.0`, the sign of a
positive exponent, and the two texts of values that have no digits.

## Main definitions

* `Decimal.Style`: the decisions of one written form.
* `Style.write`: the text of a float.
* `Style.plain`, `Style.detailed`: the positional form, and the form that tells floats from
  integers.
-/

namespace VirtualPrinter.Decimal

open Float.Model.UnpackedFloat (Sign)

/-- The decisions of one written form of floats. -/
structure Style where
  /-- The exponents of the leading digit that are written positionally. -/
  positional : Int → Bool
  /-- An integral value keeps `.0` in positional form. -/
  pointZero : Bool
  /-- A positive exponent carries a sign. -/
  plusSign : Bool
  tie : Tie

/-- The digits of a natural number in base ten. -/
def digitsOf (n : Nat) : List Char :=
  Nat.toDigits 10 n

/-- `n` copies of the digit zero. -/
def zeros (n : Nat) : List Char :=
  List.replicate n '0'

/-- The digits with the point after position `point`, counted from the first digit; zeros fill the
gap on either side. -/
def positionalText (pointZero : Bool) (digits : List Char) (point : Int) : List Char :=
  if point ≤ 0 then '0' :: '.' :: (zeros (-point).toNat ++ digits)
  else if digits.length ≤ point.toNat then
    digits ++ zeros (point.toNat - digits.length) ++ (if pointZero then ['.', '0'] else [])
  else digits.take point.toNat ++ '.' :: digits.drop point.toNat

/-- One digit, the others behind a point, and the exponent of the first. -/
def scientificText (plusSign : Bool) (digits : List Char) (lead : Int) : List Char :=
  let fraction := match digits.drop 1 with
    | [] => []
    | rest => '.' :: rest
  let sign := if lead < 0 then ['-'] else if plusSign then ['+'] else []
  digits.take 1 ++ fraction ++ 'e' :: sign ++ digitsOf lead.natAbs

/-- The minus sign of a negative value. -/
def signText : Sign → List Char
  | .negative => ['-']
  | .positive => []

/-- The text of a positive binary64 number. -/
def Style.magnitude (style : Style) (x : Binary) : List Char :=
  let d := (x.shortest style.tie).stripZeros 400
  let digits := digitsOf d.digits
  let lead := d.exponent + digits.length - 1
  if style.positional lead then positionalText style.pointZero digits (lead + 1)
  else scientificText style.plusSign digits lead

/-- The text of a float; both zeros keep their sign. -/
def Style.write (style : Style) (x : Float) : List Char :=
  match x.toModel.unpack with
  | .notANumber => ['N', 'a', 'N']
  | .infinity s => signText s ++ ['i', 'n', 'f']
  | .zero s => signText s ++ '0' :: (if style.pointZero then ['.', '0'] else [])
  | .finite s m e _ => signText s ++ style.magnitude ⟨m, e⟩

/-- Every value is written positionally, and an integral one without a point. -/
def Style.plain : Style where
  positional := fun _ => true
  pointZero := false
  plusSign := false
  tie := .awayFromZero

/-- Values from `0.0001` up to `10 ^ 16` are positional, and an integral one keeps `.0`. -/
def Style.detailed : Style where
  positional := fun lead => decide (-4 ≤ lead ∧ lead ≤ 15)
  pointZero := true
  plusSign := false
  tie := .awayFromZero

end VirtualPrinter.Decimal
