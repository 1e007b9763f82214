/-!
# Decimal text to the nearest float

The grammar of decimal numerals: an optional sign, digits with at most one point among them and
at least one digit in all, and an optional exponent.  The value is the float nearest to the
numeral, a half going to the even one.  The words for infinities and for no number are numerals
too.

## Main definitions

* `Decimal.Numeral`: a signed decimal `digits * 10 ^ exponent`.
* `Decimal.nearest`: the float nearest to such a decimal.
* `Decimal.read?`: the float a text denotes.
-/

namespace VirtualPrinter.Decimal

/-- A run of decimal digits as a number, most significant digit first. -/
def ofDigits (ds : List Char) : Nat :=
  ds.foldl (fun n c => 10 * n + (c.toNat - '0'.toNat)) 0

/-- The float nearest to `digits * 10 ^ exponent`.  Beyond these bounds the value is zero or
infinite whatever the digits, so the power of ten is never formed. -/
def nearest (digits : Nat) (exponent : Int) : Float :=
  if digits = 0 then 0
  else
    let lead := exponent + (Nat.toDigits 10 digits).length
    if lead > 400 then Float.ofScientific 1 false 400
    else if lead < -400 then 0
    else Float.ofScientific digits (exponent < 0) exponent.natAbs

/-- Applies a sign. -/
def signed (negative : Bool) (x : Float) : Float :=
  if negative then -x else x

/-- The sign in front of a text, and the text behind it. -/
def takeSign : List Char → Bool × List Char
  | '-' :: rest => (true, rest)
  | '+' :: rest => (false, rest)
  | rest => (false, rest)

/-- The exponent part: nothing, or `e` with an optional sign and at least one digit. -/
def exponent? : List Char → Option Int
  | [] => some 0
  | c :: rest =>
    if c == 'e' || c == 'E' then
      let (negative, digits) := takeSign rest
      if digits.isEmpty || !digits.all Char.isDigit then none
      else some (if negative then -(ofDigits digits : Int) else ofDigits digits)
    else none

/-- An unsigned decimal numeral. -/
def unsigned? (text : List Char) : Option Float :=
  let whole := text.takeWhile Char.isDigit
  let rest := text.dropWhile Char.isDigit
  let (fraction, rest) := match rest with
    | '.' :: more => (more.takeWhile Char.isDigit, more.dropWhile Char.isDigit)
    | _ => ([], rest)
  if whole.isEmpty && fraction.isEmpty then none
  else (exponent? rest).map fun e => nearest (ofDigits (whole ++ fraction)) (e - fraction.length)

/-- The words that denote a float without digits, in any case of letters. -/
def word? (text : List Char) : Option Float :=
  match String.ofList (text.map Char.toLower) with
  | "inf" | "infinity" => some (1 / 0)
  | "nan" => some (0 / 0)
  | _ => none

/-- The float that a text denotes. -/
def read? (text : List Char) : Option Float :=
  let (negative, rest) := takeSign text
  ((unsigned? rest).orElse fun _ => word? rest).map (signed negative)

end VirtualPrinter.Decimal
