import VirtualPrinter.Decimal.Layout
import VirtualPrinter.Decimal.Reading

/-!
# Parameter words

The text behind a code is a sequence of words: a letter, and directly behind it a run of digits,
points and signs.  The value of a letter is the first among its words that holds a number; a word
without one still names its letter.  Everything between words is passed over.

## Main definitions

* `Gcode.Word`, `Gcode.words`: the words of a text, in order.
* `Words.get?`, `Words.has`: the value of a letter, and whether it occurs.
* `Words.describe`: the letters that occur, with their values.
-/

namespace VirtualPrinter.Gcode

/-- A letter and the number behind it, if there is one. -/
structure Word where
  letter : Char
  value : Option Float

/-- The words of a text. -/
abbrev Words := List Word

/-- The characters that a number is written with. -/
def isNumberChar (c : Char) : Bool :=
  c.isDigit || c == '.' || c == '-' || c == '+'

/-- The finite number that a run of number characters denotes. -/
def wordValue (run : List Char) : Option Float :=
  (Decimal.read? run).filter Float.isFinite

/-- The words of a text.  No number character is a letter, so none of a number starts a word. -/
def words : List Char → Words
  | [] => []
  | c :: rest =>
    if c.isAlpha then ⟨c.toUpper, wordValue (rest.takeWhile isNumberChar)⟩ :: words rest
    else words rest

namespace Words

/-- The value of a letter, in either case. -/
def get? (ws : Words) (letter : Char) : Option Float :=
  ws.findSome? fun w => if w.letter == letter.toUpper then w.value else none

/-- The value of a letter, or a default. -/
def getD (ws : Words) (letter : Char) (default : Float) : Float :=
  (ws.get? letter).getD default

/-- The letter occurs, with or without a value. -/
def has (ws : Words) (letter : Char) : Bool :=
  ws.any fun w => w.letter == letter.toUpper

/-- The letters, in order. -/
def alphabet : List Char :=
  "ABCDEFGHIJKLMNOPQRSTUVWXYZ".toList

/-- A letter and its value, as diagnostics show them. -/
def showEntry (ws : Words) (letter : Char) : String :=
  let value := match ws.get? letter with
    | some x => "Some(" ++ String.ofList (Decimal.Style.detailed.write x) ++ ")"
    | none => "None"
  "'" ++ letter.toString ++ "': " ++ value

/-- The letters that occur, in order, with their values. -/
def describe (ws : Words) : String :=
  "\x7b" ++ ", ".intercalate ((alphabet.filter ws.has).map ws.showEntry) ++ "\x7d"

end Words

end VirtualPrinter.Gcode
