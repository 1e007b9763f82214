import VirtualPrinter.Json.Numeral

/-!
# The tokens of a JSON text

A text is cut into tokens once, whatever is read from it afterwards.  Quoted texts, numbers and
words carry two outcomes: what a reader that needs the value gets, and whether a reader that only
passes over it may go on.  Passing over a text does not pair surrogates, and passing over a number
does not compute it; a number that is cut short counts as malformed there.

## Main definitions

* `Json.Token`.
* `Json.tokens`: the tokens of a text, up to the first that cannot be passed over.
-/

namespace VirtualPrinter.Json

/-- The two kinds of brackets. -/
inductive Bracket where
  | square
  | curly
deriving DecidableEq, Repr

/-- What a reader gets from a token with a value, and what one that passes over it gets. -/
structure Lexeme (α : Type) where
  value : Except Fault α
  skipped : Except Fault Unit

/-- A token; `stray` is a character that starts none. -/
inductive Token where
  | opening (b : Bracket)
  | closing (b : Bracket)
  | comma
  | colon
  | word (w : Except Fault Value)
  | number (n : Lexeme Number)
  | text (s : Lexeme String)
  | stray

/-- The blanks between tokens. -/
def isSpace (c : Char) : Bool :=
  c == ' ' || c == '\n' || c == '\t' || c == '\r'

/-- A lexeme that neither reader gets past. -/
def Lexeme.broken {α : Type} (fault passing : Fault) : Lexeme α :=
  ⟨.error fault, .error passing⟩

/-! ### Words -/

/-- The letters of a word; the text behind them. -/
def expect : List Char → List Char → Except Fault (List Char)
  | [], rest => .ok rest
  | _ :: _, [] => .error .truncated
  | w :: ws, c :: rest => if c == w then expect ws rest else .error .malformed

/-- The word that a first letter announces. -/
def wordOf? : Char → Option (List Char × Value)
  | 'n' => some (['u', 'l', 'l'], .null)
  | 't' => some (['r', 'u', 'e'], .bool true)
  | 'f' => some (['a', 'l', 's', 'e'], .bool false)
  | _ => none

/-! ### Numbers -/

/-- A part of a number with at least one digit: the digits, and the text behind them. -/
def someDigits (text : List Char) : Except Fault (List Char × List Char) :=
  match text.takeWhile Char.isDigit, text.dropWhile Char.isDigit with
  | [], [] => .error .truncated
  | [], _ :: _ => .error .malformed
  | digits, rest => .ok (digits, rest)

/-- The digits before the point: a leading zero stands alone. -/
def wholePart (text : List Char) : Except Fault (List Char × List Char) :=
  match someDigits text with
  | .ok ('0' :: _ :: _, _) => .error .malformed
  | part => part

/-- A point and digits, if there is a point. -/
def fractionPart : List Char → Except Fault (Option (List Char) × List Char)
  | '.' :: rest => (someDigits rest).map fun (digits, rest) => (some digits, rest)
  | rest => .ok (none, rest)

/-- The letter of the exponent, a sign and digits, if there is the letter. -/
def exponentPart : List Char → Except Fault (Option (Bool × List Char) × List Char)
  | [] => .ok (none, [])
  | c :: rest =>
    if c == 'e' || c == 'E' then
      let (below, rest) := Decimal.takeSign rest
      (someDigits rest).map fun (digits, rest) => (some (below, digits), rest)
    else .ok (none, c :: rest)

/-- A number as written, without its sign; the text behind it. -/
def numeral (negative : Bool) (text : List Char) : Except Fault (Numeral × List Char) := do
  let (whole, rest) ← wholePart text
  let (fraction, rest) ← fractionPart rest
  let (exponent, rest) ← exponentPart rest
  return (⟨negative, whole, fraction, exponent⟩, rest)

/-! ### Quoted texts -/

/-- A piece of a quoted text: a character, or a code of sixteen bits. -/
inductive Piece where
  | char (c : Char)
  | code (n : Nat)

/-- The value of a hexadecimal digit. -/
def hexDigit? (c : Char) : Option Nat :=
  if c.isDigit then some (c.toNat - '0'.toNat)
  else if 'a' ≤ c ∧ c ≤ 'f' then some (c.toNat - 'a'.toNat + 10)
  else if 'A' ≤ c ∧ c ≤ 'F' then some (c.toNat - 'A'.toNat + 10)
  else none

/-- The value of four hexadecimal digits. -/
def hexCode? (a b c d : Char) : Option Nat := do
  let a ← hexDigit? a
  let b ← hexDigit? b
  let c ← hexDigit? c
  let d ← hexDigit? d
  return ((a * 16 + b) * 16 + c) * 16 + d

/-- Fewer than four octets are left of a text. -/
def lessThanFour (text : List Char) : Bool :=
  (text.take 4).foldl (fun n c => n + c.utf8Size) 0 < 4

/-- The character of a one-letter escape. -/
def letterEscape? : Char → Option Char
  | '"' => some '"'
  | '\\' => some '\\'
  | '/' => some '/'
  | 'b' => some '\x08'
  | 'f' => some '\x0c'
  | 'n' => some '\n'
  | 'r' => some '\r'
  | 't' => some '\t'
  | _ => none

/-- The pieces up to the closing quote and the text behind it, or what stops before it. -/
def pieces : List Char → List Piece × Except Fault (List Char)
  | [] => ([], .error .truncated)
  | '"' :: rest => ([], .ok rest)
  | ['\\'] => ([], .error .truncated)
  | '\\' :: 'u' :: rest =>
    match rest with
    | a :: b :: c :: d :: rest =>
      match hexCode? a b c d with
      | some n => let (ps, stop) := pieces rest; (.code n :: ps, stop)
      | none => ([], .error .malformed)
    | short => ([], .error (if lessThanFour short then .truncated else .malformed))
  | '\\' :: c :: rest =>
    match letterEscape? c with
    | some c => let (ps, stop) := pieces rest; (.char c :: ps, stop)
    | none => ([], .error .malformed)
  | c :: rest =>
    if c.toNat < 0x20 then ([], .error .malformed)
    else let (ps, stop) := pieces rest; (.char c :: ps, stop)

/-- The first code of a surrogate pair. -/
def isLeading (n : Nat) : Bool := 0xD800 ≤ n && n ≤ 0xDBFF

/-- The second code of a surrogate pair. -/
def isTrailing (n : Nat) : Bool := 0xDC00 ≤ n && n ≤ 0xDFFF

/-- The characters of the pieces.  A surrogate without its partner is malformed; where the pieces
stop after the first of a pair, what stopped them counts. -/
def characters (stop : Except Fault (List Char)) : List Piece → Except Fault (List Char)
  | [] => stop.map fun _ => []
  | .char c :: rest => (characters stop rest).map (c :: ·)
  | [.code n] =>
    if isTrailing n then .error .malformed
    else if isLeading n then
      match stop with
      | .ok _ => .error .malformed
      | .error fault => .error fault
    else stop.map fun _ => [Char.ofNat n]
  | .code n :: .char c :: rest =>
    if isTrailing n || isLeading n then .error .malformed
    else (characters stop (.char c :: rest)).map (Char.ofNat n :: ·)
  | .code n :: .code m :: rest =>
    if isTrailing n then .error .malformed
    else if isLeading n then
      if isTrailing m then
        (characters stop rest).map
          (Char.ofNat (0x10000 + (n - 0xD800) * 0x400 + (m - 0xDC00)) :: ·)
      else .error .malformed
    else (characters stop (.code m :: rest)).map (Char.ofNat n :: ·)

/-! ### The whole text -/

/-- The token of a number and the text behind it; nothing behind one that is cut short. -/
def numberToken (negative : Bool) (text : List Char) : Token × List Char :=
  match numeral negative text with
  | .ok (n, rest) => (.number ⟨n.value, .ok ()⟩, rest)
  | .error fault => (.number (.broken fault .malformed), [])

/-- The token of a quoted text, behind its first quote. -/
def textToken (text : List Char) : Token × List Char :=
  let (ps, stop) := pieces text
  (.text ⟨(characters stop ps).map String.ofList, stop.map fun _ => ()⟩,
    match stop with
    | .ok rest => rest
    | .error _ => [])

/-- The token at the start of a text, and the text behind it. -/
def token (c : Char) (rest : List Char) : Token × List Char :=
  if c == '[' then (.opening .square, rest)
  else if c == '{' then (.opening .curly, rest)
  else if c == ']' then (.closing .square, rest)
  else if c == '}' then (.closing .curly, rest)
  else if c == ',' then (.comma, rest)
  else if c == ':' then (.colon, rest)
  else if c == '"' then textToken rest
  else if c == '-' then numberToken true rest
  else if c.isDigit then numberToken false (c :: rest)
  else match wordOf? c with
    | some (letters, value) =>
      match expect letters rest with
      | .ok rest => (.word (.ok value), rest)
      | .error fault => (.word (.error fault), [])
    | none => (.stray, [])

/-- The tokens of a text, at most `limit` of them. -/
def tokensWithin : Nat → List Char → List Token
  | 0, _ => []
  | limit + 1, text =>
    match text.dropWhile isSpace with
    | [] => []
    | c :: rest =>
      let (t, rest) := token c rest
      t :: tokensWithin limit rest

/-- The tokens of a text.  Each takes a character, so there are at most as many. -/
def tokens (text : List Char) : List Token :=
  tokensWithin text.length text

end VirtualPrinter.Json
