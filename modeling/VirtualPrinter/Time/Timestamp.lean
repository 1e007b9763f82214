import VirtualPrinter.Time.Calendar
import VirtualPrinter.Text.Blank
import VirtualPrinter.Decimal.Reading

/-!
# Instants as text

An instant is written as date, time of day and `Z`, with the fewest of three, six or nine digits of
a second that are exact.  When read, blanks may stand between the parts, parts may have fewer
digits, and any offset from universal time is allowed; the instant read is the same one in
universal time.

## Main definitions

* `Time.Timestamp`: seconds from the start of 1970 and nanoseconds.
* `Timestamp.print`, `Timestamp.parse?`.
-/

namespace VirtualPrinter.Time

open Text (trimStart isBlank)

/-- An instant of universal time.  Within a leap second the nanoseconds exceed a second. -/
structure Timestamp where
  seconds : Int
  nanos : Nat
deriving DecidableEq, Repr

/-- A number in at least `width` digits. -/
def padded (width n : Nat) : List Char :=
  let digits := Nat.toDigits 10 n
  List.replicate (width - digits.length) '0' ++ digits

/-- A year: four digits, and with a sign outside of the years 0 to 9999. -/
def printYear (year : Int) : List Char :=
  if 0 ≤ year ∧ year ≤ 9999 then padded 4 year.toNat
  else (if year < 0 then '-' else '+') :: padded 4 year.natAbs

/-- The fraction of a second, in the fewest of no, three, six or nine digits. -/
def printFraction (nanos : Nat) : List Char :=
  if nanos = 0 then []
  else if nanos % 1000000 = 0 then '.' :: padded 3 (nanos / 1000000)
  else if nanos % 1000 = 0 then '.' :: padded 6 (nanos / 1000)
  else '.' :: padded 9 nanos

namespace Timestamp

/-- The text of an instant. -/
def print (t : Timestamp) : List Char :=
  let (year, month, day) := dateOf (t.seconds.fdiv 86400)
  let second := (t.seconds - t.seconds.fdiv 86400 * 86400).toNat
  let (leap, nanos) := if 1000000000 ≤ t.nanos then (1, t.nanos - 1000000000) else (0, t.nanos)
  printYear year ++ '-' :: padded 2 month ++ '-' :: padded 2 day ++
    'T' :: padded 2 (second / 3600) ++ ':' :: padded 2 (second / 60 % 60) ++
    ':' :: padded 2 (second % 60 + leap) ++ printFraction nanos ++ ['Z']

/-! ### Reading -/

/-- A number of at least one and at most `width` digits, behind blanks. -/
def number? (width : Nat) (text : List Char) : Option (Nat × List Char) :=
  let text := trimStart text
  let digits := (text.take width).takeWhile Char.isDigit
  if digits.isEmpty then none else some (Decimal.ofDigits digits, text.drop digits.length)

/-- A year: up to four digits, or a sign and any number of them. -/
def year? (text : List Char) : Option (Int × List Char) :=
  match trimStart text with
  | '-' :: rest => (signedYear? rest).map fun (n, rest) => (-(n : Int), rest)
  | '+' :: rest => (signedYear? rest).map fun (n, rest) => ((n : Int), rest)
  | rest => (number? 4 rest).map fun (n, rest) => ((n : Int), rest)
where
  /-- The digits behind a sign. -/
  signedYear? (text : List Char) : Option (Nat × List Char) :=
    let digits := text.takeWhile Char.isDigit
    if digits.isEmpty then none
    else some (Decimal.ofDigits digits, text.drop digits.length)

/-- A character, behind blanks. -/
def literal? (c : Char) (text : List Char) : Option (List Char) :=
  match trimStart text with
  | d :: rest => if d == c then some rest else none
  | [] => none

/-- A date. -/
def date? (text : List Char) : Option ((Int × Nat × Nat) × List Char) := do
  let (year, text) ← year? text
  let (month, text) ← number? 2 (← literal? '-' text)
  let (day, text) ← number? 2 (← literal? '-' text)
  return ((year, month, day), text)

/-- The nanoseconds behind a point: nine digits count, further ones are passed over. -/
def fraction? : List Char → Option (Nat × List Char)
  | '.' :: text =>
    let digits := text.takeWhile Char.isDigit
    if digits.isEmpty then none
    else
      let counted := digits.take 9
      some (Decimal.ofDigits counted * Nat.pow 10 (9 - counted.length), text.drop digits.length)
  | text => some (0, text)

/-- A time of day as hour, minute, second and nanoseconds. -/
def clock? (text : List Char) : Option ((Nat × Nat × Nat × Nat) × List Char) := do
  let (hour, text) ← number? 2 text
  let (minute, text) ← number? 2 (← literal? ':' text)
  let (second, text) ← number? 2 (← literal? ':' text)
  let (nanos, text) ← fraction? text
  return ((hour, minute, second, nanos), text)

/-- Two digits. -/
def twoDigits? : List Char → Option (Nat × List Char)
  | a :: b :: rest =>
    if a.isDigit && b.isDigit then some (Decimal.ofDigits [a, b], rest) else none
  | _ => none

/-- Hours and minutes of an offset, with colons or blanks between them, in seconds. -/
def hoursMinutes? (text : List Char) : Option (Int × List Char) := do
  let (hours, text) ← twoDigits? text
  let (minutes, text) ← twoDigits? (text.dropWhile fun c => c == ':' || isBlank c)
  if minutes < 60 then return (hours * 3600 + minutes * 60, text) else none

/-- The offset from universal time, in seconds. -/
def offset? (text : List Char) : Option (Int × List Char) :=
  if (text.take 3).map Char.toUpper == ['U', 'T', 'C'] then some (0, text.drop 3)
  else match text with
    | 'Z' :: rest | 'z' :: rest => some (0, rest)
    | '+' :: rest => hoursMinutes? rest
    | '-' :: rest | '−' :: rest => (hoursMinutes? rest).map fun (s, rest) => (-s, rest)
    | _ => none

/-- The second and the nanoseconds of a time of day; the sixtieth second is a leap second. -/
def leap? (second nanos : Nat) : Option (Nat × Nat) :=
  if second < 60 then some (second, nanos)
  else if second = 60 then some (59, nanos + 1000000000)
  else none

/-- The years that dates may have. -/
def yearInRange (year : Int) : Bool :=
  -262143 ≤ year && year ≤ 262142

/-- The instant that a text denotes. -/
def parse? (text : List Char) : Option Timestamp := do
  let ((year, month, day), text) ← date? text
  let text ← match text with
    | 't' :: rest | 'T' :: rest | ' ' :: rest => some rest
    | _ => none
  let ((hour, minute, second, nanos), text) ← clock? text
  let (offset, text) ← offset? (trimStart text)
  let (second, nanos) ← leap? second nanos
  if !(trimStart text).isEmpty then none
  else if !(yearInRange year && 1 ≤ month && month ≤ 12 && 1 ≤ day &&
      day ≤ daysInMonth year month) then none
  else if !(hour < 24 && minute < 60 && offset.natAbs < 86400) then none
  else
    let seconds := daysOf year month day * 86400 + (hour * 3600 + minute * 60 + second : Nat)
    let universal := seconds - offset
    if yearInRange (dateOf (universal.fdiv 86400)).1 then some ⟨universal, nanos⟩ else none

end Timestamp

end VirtualPrinter.Time
