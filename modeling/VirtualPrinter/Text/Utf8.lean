/-!
# Octets to text

Octets that are not well-formed UTF-8 still become a text: each longest part that starts a
character and cannot be finished, and each octet that starts none, becomes one replacement
character.  The machine reads one octet at a time and owes at most three more.

## Main definitions

* `Text.Utf8.Owed`: what is left to read of a started character.
* `Text.Utf8.decode`: the text of a sequence of octets.
-/

namespace VirtualPrinter.Text.Utf8

/-- The character that stands for octets without a meaning. -/
def replacement : Char := '\uFFFD'

/-- A started character: the octets still owed, the range of the next one, and the value so far. -/
structure Owed where
  count : Nat
  low : Nat
  high : Nat
  value : Nat

/-- What an octet between characters is: a character of its own, the start of a longer one, or
nothing. -/
inductive Start where
  | single (c : Char)
  | longer (owed : Owed)
  | invalid

/-- The first octet of a character.  The ranges of the second one leave out overlong forms,
surrogates and values beyond the last code point. -/
def start (b : Nat) : Start :=
  if b < 0x80 then .single (Char.ofNat b)
  else if b < 0xC2 then .invalid
  else if b < 0xE0 then .longer ⟨1, 0x80, 0xBF, b - 0xC0⟩
  else if b == 0xE0 then .longer ⟨2, 0xA0, 0xBF, 0⟩
  else if b == 0xED then .longer ⟨2, 0x80, 0x9F, 0xD⟩
  else if b < 0xF0 then .longer ⟨2, 0x80, 0xBF, b - 0xE0⟩
  else if b == 0xF0 then .longer ⟨3, 0x90, 0xBF, 0⟩
  else if b < 0xF4 then .longer ⟨3, 0x80, 0xBF, b - 0xF0⟩
  else if b == 0xF4 then .longer ⟨3, 0x80, 0x8F, 4⟩
  else .invalid

/-- What an octet between characters writes, and what it leaves owed. -/
def begin (b : Nat) : List Char × Option Owed :=
  match start b with
  | .single c => ([c], none)
  | .longer owed => ([], some owed)
  | .invalid => ([replacement], none)

/-- One octet: what it writes, and what is owed after it.  An octet that does not continue the
started character ends it, and starts anew. -/
def step : Option Owed → Nat → List Char × Option Owed
  | none, b => begin b
  | some owed, b =>
    if owed.low ≤ b ∧ b ≤ owed.high then
      let value := owed.value * 64 + (b - 0x80)
      if owed.count ≤ 1 then ([Char.ofNat value], none)
      else ([], some ⟨owed.count - 1, 0x80, 0xBF, value⟩)
    else
      let (written, next) := begin b
      (replacement :: written, next)

/-- The text of the octets that follow a started character. -/
def decodeFrom : Option Owed → List Nat → List Char
  | none, [] => []
  | some _, [] => [replacement]
  | owed, b :: rest =>
    let (written, next) := step owed b
    written ++ decodeFrom next rest

/-- The text of a sequence of octets. -/
def decode (octets : List Nat) : List Char :=
  decodeFrom none octets

end VirtualPrinter.Text.Utf8
