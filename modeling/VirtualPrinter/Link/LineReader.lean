import VirtualPrinter.Link.Error
import VirtualPrinter.Text.Blank
import VirtualPrinter.Text.Utf8

/-!
# Frames as lines of octets

Each frame travels as one line that ends with a line feed.  Octets arrive in pieces of any size.
A line is given without the carriage returns at its end, and lines without anything else are passed
over.  What stands behind the last line feed counts as a frame, without the blanks at its end.

## Main definitions

* `Link.maxFrameSize`: no frame has more octets.
* `Link.Arrival`: what comes in on a socket.
* `LineReader.receive`: the text of the next frame.
* `LineReader.receiveAll`: the texts of all frames, up to the end or an error.
* `Link.lineOctets`: the line of a frame.
-/

namespace VirtualPrinter.Link

/-- The greatest number of octets in a frame. -/
def maxFrameSize : Nat := 65535

/-- What comes in on a socket. -/
inductive Arrival where
  | octets (octets : List UInt8)
  | ended
  | silence
deriving DecidableEq

/-- The octets that have come in and belong to no line yet. -/
structure LineReader where
  buffer : List UInt8
deriving DecidableEq

/-- The octet that ends a line. -/
def lineFeed : UInt8 := 10

/-- The octets of a line for a text. -/
def lineOctets (text : List Char) : List UInt8 :=
  text.flatMap String.utf8EncodeChar ++ [lineFeed]

namespace LineReader

/-- A reader before anything has come in. -/
def new : LineReader := ⟨[]⟩

/-- The octets before the first line feed, and those behind it. -/
def splitLine : List UInt8 → Option (List UInt8 × List UInt8)
  | [] => none
  | b :: rest =>
    if b = lineFeed then some ([], rest)
    else (splitLine rest).map fun (line, rest) => (b :: line, rest)

/-- The line is shorter than the octets it was split off from. -/
theorem length_of_splitLine {octets line rest : List UInt8}
    (h : splitLine octets = some (line, rest)) : rest.length < octets.length := by
  induction octets generalizing line rest with
  | nil => simp [splitLine] at h
  | cons b octets ih =>
    rw [splitLine] at h
    split at h
    · cases h; simp
    · cases hs : splitLine octets with
      | none => simp [hs] at h
      | some p =>
        obtain ⟨line', rest'⟩ := p
        simp only [hs, Option.map_some, Option.some.injEq, Prod.mk.injEq] at h
        have := ih hs
        simp only [List.length_cons, ← h.2]
        omega

/-- The text of a line, without the carriage returns at its end. -/
def lineText (octets : List UInt8) : List Char :=
  Text.dropEndWhile (· == '\r') (Text.Utf8.decode (octets.map UInt8.toNat))

/-- The text behind the last line, without the blanks at its end. -/
def remainderText (octets : List UInt8) : List Char :=
  Text.trimEnd (Text.Utf8.decode (octets.map UInt8.toNat))

/-- The first line with a text among the octets, and the octets behind it; if there is none, the
octets behind the last line. -/
def nextLine (octets : List UInt8) : Option (List Char) × List UInt8 :=
  match _h : splitLine octets with
  | none => (none, octets)
  | some (line, rest) =>
    if (lineText line).isEmpty then nextLine rest else (some (lineText line), rest)
termination_by octets.length
decreasing_by exact length_of_splitLine ‹_›

/-- What a reader gives once nothing more comes in: what stands behind the last line, and then
nothing. -/
def atEnd (octets : List UInt8) : Option (List Char) :=
  if octets.isEmpty then none else some (remainderText octets)

/-- The text of the next frame, or none at the end; the reader and the arrivals afterwards.  A
buffer that is too long for a frame and holds no line is reported before more is let in. -/
def receive (r : LineReader) (arrivals : List Arrival) :
    Except Error (Option (List Char)) × LineReader × List Arrival :=
  match nextLine r.buffer with
  | (some text, rest) => (.ok (some text), ⟨rest⟩, arrivals)
  | (none, rest) =>
    if maxFrameSize < rest.length then (.error (.frameTooLarge maxFrameSize), ⟨rest⟩, arrivals)
    else match arrivals with
      | .octets more :: arrivals => receive ⟨rest ++ more⟩ arrivals
      | .silence :: arrivals => (.error .readTimeout, ⟨rest⟩, arrivals)
      | .ended :: arrivals => (.ok (atEnd rest), new, arrivals)
      | [] => (.ok (atEnd rest), new, [])
termination_by structural arrivals

/-- The texts of at most `limit` frames, and how they end: with the end of the octets, or an
error. -/
def receiveWithin : Nat → LineReader → List Arrival → List (List Char) × Except Error Unit
  | 0, _, _ => ([], .ok ())
  | limit + 1, r, arrivals =>
    match r.receive arrivals with
    | (.error e, _, _) => ([], .error e)
    | (.ok none, _, _) => ([], .ok ())
    | (.ok (some text), r, arrivals) =>
      let (texts, ending) := receiveWithin limit r arrivals
      (text :: texts, ending)

/-- The number of octets among the arrivals. -/
def octetCount : List Arrival → Nat
  | [] => 0
  | .octets more :: rest => more.length + octetCount rest
  | _ :: rest => octetCount rest

/-- The texts of all frames, and how they end.  Each frame takes an octet at least. -/
def receiveAll (arrivals : List Arrival) : List (List Char) × Except Error Unit :=
  receiveWithin (octetCount arrivals + 1) new arrivals

end LineReader

end VirtualPrinter.Link
