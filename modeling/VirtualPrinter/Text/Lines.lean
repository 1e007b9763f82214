/-!
# The lines of a text

A line ends with a line feed, or with a carriage return and a line feed; the last line needs no
end.  A carriage return elsewhere belongs to its line.

## Main definitions

* `Text.splitOn`: the pieces between the occurrences of a character.
* `Text.lines`: the lines of a text.

## Main results

* `lines_ne_nil`: a text that is not empty has a line.
-/

namespace VirtualPrinter.Text

/-- The pieces between the occurrences of a character: one more than there are occurrences. -/
def splitOn (sep : Char) : List Char → List (List Char)
  | [] => [[]]
  | c :: rest =>
    if c == sep then [] :: splitOn sep rest
    else match splitOn sep rest with
      | [] => [[c]]
      | piece :: pieces => (c :: piece) :: pieces

/-- A line that was ended by a line feed, without the carriage return before it. -/
def dropReturn (line : List Char) : List Char :=
  match line.getLast? with
  | some '\r' => line.dropLast
  | _ => line

/-- The lines among the pieces between line feeds: all but the last were ended by one, and a last
piece that is empty is no line. -/
def ofPieces : List (List Char) → List (List Char)
  | [] => []
  | [last] => if last.isEmpty then [] else [last]
  | piece :: pieces => dropReturn piece :: ofPieces pieces

/-- The lines of a text. -/
def lines (text : List Char) : List (List Char) :=
  ofPieces (splitOn '\n' text)

theorem splitOn_ne_nil (sep : Char) (text : List Char) : splitOn sep text ≠ [] := by
  cases text with
  | nil => exact List.cons_ne_nil _ _
  | cons c rest =>
    rw [splitOn]
    split
    · exact List.cons_ne_nil _ _
    · split <;> exact List.cons_ne_nil _ _

/-- A text that is not empty has a line. -/
theorem lines_ne_nil {text : List Char} (h : text ≠ []) : lines text ≠ [] := by
  obtain ⟨c, rest, rfl⟩ := List.exists_cons_of_ne_nil h
  obtain ⟨piece, pieces, hp⟩ := List.exists_cons_of_ne_nil (splitOn_ne_nil '\n' rest)
  rw [lines, splitOn, hp]
  -- only an empty piece is no line, and only if it is the last
  split
  · exact List.cons_ne_nil _ _
  · cases pieces <;> exact List.cons_ne_nil _ _

end VirtualPrinter.Text
