import VirtualPrinter.Text.Lines

/-!
# Texts that are put together from lines

Cutting a text at its line feeds is the same for every part of it that ends with one.  So a text that
was put together from lines has these lines again, and the lines of two texts with a line feed between
them are those of the two, up to the end of the first: its last piece becomes a line that has been
ended.

## Main results

* `lines_append`, `filterMap_lines_append`: the lines of two texts with a line feed between them.
* `lines_flatMap`: the lines of a text that was put together from lines.
-/

namespace VirtualPrinter.Text

/-- The pieces are those of the standard library. -/
theorem splitOn_eq (sep : Char) (text : List Char) : splitOn sep text = text.splitOn sep := by
  induction text with
  | nil => rfl
  | cons c rest ih =>
    rw [splitOn, List.splitOn_cons_eq_if_modifyHead, ih]
    split
    · rfl
    · obtain ⟨piece, pieces, hp⟩ := List.exists_cons_of_ne_nil (List.splitOn_ne_nil sep rest)
      rw [hp]
      rfl

theorem splitOn_append_cons (sep : Char) (s t : List Char) :
    splitOn sep (s ++ sep :: t) = splitOn sep s ++ splitOn sep t := by
  rw [splitOn_eq, List.splitOn_append_cons_self, ← splitOn_eq, ← splitOn_eq]

theorem splitOn_of_not_mem {sep : Char} {text : List Char} (h : sep ∉ text) :
    splitOn sep text = [text] := by
  rw [splitOn_eq, List.splitOn_eq_singleton h]

theorem mem_of_mem_splitOn {sep : Char} {text piece : List Char} (hp : piece ∈ splitOn sep text)
    {c : Char} (hc : c ∈ piece) : c ∈ text := by
  induction text generalizing piece with
  | nil =>
    obtain rfl := List.mem_singleton.mp hp
    exact hc
  | cons a rest ih =>
    obtain ⟨first, pieces, hrest⟩ := List.exists_cons_of_ne_nil (splitOn_ne_nil sep rest)
    rw [splitOn, hrest] at hp
    rw [hrest] at ih
    split at hp
    · rcases List.mem_cons.mp hp with rfl | hp
      · cases hc
      · exact List.mem_cons_of_mem _ (ih hp hc)
    · rcases List.mem_cons.mp hp with rfl | hp
      · rcases List.mem_cons.mp hc with rfl | hc
        · exact List.mem_cons_self
        · exact List.mem_cons_of_mem _ (ih List.mem_cons_self hc)
      · exact List.mem_cons_of_mem _ (ih (List.mem_cons_of_mem _ hp) hc)

/-- All pieces but the last were ended. -/
theorem ofPieces_append (ended : List (List Char)) {pieces : List (List Char)} (h : pieces ≠ []) :
    ofPieces (ended ++ pieces) = ended.map dropReturn ++ ofPieces pieces := by
  induction ended with
  | nil => rfl
  | cons piece ended ih =>
    obtain ⟨next, rest, hnext⟩ : ∃ next rest, ended ++ pieces = next :: rest :=
      List.exists_cons_of_ne_nil (by simp [h])
    rw [hnext] at ih
    rw [List.cons_append, hnext, ofPieces, ih, List.map_cons, List.cons_append]
    nofun

/-- **The lines of two texts with a line feed between them.** -/
theorem lines_append (s t : List Char) :
    lines (s ++ '\n' :: t) = (splitOn '\n' s).map dropReturn ++ lines t := by
  rw [lines, splitOn_append_cons, ofPieces_append _ (splitOn_ne_nil _ _), lines]

section

variable {α : Type} {f : List Char → Option α}

/-- What is asked of the lines may be asked of the pieces, if it depends neither on a return at the end
nor on lines without characters. -/
theorem filterMap_lines (hreturn : ∀ line, f (dropReturn line) = f line) (hnil : f [] = none)
    (text : List Char) : (lines text).filterMap f = (splitOn '\n' text).filterMap f := by
  unfold lines
  induction splitOn '\n' text with
  | nil => rfl
  | cons piece pieces ih =>
    cases pieces with
    | nil => cases piece <;> simp [ofPieces, hnil]
    | cons next pieces => rw [ofPieces, List.filterMap_cons, List.filterMap_cons, ih, hreturn]; nofun

/-- Then two texts with a line feed between them have the lines of the two. -/
theorem filterMap_lines_append (hreturn : ∀ line, f (dropReturn line) = f line) (hnil : f [] = none)
    (s t : List Char) :
    (lines (s ++ '\n' :: t)).filterMap f = (lines s).filterMap f ++ (lines t).filterMap f := by
  rw [filterMap_lines hreturn hnil, splitOn_append_cons, List.filterMap_append,
    ← filterMap_lines hreturn hnil, ← filterMap_lines hreturn hnil]

end

/-- **A text that was put together from lines has these lines.** -/
theorem lines_flatMap {ls : List (List Char)} (h : ∀ line ∈ ls, '\n' ∉ line)
    (hends : ∀ line ∈ ls, dropReturn line = line) : lines (ls.flatMap (· ++ ['\n'])) = ls := by
  induction ls with
  | nil => rfl
  | cons line ls ih =>
    rw [List.forall_mem_cons] at h hends
    rw [List.flatMap_cons, List.append_assoc, List.singleton_append, lines_append,
      splitOn_of_not_mem h.1, ih h.2 hends.2, List.map_singleton, hends.1, List.singleton_append]

end VirtualPrinter.Text
