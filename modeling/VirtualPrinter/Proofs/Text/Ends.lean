import VirtualPrinter.Text.Blank
import Mathlib.Data.List.DropRight

/-!
# The ends of a text

A text is cut before the characters of a class that stand at its end, and trimmed of the blanks on either
side.

## Main results

* `eq_dropEndWhile_iff`: what is left is the front of the text that does not end in the class and has
  nothing but the class behind it.
* `dropEndWhile_dropEndWhile`: a cut by a class undoes one by a part of the class.
* `trim_append_blanks`, `trim_append_of_solid`: what blanks and other characters do to trimming.
* `trim_eq_nil_of_blank`: nothing is left of a text of blanks alone.
-/

namespace VirtualPrinter.Text

variable {p q : Char → Bool} {text core ends blanks s : List Char}

/-! ### Cuts -/

theorem dropEndWhile_prefix (p : Char → Bool) (text : List Char) : dropEndWhile p text <+: text :=
  List.rdropWhile_prefix p text

theorem dropEndWhile_append (h : ∀ c ∈ ends, p c) (core : List Char) :
    dropEndWhile p (core ++ ends) = dropEndWhile p core := by
  have hback : ∀ c ∈ ends.reverse, p c := fun c hc => h c (List.mem_reverse.mp hc)
  rw [dropEndWhile, List.reverse_append, List.dropWhile_append_of_pos hback, ← dropEndWhile.eq_def]

/-- The characters that are cut off. -/
theorem exists_dropEndWhile_append (p : Char → Bool) (text : List Char) :
    ∃ ends, text = dropEndWhile p text ++ ends ∧ ∀ c ∈ ends, p c :=
  ⟨text.rtakeWhile p, List.rdropWhile_append_rtakeWhile.symm, fun _ => List.mem_rtakeWhile_imp⟩

theorem dropEndWhile_eq_self_iff :
    dropEndWhile p text = text ↔ ∀ c, text.getLast? = some c → p c = false := by
  refine List.rdropWhile_eq_self_iff.trans ?_
  rcases List.eq_nil_or_concat text with rfl | ⟨front, last, rfl⟩
  · simp
  · simp

theorem getLast?_dropEndWhile {c : Char} (h : (dropEndWhile p text).getLast? = some c) : p c = false :=
  dropEndWhile_eq_self_iff.mp (List.rdropWhile_idempotent p text) c h

theorem eq_dropEndWhile_iff :
    core = dropEndWhile p text ↔
      (∃ ends, text = core ++ ends ∧ ∀ c ∈ ends, p c) ∧ ∀ c, core.getLast? = some c → p c = false := by
  constructor
  · rintro rfl
    exact ⟨exists_dropEndWhile_append p text, fun _ => getLast?_dropEndWhile⟩
  · rintro ⟨⟨ends, rfl, hends⟩, hcore⟩
    rw [dropEndWhile_append hends, dropEndWhile_eq_self_iff.mpr hcore]

theorem dropEndWhile_dropEndWhile (h : ∀ c, p c → q c) (text : List Char) :
    dropEndWhile q (dropEndWhile p text) = dropEndWhile q text := by
  obtain ⟨ends, hsplit, hends⟩ := exists_dropEndWhile_append p text
  conv_rhs => rw [hsplit]
  exact (dropEndWhile_append (fun c hc => h c (hends c hc)) _).symm

/-! ### Outer blanks -/

theorem trimStart_blanks_append (h : ∀ c ∈ blanks, isBlank c) (text : List Char) :
    trimStart (blanks ++ text) = trimStart text :=
  List.dropWhile_append_of_pos h

/-- Characters at the end that are no blanks keep what is in front of them. -/
theorem trimEnd_append_of_solid (hs : s ≠ []) (h : ∀ c ∈ s, isBlank c = false) (t : List Char) :
    trimEnd (s ++ t) = s ++ trimEnd t := by
  rw [trimEnd, trimEnd, dropEndWhile, dropEndWhile, List.reverse_append, List.dropWhile_append]
  -- read from its end: blanks alone stand behind `s`, or something else that ends the cut
  cases hrest : t.reverse.dropWhile isBlank with
  | cons c rest => simp
  | nil =>
    obtain ⟨init, last, rfl⟩ := List.eq_nil_or_concat s |>.resolve_left hs
    have hlast : isBlank last = false := h last (by simp)
    simp [hlast]

/-- Blanks behind a text do not outlive its trimming, also where nothing else is left. -/
theorem trim_append_blanks (h : ∀ c ∈ blanks, isBlank c) (text : List Char) :
    trim (text ++ blanks) = trim text := by
  rw [trim, trim, trimStart, List.dropWhile_append]
  -- with a text of blanks alone they go from the front, with any other from the end
  cases hrest : text.dropWhile isBlank with
  | nil =>
    have hall : blanks.dropWhile isBlank = [] := List.dropWhile_eq_nil_iff.mpr h
    simp [hall, trimStart, hrest]
  | cons c rest =>
    rw [if_neg (by simp), trimStart, hrest]
    exact dropEndWhile_append h _

/-- A trimmed text does not end in a blank, so that one of blanks alone is nothing. -/
theorem trim_eq_nil_of_blank (h : ∀ c ∈ trim text, isBlank c) : trim text = [] := by
  cases hlast : (trim text).getLast? with
  | none => exact List.getLast?_eq_none_iff.mp hlast
  | some last =>
    have hblank : isBlank last := h last (List.mem_of_getLast? hlast)
    rw [getLast?_dropEndWhile hlast] at hblank
    cases hblank

/-- A text that starts with characters that are no blanks. -/
theorem trim_append_of_solid (hs : s ≠ []) (h : ∀ c ∈ s, isBlank c = false) (t : List Char) :
    trim (s ++ t) = s ++ trimEnd t := by
  have hstart : trimStart (s ++ t) = s ++ t := by
    cases s with
    | nil => exact absurd rfl hs
    | cons c s => simp [trimStart, h c List.mem_cons_self]
  rw [trim, hstart, trimEnd_append_of_solid hs h]

end VirtualPrinter.Text
