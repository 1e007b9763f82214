import VirtualPrinter.Json.Token
import VirtualPrinter.Json.Printer

/-!
# Quoted texts read back

Inside quotes a character is written as itself, as a backslash and a letter, or as a code of four
hexadecimal digits.  Each of them is cut off as one piece, and the pieces of a text amount to the
text again: a code stands for a control character, so that none is half of a surrogate pair.

## Main definitions

* `Json.pieceOf`: the piece that a character is written as.

## Main results

* `textToken_quoted`: behind its first quote, a quoted text is a token of the text.
-/

namespace VirtualPrinter.Json

/-- The piece that a character is written as: a control character without a letter of its own is
written by its code. -/
def pieceOf (c : Char) : Piece :=
  if c.toNat < 0x20 ∧ c ∉ ['\x08', '\t', '\n', '\x0c', '\r'] then .code c.toNat else .char c

/-! ### Cutting -/

theorem hexCode?_hexCode : ∀ n < 0x20,
    hexCode? '0' '0' (Nat.digitChar (n / 16)) (Nat.digitChar (n % 16)) = some n := by
  decide

theorem pieces_char {c : Char} (hq : c ≠ '"') (hb : c ≠ '\\') (hc : ¬c.toNat < 0x20)
    (rest : List Char) :
    pieces (c :: rest) = (.char c :: (pieces rest).1, (pieces rest).2) := by
  rw [pieces.eq_def]
  split <;> simp_all

theorem pieces_letter {letter c : Char} (hl : letterEscape? letter = some c) (rest : List Char) :
    pieces ('\\' :: letter :: rest) = (.char c :: (pieces rest).1, (pieces rest).2) := by
  have hu : letter ≠ 'u' := by
    rintro rfl
    cases hl
  rw [pieces.eq_def]
  simp [hl]

theorem pieces_code {n : Nat} (hn : n < 0x20) (rest : List Char) :
    pieces ('\\' :: 'u' :: hexCode n ++ rest) = (.code n :: (pieces rest).1, (pieces rest).2) := by
  simp only [hexCode, List.cons_append, List.nil_append]
  rw [pieces.eq_def]
  simp only [hexCode?_hexCode n hn]

/-- A character as it is written inside quotes is cut off as one piece. -/
theorem pieces_escape (c : Char) (rest : List Char) :
    pieces (escape c ++ rest) = (pieceOf c :: (pieces rest).1, (pieces rest).2) := by
  by_cases hl : c ∈ ['"', '\\', '\x08', '\t', '\n', '\x0c', '\r']
  · -- the characters with a letter of their own
    simp only [List.mem_cons, List.not_mem_nil, or_false] at hl
    rcases hl with rfl | rfl | rfl | rfl | rfl | rfl | rfl <;> exact pieces_letter rfl rest
  · simp only [List.mem_cons, List.not_mem_nil, or_false, not_or] at hl
    obtain ⟨hq, hb, h8, h9, h10, h12, h13⟩ := hl
    by_cases hc : c.toNat < 0x20
    · have hp : pieceOf c = .code c.toNat := by simp [pieceOf, *]
      have hne {d : Char} (h : c ≠ d) : (c.toNat == d.toNat) = false :=
        beq_false_of_ne fun he => h (Char.toNat_inj.mp he)
      have he : escape c = '\\' :: 'u' :: hexCode c.toNat := by
        have h8 : (c.toNat == 8) = false := hne h8
        have h9 : (c.toNat == 9) = false := hne h9
        have h10 : (c.toNat == 10) = false := hne h10
        have h12 : (c.toNat == 12) = false := hne h12
        have h13 : (c.toNat == 13) = false := hne h13
        simp only [escape, hq, hb, hc, h8, h9, h10, h12, h13, beq_iff_eq, Bool.false_eq_true,
          if_true, if_false]
      rw [hp, he]
      exact pieces_code hc rest
    · have hp : pieceOf c = .char c := by simp [pieceOf, hc]
      have he : escape c = [c] := by simp [escape, hq, hb, hc]
      rw [hp, he]
      exact pieces_char hq hb hc rest

/-- A text as it is written inside quotes is cut into one piece for each character. -/
theorem pieces_quoted (s rest : List Char) :
    pieces (s.flatMap escape ++ '"' :: rest) = (s.map pieceOf, .ok rest) := by
  induction s with
  | nil => rfl
  | cons c s ih =>
    rw [List.flatMap_cons, List.append_assoc, pieces_escape, ih]
    rfl

/-! ### Putting together -/

/-- A code of a control character stands for it, whatever follows. -/
theorem characters_code {n : Nat} (hn : n < 0x20) (stop : Except Fault (List Char))
    (ps : List Piece) :
    characters stop (.code n :: ps) = (characters stop ps).map (Char.ofNat n :: ·) := by
  have hl : isLeading n = false := by simp [isLeading]; omega
  have ht : isTrailing n = false := by simp [isTrailing]; omega
  cases ps with
  | nil =>
    simp only [characters, hl, ht, Bool.false_eq_true, if_false]
    cases stop <;> rfl
  | cons p ps => cases p <;> simp [characters, hl, ht]

theorem characters_pieceOf (c : Char) (stop : Except Fault (List Char)) (ps : List Piece) :
    characters stop (pieceOf c :: ps) = (characters stop ps).map (c :: ·) := by
  unfold pieceOf
  split
  · next h => rw [characters_code h.1, Char.ofNat_toNat]
  · rw [characters]

theorem characters_pieces (s rest : List Char) :
    characters (.ok rest) (s.map pieceOf) = .ok s := by
  induction s with
  | nil => rfl
  | cons c s ih =>
    rw [List.map_cons, characters_pieceOf, ih]
    rfl

/-- **A quoted text reads back**, whatever it holds and whatever follows it. -/
theorem textToken_quoted (s : String) (rest : List Char) :
    textToken (s.toList.flatMap escape ++ '"' :: rest) = (.text ⟨.ok s, .ok ()⟩, rest) := by
  simp only [textToken, pieces_quoted, characters_pieces, Except.map, String.ofList_toList]

end VirtualPrinter.Json
