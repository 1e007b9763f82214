import VirtualPrinter.Proofs.Gcode.Token
import VirtualPrinter.Proofs.Text.Utf8

/-!
# Codes among the octets of a line

A line may as well be looked at as its octets: for each code as many of them are cut off as the code
has, the case of letters is levelled octet by octet, and the character that follows is read from what
is left.  A character takes up to four octets, so a cut may fall into the middle of one.  A first part
that ends there is not made, and the code does not fit; to take what is left from such a place on would
be a fault.  No line leads to one, and the outcome is that of the characters.

## Main definitions

* `Utf8.isBoundary`: the positions where octets may be cut.
* `Gcode.scan`: the operation that a line names, by its octets, unless a fault is met.

## Main results

* `Utf8.isBoundary_encode_iff`: these positions are the ends of characters.
* `tryCode_encode`: a code fits the octets if it fits the characters.
* `scan_encode`: no fault is met, and the operation is the one of the characters.
-/

namespace VirtualPrinter.Text.Utf8

/-- An octet that starts a character; the others continue one. -/
def startsCharacter (b : Nat) : Bool := b < 0x80 || 0xC0 ≤ b

/-- A position at either end of the octets, or before an octet that starts a character. -/
def isBoundary (octets : List Nat) (n : Nat) : Bool :=
  n == 0 || n == octets.length || octets[n]?.any startsCharacter

/-- An octet with its letter in lower case. -/
def lowerOctet (b : Nat) : Nat := if 65 ≤ b ∧ b ≤ 90 then b + 32 else b

@[simp] theorem encode_nil : encode [] = [] := rfl

theorem encode_append (s t : List Char) : encode (s ++ t) = encode s ++ encode t := by
  simp [encode]

theorem encode_inj {s t : List Char} (h : encode s = encode t) : s = t := by
  rw [← decode_encode s, h, decode_encode]

/-! ### The octets of a character -/

/-- What the octets of a character are: itself, or the start of a longer one and what continues it. -/
theorem utf8EncodeChar_cases (c : Char) :
    (c.toNat < 0x80 ∧ (String.utf8EncodeChar c).map UInt8.toNat = [c.toNat]) ∨
    ∃ b rest, 0x80 ≤ c.toNat ∧ (String.utf8EncodeChar c).map UInt8.toNat = b :: rest ∧ 0xC0 ≤ b ∧
      ∀ b ∈ rest, 0x80 ≤ b ∧ b < 0xC0 := by
  have hv : c.val.toNat = c.toNat := rfl
  unfold String.utf8EncodeChar
  simp only [hv]
  split
  · refine .inl ⟨by omega, ?_⟩
    rw [List.map_singleton, toNat_octet (by omega)]
  · right
    -- two, three or four octets
    repeat' split
    all_goals
      refine ⟨_, _, by omega, rfl, ?_, ?_⟩
      · rw [toNat_octet (by omega)]
        omega
      · simp (disch := omega) only [List.map_cons, List.map_nil, toNat_octet, List.mem_cons,
          List.not_mem_nil, or_false]
        omega

/-- The first octet of a character starts it, and the others do not. -/
theorem utf8EncodeChar_starts (c : Char) :
    ∃ b rest, (String.utf8EncodeChar c).map UInt8.toNat = b :: rest ∧ startsCharacter b ∧
      ∀ b ∈ rest, startsCharacter b = false := by
  rcases utf8EncodeChar_cases c with ⟨hc, h⟩ | ⟨b, rest, -, h, hb, hrest⟩
  · exact ⟨_, _, h, by simp [startsCharacter, hc], nofun⟩
  · refine ⟨b, rest, h, by simp [startsCharacter, hb], fun b hmem => ?_⟩
    have := hrest b hmem
    simp only [startsCharacter, Bool.or_eq_false_iff, decide_eq_false_iff_not]
    omega

/-- Octets are levelled as letters are. -/
theorem map_lowerOctet (text : List Char) :
    (encode text).map lowerOctet = encode (text.map Char.toLower) := by
  induction text with
  | nil => rfl
  | cons c text ih =>
    rw [encode_cons, List.map_append, ih, List.map_cons, encode_cons]
    congr 1
    have hlower := toNat_toLower c
    rcases utf8EncodeChar_cases c with ⟨hc, h⟩ | ⟨b, rest, hc, h, hb, hrest⟩
    · rcases utf8EncodeChar_cases c.toLower with ⟨-, h'⟩ | ⟨_, _, hc', -⟩
      · rw [h, h', List.map_singleton, lowerOctet, hlower]
      · rw [hlower] at hc'
        split at hc' <;> omega
    · -- no octet of a longer character is that of a letter
      have hself : c.toLower = c := Char.toNat_inj.mp (by rw [hlower, if_neg (by omega)])
      rw [hself, h, List.map_congr_left (g := id), List.map_id]
      intro b' hmem
      rcases List.mem_cons.mp hmem with rfl | hmem
      · rw [lowerOctet, if_neg (by omega), id]
      · have := hrest b' hmem
        rw [lowerOctet, if_neg (by omega), id]

theorem map_lowerOctet_eq_iff {s t : List Char} :
    (encode s).map lowerOctet = (encode t).map lowerOctet ↔ SameLetters s t := by
  rw [map_lowerOctet, map_lowerOctet]
  exact ⟨encode_inj, congrArg encode⟩

theorem length_encode_of_sameLetters {s t : List Char} (h : SameLetters s t) :
    (encode s).length = (encode t).length := by
  simpa using congrArg List.length (map_lowerOctet_eq_iff.mpr h)

/-! ### Boundaries -/

/-- The octets of a text start with a character. -/
theorem startsCharacter_head (text : List Char) : ∀ b ∈ (encode text)[0]?, startsCharacter b := by
  cases text with
  | nil => nofun
  | cons c text =>
    obtain ⟨b, rest, h, hb, -⟩ := utf8EncodeChar_starts c
    rw [encode_cons, h]
    rintro _ ⟨⟩
    exact hb

/-- Behind the first character the boundaries are those of what follows. -/
theorem isBoundary_encode_cons (c : Char) (text : List Char) (n : Nat) :
    isBoundary (encode (c :: text)) n ↔
      n = 0 ∨ (encode [c]).length ≤ n ∧ isBoundary (encode text) (n - (encode [c]).length) := by
  obtain ⟨b, rest, h, hb, hrest⟩ := utf8EncodeChar_starts c
  have hfirst : encode [c] = b :: rest := by rw [encode_cons, h]; exact List.append_nil _
  rw [isBoundary, encode_cons, h, hfirst, List.length_cons]
  rcases Nat.lt_or_ge n (rest.length + 1) with hn | hn
  · -- at the start of the first character, or inside of it
    cases n with
    | zero => simp
    | succ i =>
      have hi : i < rest.length := by omega
      have hinside : startsCharacter rest[i] = false := hrest _ (List.getElem_mem hi)
      have hget : (b :: rest ++ encode text)[i + 1]? = some rest[i] := by
        rw [List.getElem?_append_left (by simpa using hi), List.getElem?_cons_succ,
          List.getElem?_eq_getElem hi]
      have hend : (i + 1 == (b :: rest ++ encode text).length) = false := by
        rw [beq_eq_false_iff_ne, List.length_append, List.length_cons]
        omega
      rw [hget, hend, Option.any_some, hinside]
      exact iff_of_false (by simp) (by omega)
  · obtain ⟨m, rfl⟩ := Nat.exists_eq_add_of_le hn
    have hget : (b :: rest ++ encode text)[rest.length + 1 + m]? = (encode text)[m]? := by
      rw [List.getElem?_append_right (by simp)]
      simp
    have hend : (rest.length + 1 + m == (b :: rest ++ encode text).length) =
        (m == (encode text).length) := by
      rw [Bool.eq_iff_iff, beq_iff_eq, beq_iff_eq, List.length_append, List.length_cons]
      omega
    have hpos : (rest.length + 1 + m == 0) = false := by simp
    have hsub : rest.length + 1 + m - (rest.length + 1) = m := by omega
    rw [hget, hend, hpos, hsub, isBoundary]
    cases m with
    | succ m => simp
    | zero =>
      -- a character ends where the next one starts, or the text ends
      cases hhead : (encode text)[0]? with
      | none =>
        have : encode text = [] := by simpa using hhead
        simp [this]
      | some b' => simp [startsCharacter_head text b' hhead]

/-- **The positions where the octets of a text may be cut are the ends of its characters.** -/
theorem isBoundary_encode_iff (text : List Char) (n : Nat) :
    isBoundary (encode text) n ↔ ∃ s t, text = s ++ t ∧ (encode s).length = n := by
  induction text generalizing n with
  | nil =>
    have hends : isBoundary (encode []) n ↔ n = 0 := by simp [isBoundary, encode_nil]
    rw [hends]
    refine ⟨fun h => ⟨[], [], rfl, h.symm⟩, ?_⟩
    rintro ⟨s, t, h, rfl⟩
    rw [(List.append_eq_nil_iff.mp h.symm).1]
    rfl
  | cons c text ih =>
    have hlength (s : List Char) :
        (encode (c :: s)).length = (encode [c]).length + (encode s).length := by
      rw [← List.length_append, ← encode_append, List.singleton_append]
    rw [isBoundary_encode_cons, ih]
    constructor
    · rintro (rfl | ⟨hn, s, t, rfl, hs⟩)
      · exact ⟨[], c :: text, rfl, rfl⟩
      · exact ⟨c :: s, t, rfl, by rw [hlength]; omega⟩
    · rintro ⟨s, t, hst, rfl⟩
      cases s with
      | nil => exact .inl rfl
      | cons d s =>
        obtain ⟨rfl, rfl⟩ := List.cons.inj hst
        have hs := hlength s
        exact .inr ⟨by omega, s, t, rfl, by omega⟩

end VirtualPrinter.Text.Utf8

namespace VirtualPrinter.Gcode

open Text (SameLetters)
open Text.Utf8 (encode decode decode_encode isBoundary isBoundary_encode_iff lowerOctet
  map_lowerOctet_eq_iff)

/-! ### Codes -/

/-- Octets were to be taken from a position inside of a character, or behind the last. -/
structure Fault where
  position : Nat

/-- The octets before a position; there is no such part if the position is no boundary. -/
def octetsBefore? (octets : List Nat) (n : Nat) : Option (List Nat) :=
  if isBoundary octets n then some (octets.take n) else none

/-- The octets from a position on, which must be a boundary. -/
def octetsFrom (octets : List Nat) (n : Nat) : Except Fault (List Nat) :=
  if isBoundary octets n then .ok (octets.drop n) else .error ⟨n⟩

/-- Tries a code at the start of the octets: what is behind it, if it fits. -/
def tryCode (octets : List Nat) (code : String) : Except Fault (Option (List Nat)) :=
  let size := (encode code.toList).length
  match octetsBefore? octets size with
  | none => .ok none
  | some head => do
    let rest ← octetsFrom octets size
    if head.map lowerOctet = (encode code.toList).map lowerOctet ∧ endsCode (decode rest) then
      return some rest
    else return none

/-- The code of more octets; the later one if both have as many. -/
def larger (best : Option (Nat × Opcode × List Nat)) (next : Nat × Opcode × List Nat) :
    Option (Nat × Opcode × List Nat) :=
  match best with
  | some b => if next.1 < b.1 then some b else some next
  | none => some next

/-- The operation that the octets of a line name, and the octets behind its code. -/
def scan (octets : List Nat) : Except Fault (Option (Opcode × List Nat)) := do
  let tried ← registry.mapM fun (code, op) => do
    return (← tryCode octets code).map fun rest => ((encode code.toList).length, op, rest)
  return ((tried.filterMap id).foldl larger none).map fun entry => entry.2

/-- A part that can be made leaves a rest that can be taken, so that no fault is met. -/
theorem tryCode_eq (octets : List Nat) (code : String) :
    tryCode octets code = .ok (if isBoundary octets (encode code.toList).length ∧
      (octets.take (encode code.toList).length).map lowerOctet = (encode code.toList).map lowerOctet ∧
        endsCode (decode (octets.drop (encode code.toList).length))
      then some (octets.drop (encode code.toList).length) else none) := by
  unfold tryCode octetsBefore? octetsFrom
  dsimp only
  generalize (encode code.toList).length = size
  cases isBoundary octets size with
  | false => simp
  | true =>
    simp only [if_true, true_and]
    split
    · next h => exact if_pos h
    · next h => exact if_neg h

/-- A code is cut off the octets of a line, and ends there, if it spells the first token. -/
theorem cut_iff {line code : List Char} (h : ∀ c ∈ code, c.toUpper = c ∧ endsToken c = false) :
    isBoundary (encode line) (encode code).length ∧
      ((encode line).take (encode code).length).map lowerOctet = (encode code).map lowerOctet ∧
        endsCode (decode ((encode line).drop (encode code).length)) ↔
      SameLetters (token line) code := by
  constructor
  · rintro ⟨hb, hhead, hends⟩
    obtain ⟨s, t, rfl, hs⟩ := (isBoundary_encode_iff _ _).mp hb
    rw [Text.Utf8.encode_append, ← hs, List.take_left, map_lowerOctet_eq_iff] at hhead
    rw [Text.Utf8.encode_append, ← hs, List.drop_left, decode_encode, endsCode_iff] at hends
    -- nothing in the code ends the token, and what follows does
    have hinner : ∀ c ∈ s, endsToken c = false := by
      intro c hc
      have hlower : c.toLower ∈ code.map Char.toLower := hhead ▸ List.mem_map_of_mem hc
      obtain ⟨d, hd, heq⟩ := List.mem_map.mp hlower
      rw [← caseBlind_endsToken, ← heq, caseBlind_endsToken, (h d hd).2]
    rw [(token_append hinner hends).1]
    exact hhead
  · intro hs
    have hlength : (encode code).length = (encode (token line)).length :=
      (Text.Utf8.length_encode_of_sameLetters hs).symm
    have hsplit : encode line = encode (token line) ++ encode (behindToken line) := by
      rw [← Text.Utf8.encode_append, token_append_behindToken]
    rw [hlength, isBoundary_encode_iff]
    refine ⟨⟨token line, behindToken line, (token_append_behindToken line).symm, rfl⟩, ?_, ?_⟩
    · rw [hsplit, List.take_left, map_lowerOctet_eq_iff]
      exact hs
    · rw [hsplit, List.drop_left, decode_encode, endsCode_iff]
      exact token_behindToken line

/-- **A code fits the octets of a line if it fits the characters.** -/
theorem tryCode_encode {entry : String × Opcode} (hmem : entry ∈ registry) (line : List Char) :
    tryCode (encode line) entry.1 = .ok ((behindCode? entry.1.toList line).map encode) := by
  have hsolid := registry_solid hmem
  rw [tryCode_eq, behindCode?_eq hsolid]
  congr 1
  by_cases hs : SameLetters (token line) entry.1.toList
  · have hsplit : encode line = encode (token line) ++ encode (behindToken line) := by
      rw [← Text.Utf8.encode_append, token_append_behindToken]
    rw [if_pos ((cut_iff hsolid).mpr hs), if_pos hs, ← Text.Utf8.length_encode_of_sameLetters hs,
      hsplit, List.drop_left]
    rfl
  · rw [if_neg ((cut_iff hsolid).not.mpr hs), if_neg hs]
    rfl

/-- Trying what does not fail leads through the whole list. -/
theorem mapM_eq_ok {ε α β : Type} {f : α → Except ε β} {g : α → β} {l : List α}
    (h : ∀ a ∈ l, f a = .ok (g a)) : l.mapM f = .ok (l.map g) := by
  induction l with
  | nil => rfl
  | cons a l ih =>
    obtain ⟨ha, hl⟩ := List.forall_mem_cons.mp h
    rw [List.mapM_cons, ha, ih hl]
    rfl

/-- **No line leads to a fault**, and its octets name the operation that its characters do. -/
theorem scan_encode (line : List Char) :
    scan (encode line) = .ok ((resolve? line).map fun found => (found.1, encode found.2)) := by
  have htried : ∀ entry ∈ registry,
      (do return (← tryCode (encode line) entry.1).map fun rest =>
        ((encode entry.1.toList).length, entry.2, rest) : Except Fault _) =
      .ok (((behindCode? entry.1.toList line).map encode).map fun rest =>
        ((encode entry.1.toList).length, entry.2, rest)) := by
    intro entry hmem
    rw [tryCode_encode hmem]
    rfl
  have hfits : (registry.map fun entry => ((behindCode? entry.1.toList line).map encode).map
      fun rest => ((encode entry.1.toList).length, entry.2, rest)).filterMap id =
      (fitting line).map fun entry =>
        ((encode entry.1.toList).length, entry.2.1, encode entry.2.2) := by
    rw [List.filterMap_map, fitting, List.map_filterMap]
    refine List.filterMap_congr fun entry _ => ?_
    dsimp only [Function.comp_apply, id]
    cases behindCode? entry.1.toList line <;> rfl
  have hscan : scan (encode line) = .ok ((((registry.map fun entry =>
      ((behindCode? entry.1.toList line).map encode).map fun rest =>
        ((encode entry.1.toList).length, entry.2, rest)).filterMap id).foldl larger none).map
          fun entry => entry.2) := by
    rw [scan, mapM_eq_ok htried]
    rfl
  rw [hscan, hfits, resolve?]
  -- one code at most fits, so that neither has to choose
  rcases Nat.le_one_iff_eq_zero_or_eq_one.mp (length_fitting_le_one line) with hnone | hone
  · rw [List.length_eq_zero_iff.mp hnone]
    rfl
  · obtain ⟨entry, hentry⟩ := List.length_eq_one_iff.mp hone
    rw [hentry]
    rfl

end VirtualPrinter.Gcode
