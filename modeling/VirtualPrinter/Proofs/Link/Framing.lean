import VirtualPrinter.Link.LineReader
import Mathlib.Data.List.TakeDrop

/-!
# Lines in octets that come in pieces

The octets of a stream are cut by its line feeds alone.  How they are cut into reads does not show in
what a reader gives, as long as no read leaves it with more octets than a frame may have.  A read that
does is the last: the reader gives the lines that it has, and then refuses to go on.

## Main definitions

* `LineReader.lines`, `LineReader.remainder`: the parts of a stream that line feeds end, and what
  stands behind the last of them.
* `LineReader.transcript`: the texts of a whole stream.
* `LineReader.receives`: the results of a number of calls, one after another.
* `LineReader.Gives`: the texts that a reader gives, and what it answers from then on.

## Main results

* `Gives.reads`: what reads add to a reader that has room for each of them.
* `gives_transcript`: the texts of a stream do not depend on its reads.
-/

namespace VirtualPrinter.Link.LineReader

/-- The parts that line feeds end. -/
def lines (octets : List UInt8) : List (List UInt8) :=
  (octets.splitOn lineFeed).dropLast

/-- What stands behind the last line feed. -/
def remainder (octets : List UInt8) : List UInt8 :=
  (octets.splitOn lineFeed).getLast (List.splitOn_ne_nil _ _)

/-- The texts of the lines that have any. -/
def texts (octets : List UInt8) : List (List Char) :=
  ((lines octets).map lineText).filter fun text => !text.isEmpty

/-- The text behind the last line, unless nothing stands there. -/
def lastText (octets : List UInt8) : List (List Char) :=
  if octets = [] then [] else [remainderText octets]

/-- The texts of a whole stream. -/
def transcript (octets : List UInt8) : List (List Char) :=
  texts octets ++ lastText (remainder octets)

/-- The results of a number of calls, one after another. -/
def receives : Nat → LineReader → List Arrival → List (Except Error (Option (List Char)))
  | 0, _, _ => []
  | n + 1, r, arrivals =>
    let (result, r, arrivals) := r.receive arrivals
    result :: receives n r arrivals

/-- The reader gives the texts, each once and in order, and from then on the same answer for ever. -/
def Gives (r : LineReader) (arrivals : List Arrival) (texts : List (List Char))
    (answer : Except Error (Option (List Char))) : Prop :=
  ∀ n, receives n r arrivals = (texts.map (Except.ok ∘ some)).takeD n answer

/-- A reader that holds octets has room for each of the reads: those before it leave no more octets
than a frame may have. -/
def HasRoom (held : List UInt8) (reads : List (List UInt8)) : Prop :=
  ∀ i < reads.length, (remainder (held ++ (reads.take i).flatten)).length ≤ maxFrameSize

/-! ### Lines of a stream -/

theorem lines_append_remainder (octets : List UInt8) :
    lines octets ++ [remainder octets] = octets.splitOn lineFeed :=
  List.dropLast_concat_getLast _

theorem lines_of_not_mem {octets : List UInt8} (h : lineFeed ∉ octets) : lines octets = [] := by
  rw [lines, List.splitOn_eq_singleton h, List.dropLast_singleton]

theorem remainder_of_not_mem {octets : List UInt8} (h : lineFeed ∉ octets) :
    remainder octets = octets := by
  simp only [remainder, List.splitOn_eq_singleton h, List.getLast_singleton]

theorem lines_of_line {line : List UInt8} (h : lineFeed ∉ line) (rest : List UInt8) :
    lines (line ++ lineFeed :: rest) = line :: lines rest := by
  rw [lines, List.splitOn_append_cons_self_of_not_mem h,
    List.dropLast_cons_of_ne_nil (List.splitOn_ne_nil _ _), lines]

theorem remainder_of_line {line : List UInt8} (h : lineFeed ∉ line) (rest : List UInt8) :
    remainder (line ++ lineFeed :: rest) = remainder rest := by
  simp only [remainder, List.splitOn_append_cons_self_of_not_mem h]
  exact List.getLast_cons (List.splitOn_ne_nil _ _)

theorem splitLine_of_not_mem {octets : List UInt8} (h : lineFeed ∉ octets) :
    splitLine octets = none := by
  induction octets with
  | nil => rfl
  | cons b octets ih =>
    rw [List.mem_cons, not_or] at h
    rw [splitLine, if_neg (Ne.symm h.1), ih h.2, Option.map_none]

theorem splitLine_of_line {line : List UInt8} (h : lineFeed ∉ line) (rest : List UInt8) :
    splitLine (line ++ lineFeed :: rest) = some (line, rest) := by
  induction line with
  | nil => simp [splitLine]
  | cons b line ih =>
    rw [List.mem_cons, not_or] at h
    rw [List.cons_append, splitLine, if_neg (Ne.symm h.1), ih h.2, Option.map_some]

/-- A stream is a remainder, or a line before a stream. -/
theorem line_induction {motive : List UInt8 → Prop}
    (remainder : ∀ octets, lineFeed ∉ octets → motive octets)
    (line : ∀ line rest, lineFeed ∉ line → motive rest → motive (line ++ lineFeed :: rest))
    (octets : List UInt8) : motive octets := by
  by_cases h : lineFeed ∈ octets
  · obtain ⟨before, rest, hsplit, hbefore⟩ := List.eq_append_cons_of_mem h
    have : rest.length < octets.length := by
      rw [hsplit, List.length_append, List.length_cons]
      omega
    exact hsplit ▸ line before rest hbefore (line_induction remainder line rest)
  · exact remainder octets h
termination_by octets.length

theorem not_mem_remainder (octets : List UInt8) : lineFeed ∉ remainder octets := by
  induction octets using line_induction with
  | remainder octets h => rwa [remainder_of_not_mem h]
  | line line rest h ih => rwa [remainder_of_line h]

/-- The parts of a stream that comes in two pieces. -/
theorem splitOn_append (a b : List UInt8) :
    (a ++ b).splitOn lineFeed = lines a ++ (remainder a ++ b).splitOn lineFeed := by
  induction a using line_induction with
  | remainder a h => rw [lines_of_not_mem h, remainder_of_not_mem h, List.nil_append]
  | line line rest h ih =>
    rw [lines_of_line h, remainder_of_line h, List.append_assoc, List.cons_append,
      List.splitOn_append_cons_self_of_not_mem h, ih, List.cons_append]

theorem lines_append (a b : List UInt8) : lines (a ++ b) = lines a ++ lines (remainder a ++ b) := by
  rw [lines, splitOn_append, List.dropLast_append_of_ne_nil (List.splitOn_ne_nil _ _), ← lines.eq_def]

theorem remainder_append (a b : List UInt8) : remainder (a ++ b) = remainder (remainder a ++ b) := by
  simp only [remainder, splitOn_append a b]
  exact List.getLast_append_of_ne_nil _ (List.splitOn_ne_nil _ _)

/-- What a piece leaves behind its last line is the beginning of a part of the whole. -/
theorem remainder_prefix (a b : List UInt8) :
    ∃ part ∈ (a ++ b).splitOn lineFeed, remainder a <+: part := by
  have hfirst : ∃ part ∈ (remainder a ++ b).splitOn lineFeed, remainder a <+: part := by
    by_cases h : lineFeed ∈ b
    · obtain ⟨line, rest, rfl, hline⟩ := List.eq_append_cons_of_mem h
      refine ⟨remainder a ++ line, ?_, List.prefix_append _ _⟩
      have hnot : lineFeed ∉ remainder a ++ line := by
        simp [not_mem_remainder a, hline]
      rw [← List.append_assoc, List.splitOn_append_cons_self_of_not_mem hnot]
      exact List.mem_cons_self
    · have hnot : lineFeed ∉ remainder a ++ b := by simp [not_mem_remainder a, h]
      exact ⟨_, List.splitOn_eq_singleton hnot ▸ List.mem_cons_self, List.prefix_append _ _⟩
  obtain ⟨part, hmem, hstart⟩ := hfirst
  exact ⟨part, splitOn_append a b ▸ List.mem_append_right _ hmem, hstart⟩

theorem texts_append (a b : List UInt8) : texts (a ++ b) = texts a ++ texts (remainder a ++ b) := by
  rw [texts, lines_append, List.map_append, List.filter_append, texts, texts]

theorem texts_of_not_mem {octets : List UInt8} (h : lineFeed ∉ octets) : texts octets = [] := by
  rw [texts, lines_of_not_mem h, List.map_nil, List.filter_nil]

/-! ### One call -/

/-- What the next line of a stream is. -/
theorem nextLine_cases (octets : List UInt8) :
    (texts octets = [] ∧ nextLine octets = (none, remainder octets)) ∨
    ∃ text rest, nextLine octets = (some text, rest) ∧ texts octets = text :: texts rest ∧
      remainder octets = remainder rest := by
  induction octets using line_induction with
  | remainder octets h =>
    refine .inl ⟨texts_of_not_mem h, ?_⟩
    rw [nextLine.eq_def, splitLine_of_not_mem h, remainder_of_not_mem h]
  | line line rest h ih =>
    have hnext : nextLine (line ++ lineFeed :: rest) =
        if (lineText line).isEmpty then nextLine rest else (some (lineText line), rest) := by
      rw [nextLine.eq_def, splitLine_of_line h]
    rw [hnext, texts, lines_of_line h, remainder_of_line h, List.map_cons]
    -- a line without a text is passed over, in the texts as in the reader
    cases hempty : (lineText line).isEmpty with
    | true => simpa [texts, hempty] using ih
    | false => exact .inr ⟨lineText line, rest, rfl, by simp [texts, hempty], rfl⟩

/-- A reader with lines in it gives the first of them that has a text. -/
theorem receive_text {octets : List UInt8} {text : List Char} {later : List (List Char)}
    (h : texts octets = text :: later) (arrivals : List Arrival) :
    ∃ rest, receive ⟨octets⟩ arrivals = (.ok (some text), ⟨rest⟩, arrivals) ∧ texts rest = later ∧
      remainder rest = remainder octets := by
  rcases nextLine_cases octets with ⟨hnone, -⟩ | ⟨first, rest, hnext, htexts, hremainder⟩
  · rw [h] at hnone
    cases hnone
  · obtain ⟨rfl, rfl⟩ := List.cons.inj (htexts.symm.trans h)
    exact ⟨rest, by rw [receive.eq_def, hnext], rfl, hremainder.symm⟩

/-- A reader without a line in it goes on with what stands behind its lines. -/
theorem receive_remainder {octets : List UInt8} (h : texts octets = []) (arrivals : List Arrival) :
    receive ⟨octets⟩ arrivals =
      if maxFrameSize < (remainder octets).length then
        (.error (.frameTooLarge maxFrameSize), ⟨remainder octets⟩, arrivals)
      else match arrivals with
        | .octets more :: arrivals => receive ⟨remainder octets ++ more⟩ arrivals
        | .silence :: arrivals => (.error .readTimeout, ⟨remainder octets⟩, arrivals)
        | .ended :: arrivals => (.ok (atEnd (remainder octets)), new, arrivals)
        | [] => (.ok (atEnd (remainder octets)), new, []) := by
  rcases nextLine_cases octets with ⟨-, hnext⟩ | ⟨text, rest, -, htexts, -⟩
  · have hreceive := receive.eq_def ⟨octets⟩ arrivals
    rw [hnext] at hreceive
    exact hreceive
  · rw [h] at htexts
    cases htexts

theorem receive_of_not_mem {held : List UInt8} (h : lineFeed ∉ held) (arrivals : List Arrival) :
    receive ⟨held⟩ arrivals =
      if maxFrameSize < held.length then (.error (.frameTooLarge maxFrameSize), ⟨held⟩, arrivals)
      else match arrivals with
        | .octets more :: arrivals => receive ⟨held ++ more⟩ arrivals
        | .silence :: arrivals => (.error .readTimeout, ⟨held⟩, arrivals)
        | .ended :: arrivals => (.ok (atEnd held), new, arrivals)
        | [] => (.ok (atEnd held), new, []) := by
  rw [receive_remainder (texts_of_not_mem h), remainder_of_not_mem h]

/-! ### One call after another -/

theorem HasRoom.head {held read : List UInt8} {reads : List (List UInt8)}
    (h : HasRoom held (read :: reads)) (hheld : lineFeed ∉ held) : held.length ≤ maxFrameSize := by
  simpa [remainder_of_not_mem hheld] using h 0 (by simp)

theorem HasRoom.tail {held read : List UInt8} {reads : List (List UInt8)}
    (h : HasRoom held (read :: reads)) : HasRoom (remainder (held ++ read)) reads := by
  intro i hi
  have := h (i + 1) (by simpa using hi)
  rwa [List.take_succ_cons, List.flatten_cons, ← List.append_assoc, remainder_append] at this

section Gives

variable {r r' : LineReader} {arrivals arrivals' : List Arrival} {texts : List (List Char)}
  {answer : Except Error (Option (List Char))}

theorem Gives.of_receive_eq (h : r.receive arrivals = r'.receive arrivals')
    (hg : Gives r' arrivals' texts answer) : Gives r arrivals texts answer := by
  intro n
  rw [← hg n]
  cases n with
  | zero => rfl
  | succ n => rw [receives, receives, h]

theorem Gives.cons {text : List Char}
    (h : r.receive arrivals = (.ok (some text), r', arrivals'))
    (hg : Gives r' arrivals' texts answer) : Gives r arrivals (text :: texts) answer
  | 0 => rfl
  | n + 1 => by
    rw [receives, h]
    exact congrArg (_ :: ·) (hg n)

/-- An answer that leaves the reader as it was is given for ever. -/
theorem Gives.forever (h : r.receive arrivals = (answer, r, arrivals)) : Gives r arrivals [] answer := by
  intro n
  induction n with
  | zero => rfl
  | succ n ih =>
    rw [receives, h]
    exact congrArg (_ :: ·) ih

/-- At the end of the octets a reader gives what it holds. -/
theorem Gives.ended {held : List UInt8} (h : lineFeed ∉ held) (hroom : held.length ≤ maxFrameSize) :
    Gives ⟨held⟩ [.ended] (lastText held) (.ok none) := by
  have hnew : receive new [] = (.ok none, new, []) := by
    rw [new, receive_of_not_mem (by simp)]
    rfl
  have hreceive : receive ⟨held⟩ [.ended] = (.ok (atEnd held), new, []) := by
    rw [receive_of_not_mem h, if_neg (by omega)]
  cases held with
  | nil => exact .of_receive_eq (hreceive.trans hnew.symm) (.forever hnew)
  | cons b rest => exact .cons hreceive (.forever hnew)

/-- A reader gives the lines that it holds before it takes anything in. -/
theorem Gives.held {octets : List UInt8} (hg : Gives ⟨remainder octets⟩ arrivals texts answer) :
    Gives ⟨octets⟩ arrivals (LineReader.texts octets ++ texts) answer := by
  -- along the texts that it holds; what stands behind the lines stays the same
  induction hheld : LineReader.texts octets generalizing octets with
  | nil =>
    refine .of_receive_eq ?_ hg
    rw [receive_remainder hheld, receive_of_not_mem (not_mem_remainder octets)]
  | cons text later ih =>
    obtain ⟨rest, hreceive, hrest, hremainder⟩ := receive_text hheld arrivals
    exact .cons hreceive (ih (hremainder ▸ hg) hrest)

/-- **What reads add** to a reader that has room for each of them: the lines that they end. -/
theorem Gives.reads {held : List UInt8} (h : lineFeed ∉ held) {reads : List (List UInt8)}
    (hroom : HasRoom held reads)
    (hg : Gives ⟨remainder (held ++ reads.flatten)⟩ arrivals texts answer) :
    Gives ⟨held⟩ (reads.map .octets ++ arrivals) (LineReader.texts (held ++ reads.flatten) ++ texts) answer := by
  -- along the reads: before each of them the lines have been given, so none is held
  induction reads generalizing held with
  | nil =>
    rw [List.flatten_nil, List.append_nil, texts_of_not_mem h]
    rwa [List.flatten_nil, List.append_nil, remainder_of_not_mem h] at hg
  | cons read reads ih =>
    have hread : receive ⟨held⟩ (.octets read :: (reads.map .octets ++ arrivals)) =
        receive ⟨held ++ read⟩ (reads.map .octets ++ arrivals) := by
      have := hroom.head h
      rw [receive_of_not_mem h, if_neg (by omega)]
    rw [List.flatten_cons, ← List.append_assoc] at hg ⊢
    rw [remainder_append] at hg
    rw [texts_append, List.append_assoc]
    exact .of_receive_eq hread (.held (ih (not_mem_remainder _) hroom.tail hg))

end Gives

/-! ### Whole streams -/

/-- A reader with room to the last gives the texts of the stream, and then its end. -/
theorem gives_of_room {reads : List (List UInt8)} (hroom : HasRoom [] reads)
    (hlast : (remainder reads.flatten).length ≤ maxFrameSize) :
    Gives new (reads.map .octets ++ [.ended]) (transcript reads.flatten) (.ok none) :=
  .reads (List.not_mem_nil (a := lineFeed)) hroom (.ended (not_mem_remainder _) hlast)

/-- The first read that leaves too much is the last: the reader gives the lines that it has, and then
refuses for ever. -/
theorem gives_of_full {reads : List (List UInt8)} (arrivals : List Arrival) (hroom : HasRoom [] reads)
    (hfull : maxFrameSize < (remainder reads.flatten).length) :
    Gives new (reads.map .octets ++ arrivals) (texts reads.flatten)
      (.error (.frameTooLarge maxFrameSize)) := by
  have hrefused : Gives ⟨remainder reads.flatten⟩ arrivals [] (.error (.frameTooLarge maxFrameSize)) :=
    .forever (by rw [receive_of_not_mem (not_mem_remainder _), if_pos hfull])
  have hgives := Gives.reads (List.not_mem_nil (a := lineFeed)) hroom hrefused
  rwa [List.nil_append, List.append_nil] at hgives

/-- In a stream whose parts are no longer than a frame may be, no read leaves more. -/
theorem hasRoom_of_parts {reads : List (List UInt8)}
    (h : ∀ part ∈ reads.flatten.splitOn lineFeed, part.length ≤ maxFrameSize) :
    HasRoom [] reads ∧ (remainder reads.flatten).length ≤ maxFrameSize := by
  have hleft (i : Nat) : (remainder (reads.take i).flatten).length ≤ maxFrameSize := by
    -- the beginning of a part, which the reads to come may go on with
    obtain ⟨part, hmem, hstart⟩ := remainder_prefix (reads.take i).flatten (reads.drop i).flatten
    rw [← List.flatten_append, List.take_append_drop] at hmem
    exact Nat.le_trans hstart.length_le (h part hmem)
  have hlast := hleft reads.length
  rw [List.take_length] at hlast
  exact ⟨fun i _ => hleft i, hlast⟩

/-- **Framing does not depend on the reads.**  A stream whose parts are no longer than a frame may be,
cut into reads in any way, gives the text of each line that has one, in order; then the text of what
stands behind the last line, if anything does; and from then on the end. -/
theorem gives_transcript {reads : List (List UInt8)}
    (h : ∀ part ∈ reads.flatten.splitOn lineFeed, part.length ≤ maxFrameSize) :
    Gives new (reads.map .octets ++ [.ended]) (transcript reads.flatten) (.ok none) := by
  obtain ⟨hroom, hlast⟩ := hasRoom_of_parts h
  exact gives_of_room hroom hlast

/-- Cuts behind a return and within a character, and an empty line. -/
theorem gives_transcript_cut :
    Gives new ([[0x30, 13], [10, 13, 10, 0xC3], [0xA9, 10, 0x33, 0x20]].map .octets ++ [.ended])
      [['0'], ['é'], ['3']] (.ok none) :=
  gives_transcript (by decide)

end VirtualPrinter.Link.LineReader
