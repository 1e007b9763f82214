import VirtualPrinter.Proofs.Link.Framing
import VirtualPrinter.Proofs.Text.Utf8
import Mathlib.Data.List.Induction

/-!
# Sizes of received texts

A stream reader counts the octets that it holds when it is about to read more, and a message reader the
octets of the text that it gives.  So a message never gives a text longer than a frame may be, while a
line may: octets can become a longer text, and the read that ends a line is not counted.

## Main definitions

* `WebMessage.content`: the text that a message carries.
* `LineReader.Spells`: what a text has to do with the octets it is read from.

## Main results

* `receiveMessage_content`: a message is given or refused by the size of its text alone.
* `received_sizes`: which texts a stream gives, when it is refused, and how long texts are.
-/

namespace VirtualPrinter.Link

open Text.Utf8 (WellFormed replacement)

/-! ### Messages -/

/-- The text that a message carries. -/
def WebMessage.content : WebMessage → Option (List Char)
  | .text sent => some sent
  | .binary octets => some (Text.Utf8.decode (octets.map UInt8.toNat))
  | .ping | .pong | .closing => none

/-- A control message, which a reader passes over. -/
def WebMessage.IsControl (m : WebMessage) : Prop := m = .ping ∨ m = .pong

/-- **A message is given or refused by the size of its text alone.** -/
theorem receiveMessage_content {controls : List WebMessage} (h : ∀ m ∈ controls, m.IsControl)
    {m : WebMessage} {text : List Char} (hm : m.content = some text) (rest : List WebMessage) :
    receiveMessage (controls ++ m :: rest) = ((checkSize text).map some, rest) := by
  induction controls with
  | nil => cases m <;> cases hm <;> rfl
  | cons c controls ih =>
    have hrest := ih fun m hm => h m (List.mem_cons_of_mem _ hm)
    rcases h c List.mem_cons_self with rfl | rfl <;> exact hrest

theorem octetLength_of_checkSize {sent text : List Char}
    (h : (checkSize sent).map some = .ok (some text)) : octetLength text ≤ maxFrameSize := by
  unfold checkSize at h
  split at h
  · cases h
  · cases h
    omega

theorem octetLength_of_receiveMessage {messages : List WebMessage} {text : List Char}
    (h : (receiveMessage messages).1 = .ok (some text)) : octetLength text ≤ maxFrameSize := by
  induction messages with
  | nil => cases h
  | cons m rest ih =>
    cases m with
    | text sent => exact octetLength_of_checkSize h
    | binary octets => exact octetLength_of_checkSize h
    | ping => exact ih h
    | pong => exact ih h
    | closing => cases h

namespace LineReader

/-! ### Texts and the parts they are read from -/

/-- The text is read from the part: three times as long at most, and no longer if the part is the
octets of a text. -/
def Spells (part : List UInt8) (text : List Char) : Prop :=
  (text = lineText part ∨ text = remainderText part) ∧ octetLength text ≤ 3 * part.length ∧
    (WellFormed (part.map UInt8.toNat) → octetLength text ≤ part.length)

theorem spells_dropEndWhile (p : Char → Bool) (part : List UInt8) :
    let text := Text.dropEndWhile p (Text.Utf8.decode (part.map UInt8.toNat))
    octetLength text ≤ 3 * part.length ∧
      (WellFormed (part.map UInt8.toNat) → octetLength text ≤ part.length) := by
  intro text
  have htrim := Text.Utf8.octetLength_dropEndWhile_le p (Text.Utf8.decode (part.map UInt8.toNat))
  constructor
  · have := Text.Utf8.octetLength_decode_le (part.map UInt8.toNat)
    rw [List.length_map] at this
    exact Nat.le_trans htrim this
  · intro h
    have := Text.Utf8.octetLength_decode_of_wellFormed h
    rw [List.length_map] at this
    exact this ▸ htrim

theorem spells_lineText (part : List UInt8) : Spells part (lineText part) :=
  ⟨.inl rfl, spells_dropEndWhile _ part⟩

theorem spells_remainderText (part : List UInt8) : Spells part (remainderText part) :=
  ⟨.inr rfl, spells_dropEndWhile _ part⟩

theorem exists_spells_of_mem_texts {octets : List UInt8} {text : List Char} (h : text ∈ texts octets) :
    ∃ line ∈ lines octets, Spells line text := by
  obtain ⟨line, hline, rfl⟩ := List.mem_map.mp (List.mem_filter.mp h).1
  exact ⟨line, hline, spells_lineText line⟩

theorem length_lt_of_mem_lines {octets line : List UInt8} (h : line ∈ lines octets) :
    line.length < octets.length := by
  induction octets using line_induction with
  | remainder octets hnot =>
    rw [lines_of_not_mem hnot] at h
    cases h
  | line first rest hnot ih =>
    rw [lines_of_line hnot] at h
    rw [List.length_append, List.length_cons]
    rcases List.mem_cons.mp h with rfl | h
    · omega
    · have := ih h
      omega

/-- A line is longer than a frame may be by less than the read that ends it. -/
theorem length_lt_of_room {held line : List UInt8} {reads : List (List UInt8)} (h : lineFeed ∉ held)
    (hroom : HasRoom held reads) (hline : line ∈ lines (held ++ reads.flatten)) :
    ∃ read ∈ reads, line.length < maxFrameSize + read.length := by
  -- along the reads: a line is ended by the read at hand, or by one to come
  induction reads generalizing held with
  | nil =>
    rw [List.flatten_nil, List.append_nil, lines_of_not_mem h] at hline
    cases hline
  | cons read reads ih =>
    rw [List.flatten_cons, ← List.append_assoc, lines_append] at hline
    rcases List.mem_append.mp hline with hline | hline
    · have hheld := hroom.head h
      have := length_lt_of_mem_lines hline
      rw [List.length_append] at this
      exact ⟨read, List.mem_cons_self, by omega⟩
    · obtain ⟨later, hmem, hlt⟩ := ih (not_mem_remainder _) hroom.tail hline
      exact ⟨later, List.mem_cons_of_mem _ hmem, hlt⟩

/-! ### What is given and what is refused -/

theorem eq_or_mem_of_mem_takeD {α : Type} {a b : α} {l : List α} {n : Nat} (h : a ∈ l.takeD n b) :
    a = b ∨ a ∈ l := by
  induction n generalizing l with
  | zero => cases h
  | succ n ih =>
    cases l with
    | nil =>
      rw [List.takeD_nil] at h
      exact .inl (List.eq_of_mem_replicate h)
    | cons c l =>
      rcases List.mem_cons.mp h with rfl | h
      · exact .inr List.mem_cons_self
      · exact (ih h).imp_right (List.mem_cons_of_mem c)

/-- Nothing is received beside the texts that a reader gives. -/
theorem Gives.mem {r : LineReader} {arrivals : List Arrival} {texts : List (List Char)}
    {answer : Except Error (Option (List Char))} (hg : Gives r arrivals texts answer)
    {n : Nat} {text : List Char} (hanswer : answer ≠ .ok (some text))
    (h : .ok (some text) ∈ receives n r arrivals) : text ∈ texts := by
  rw [hg n] at h
  obtain ⟨given, hgiven, heq⟩ :=
    List.mem_map.mp ((eq_or_mem_of_mem_takeD h).resolve_left (Ne.symm hanswer))
  cases heq
  exact hgiven

/-- Reads leave room to the last, or there is a first one that does not. -/
theorem hasRoom_or (reads : List (List UInt8)) :
    (HasRoom [] reads ∧ (remainder reads.flatten).length ≤ maxFrameSize) ∨
    ∃ early late, reads = early ++ late ∧ HasRoom [] early ∧
      maxFrameSize < (remainder early.flatten).length := by
  -- from the last read, since whether there is room for it depends on those before
  induction reads using List.reverseRecOn with
  | nil => exact .inl ⟨fun i hi => absurd hi (Nat.not_lt_zero i), Nat.zero_le _⟩
  | append_singleton reads read ih =>
    rcases ih with ⟨hroom, hlast⟩ | ⟨early, late, rfl, hroom, hfull⟩
    · have hroom : HasRoom [] (reads ++ [read]) := by
        intro i hi
        rw [List.length_append, List.length_singleton] at hi
        rw [List.take_append_of_le_length (by omega)]
        rcases Nat.lt_or_eq_of_le (Nat.le_of_lt_succ hi) with hi | rfl
        · exact hroom i hi
        · rwa [List.take_length]
      rcases Nat.lt_or_ge maxFrameSize (remainder (reads ++ [read]).flatten).length with hfull | hlast
      · exact .inr ⟨_, [], (List.append_nil _).symm, hroom, hfull⟩
      · exact .inl ⟨hroom, hlast⟩
    · exact .inr ⟨early, late ++ [read], List.append_assoc _ _ _, hroom, hfull⟩

/-- A stream gives its texts and its end, or, once a read leaves more octets than a frame may have, the
lines so far and a refusal for ever. -/
theorem outcome (reads : List (List UInt8)) :
    let stream := reads.map .octets ++ [.ended]
    (HasRoom [] reads ∧ (remainder reads.flatten).length ≤ maxFrameSize ∧
      Gives new stream (transcript reads.flatten) (.ok none)) ∨
    ∃ early late, reads = early ++ late ∧ HasRoom [] early ∧
      maxFrameSize < (remainder early.flatten).length ∧
      Gives new stream (texts early.flatten) (.error (.frameTooLarge maxFrameSize)) := by
  intro stream
  rcases hasRoom_or reads with ⟨hroom, hlast⟩ | ⟨early, late, rfl, hroom, hfull⟩
  · exact .inl ⟨hroom, hlast, gives_of_room hroom hlast⟩
  · refine .inr ⟨early, late, rfl, hroom, hfull, ?_⟩
    have hgives := gives_of_full (late.map .octets ++ [.ended]) hroom hfull
    rwa [← List.append_assoc, ← List.map_append] at hgives

theorem mem_splitOn_of_mem_lines {early late : List (List UInt8)} {line : List UInt8}
    (h : line ∈ lines early.flatten) : line ∈ (early ++ late).flatten.splitOn lineFeed := by
  rw [List.flatten_append, splitOn_append]
  exact List.mem_append_left _ h

/-- What a line spells comes from the stream, and the line is too long by less than one read. -/
theorem exists_part_of_mem_texts {early : List (List UInt8)} (late : List (List UInt8))
    (hroom : HasRoom [] early) {text : List Char} (h : text ∈ texts early.flatten) :
    ∃ part ∈ (early ++ late).flatten.splitOn lineFeed, Spells part text ∧
      ∃ read ∈ early ++ late, part.length < maxFrameSize + read.length := by
  obtain ⟨line, hline, hspells⟩ := exists_spells_of_mem_texts h
  obtain ⟨read, hread, hlt⟩ := length_lt_of_room (by simp) hroom hline
  exact ⟨line, mem_splitOn_of_mem_lines hline, hspells, read, List.mem_append_left _ hread, hlt⟩

theorem exists_part_of_mem_receives {reads : List (List UInt8)} {n : Nat} {text : List Char}
    (h : .ok (some text) ∈ receives n new (reads.map .octets ++ [.ended])) :
    ∃ part ∈ reads.flatten.splitOn lineFeed, Spells part text ∧
      (part.length ≤ maxFrameSize ∨ ∃ read ∈ reads, part.length < maxFrameSize + read.length) := by
  rcases outcome reads with ⟨hroom, hlast, hgives⟩ | ⟨early, late, rfl, hroom, -, hgives⟩
  · rcases List.mem_append.mp (hgives.mem (by simp) h) with htext | htext
    · obtain ⟨part, hpart, hspells, hlt⟩ := exists_part_of_mem_texts [] hroom htext
      rw [List.append_nil] at hpart hlt
      exact ⟨part, hpart, hspells, .inr hlt⟩
    -- the text behind the last line, which is read at the end alone
    · unfold lastText at htext
      split at htext
      · cases htext
      · rw [List.mem_singleton] at htext
        refine ⟨remainder reads.flatten, ?_, htext ▸ spells_remainderText _, .inl hlast⟩
        rw [← lines_append_remainder]
        exact List.mem_append_right _ List.mem_cons_self
  · obtain ⟨part, hpart, hspells, hlt⟩ :=
      exists_part_of_mem_texts late hroom (hgives.mem (by simp) h)
    exact ⟨part, hpart, hspells, .inr hlt⟩

/-- **Sizes of what is received.**  A stream gives its texts and its end, or, once a read leaves more
octets than a frame may have, the lines so far and a refusal for ever.  Every text is spelled by a part
of the stream, and a part that is longer than a frame may be is so by less than one read.  The text of
a message is given or refused by its own size. -/
theorem received_sizes (reads : List (List UInt8)) :
    ((HasRoom [] reads ∧ (remainder reads.flatten).length ≤ maxFrameSize ∧
        Gives new (reads.map .octets ++ [.ended]) (transcript reads.flatten) (.ok none)) ∨
      ∃ early late, reads = early ++ late ∧ HasRoom [] early ∧
        maxFrameSize < (remainder early.flatten).length ∧
        Gives new (reads.map .octets ++ [.ended]) (texts early.flatten)
          (.error (.frameTooLarge maxFrameSize))) ∧
    (∀ n text, .ok (some text) ∈ receives n new (reads.map .octets ++ [.ended]) →
      ∃ part ∈ reads.flatten.splitOn lineFeed, Spells part text ∧
        (part.length ≤ maxFrameSize ∨ ∃ read ∈ reads, part.length < maxFrameSize + read.length)) ∧
    (∀ messages text, (receiveMessage messages).1 = .ok (some text) →
      octetLength text ≤ maxFrameSize) ∧
    ∀ controls m text rest, (∀ c ∈ controls, WebMessage.IsControl c) → m.content = some text →
      receiveMessage (controls ++ m :: rest) =
        (if maxFrameSize < octetLength text then .error (.frameTooLarge maxFrameSize)
          else .ok (some text), rest) := by
  refine ⟨outcome reads, fun _ _ => exists_part_of_mem_receives,
    fun _ _ => octetLength_of_receiveMessage, ?_⟩
  intro controls m text rest hcontrols hm
  rw [receiveMessage_content hcontrols hm, checkSize]
  split <;> rfl

/-! ### Texts longer than a frame may be -/

theorem lineText_replicate {b : UInt8} {c : Char} (h : Text.Utf8.begin b.toNat = ([c], none))
    (hc : c ≠ '\r') (n : Nat) : lineText (List.replicate n b) = List.replicate n c := by
  rw [lineText, List.map_replicate, Text.Utf8.decode_replicate h, Text.dropEndWhile,
    List.reverse_replicate]
  cases n with
  | zero => rfl
  | succ n =>
    rw [List.replicate_succ, List.dropWhile_cons_of_neg (by simpa using hc), ← List.replicate_succ,
      List.reverse_replicate]

theorem hasRoom_singleton (read : List UInt8) : HasRoom [] [read] := by
  intro i hi
  obtain rfl : i = 0 := by simpa using hi
  exact Nat.zero_le _

/-- A line that comes in one read with its end is given whatever its size. -/
theorem gives_line {line : List UInt8} (h : lineFeed ∉ line) (htext : lineText line ≠ []) :
    Gives new ([line ++ [lineFeed]].map .octets ++ [.ended]) [lineText line] (.ok none) := by
  have hlines : lines (line ++ [lineFeed]) = [line] := by
    rw [lines_of_line h, lines_of_not_mem (by simp)]
  have hremainder : remainder (line ++ [lineFeed]) = [] := by
    rw [remainder_of_line h, remainder_of_not_mem (by simp)]
  have hgives := gives_of_room (hasRoom_singleton (line ++ [lineFeed]))
    (by rw [List.flatten_singleton, hremainder]; exact Nat.zero_le _)
  have htranscript : transcript (line ++ [lineFeed]) = [lineText line] := by
    simp [transcript, texts, hlines, hremainder, lastText, htext]
  rwa [List.flatten_singleton, htranscript] at hgives

/-- A line that comes in one read without its end is refused once it is too long. -/
theorem gives_unended {line : List UInt8} (h : lineFeed ∉ line) (hfull : maxFrameSize < line.length)
    (arrivals : List Arrival) :
    Gives new ([line].map .octets ++ arrivals) [] (.error (.frameTooLarge maxFrameSize)) := by
  have hgives := gives_of_full arrivals (hasRoom_singleton line)
    (by rwa [List.flatten_singleton, remainder_of_not_mem h])
  rwa [List.flatten_singleton, texts_of_not_mem h] at hgives

/-- Octets that start no character become a text three times as long; and a line of one octet too many
is given in one read, but refused if its end comes later. -/
theorem received_sizes_tooLong :
    (Gives new ([List.replicate 21846 0xFF ++ [lineFeed]].map .octets ++ [.ended])
        [List.replicate 21846 replacement] (.ok none) ∧
      maxFrameSize < octetLength (List.replicate 21846 replacement)) ∧
    (Gives new ([List.replicate 65536 0x61 ++ [lineFeed]].map .octets ++ [.ended])
        [List.replicate 65536 'a'] (.ok none) ∧
      maxFrameSize < octetLength (List.replicate 65536 'a')) ∧
    Gives new ([List.replicate 65536 0x61, [lineFeed]].map .octets ++ [.ended]) []
      (.error (.frameTooLarge maxFrameSize)) := by
  have hnot : ∀ n, ∀ b ≠ lineFeed, lineFeed ∉ List.replicate n b := fun n b hb hmem =>
    hb (List.eq_of_mem_replicate hmem).symm
  have hsome : ∀ n, ∀ c : Char, n ≠ 0 → List.replicate n c ≠ [] := fun n c hn h =>
    hn (List.replicate_eq_nil_iff c |>.mp h)
  have hinvalid := lineText_replicate (b := 0xFF) (c := replacement) rfl (by decide) 21846
  have hletter := lineText_replicate (b := 0x61) (c := 'a') rfl (by decide) 65536
  refine ⟨⟨?_, ?_⟩, ⟨?_, ?_⟩, ?_⟩
  · have hgives := gives_line (hnot 21846 0xFF (by decide)) (hinvalid ▸ hsome 21846 _ (by decide))
    rwa [hinvalid] at hgives
  · rw [Text.Utf8.octetLength_replicate]
    decide
  · have hgives := gives_line (hnot 65536 0x61 (by decide)) (hletter ▸ hsome 65536 _ (by decide))
    rwa [hletter] at hgives
  · rw [Text.Utf8.octetLength_replicate]
    decide
  · exact gives_unended (hnot 65536 0x61 (by decide)) (by rw [List.length_replicate]; decide) _

end LineReader

end VirtualPrinter.Link
