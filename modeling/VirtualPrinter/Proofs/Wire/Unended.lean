import VirtualPrinter.Proofs.Wire.Lines

/-!
# The last line without its end

A line that is ended by a line feed is given without the returns at its end, unless nothing else stands
on it.  What stands behind the last line feed is given without any of the blanks at its end, also if
nothing else is left of it.  So a stream whose last line lacks its end can be read differently from the
same stream with the line feed.

## Main definitions

* `Frame.ReadsUnended`: a last line that is read alike with and without its end.

## Main results

* `LineReader.transcript_append_lineFeed`: the texts of a stream that ends with a line feed.
* `decodeTrimmed_trimEnd_iff`: when the blanks behind a frame do not count.
* `unended_iff`: when a stream is read alike with and without a last line feed.
-/

namespace VirtualPrinter.Link.LineReader

/-! ### Streams that end with a line feed -/

theorem splitOn_append_lineFeed (octets : List UInt8) :
    (octets ++ [lineFeed]).splitOn lineFeed = octets.splitOn lineFeed ++ [[]] := by
  -- a line feed behind the remainder ends it, and leaves an empty one
  rw [splitOn_append, List.splitOn_append_cons_self_of_not_mem (not_mem_remainder octets),
    ← lines_append_remainder octets, List.append_assoc]
  rfl

/-- The last line is given if it has a text, and nothing stands behind it. -/
theorem transcript_append_lineFeed (octets : List UInt8) :
    transcript (octets ++ [lineFeed]) =
      texts octets ++ [lineText (remainder octets)].filter fun text => !text.isEmpty := by
  have hlines : lines (octets ++ [lineFeed]) = lines octets ++ [remainder octets] := by
    rw [lines, splitOn_append_lineFeed, List.dropLast_concat, lines_append_remainder]
  have hremainder : remainder (octets ++ [lineFeed]) = [] := by
    simp only [remainder, splitOn_append_lineFeed, List.getLast_concat]
  rw [transcript, texts, hlines, hremainder, lastText, if_pos rfl, List.append_nil, List.map_append,
    List.filter_append, List.map_singleton, ← texts.eq_def]

/-- The blanks behind a text take the returns at its end with them. -/
theorem remainderText_eq (octets : List UInt8) : remainderText octets = Text.trimEnd (lineText octets) := by
  refine (Text.dropEndWhile_dropEndWhile (fun c hc => ?_) _).symm
  obtain rfl := beq_iff_eq.mp hc
  decide

end VirtualPrinter.Link.LineReader

namespace VirtualPrinter.Wire.Frame

open Link (lineFeed maxFrameSize)
open Link.LineReader (Gives lineText remainder remainderText transcript)
open Text (isBlank trimEnd)

variable {c : Char} {line rest : List Char} {octets : List UInt8}

/-! ### Blanks behind a frame -/

theorem isBlank_of_isLineEnd (h : isLineEnd c) : isBlank c := by
  rcases (Bool.or_eq_true _ _).mp h with h | h <;>
    · obtain rfl := beq_iff_eq.mp h
      decide

theorem ofMarker?_of_isBlank (h : isBlank c) : Kind.ofMarker? c = none := by
  refine Option.eq_none_iff_forall_ne_some.mpr fun kind hkind => ?_
  obtain rfl := Kind.ofMarker?_eq_some_iff.mp hkind
  cases kind <;> exact absurd h (by decide)

theorem decodeTrimmed_unmarked (hword : c :: rest ≠ closeWord) (h : Kind.ofMarker? c = none) :
    decodeTrimmed (c :: rest) = .error (.unknownMarker c) := by
  rw [decodeTrimmed, if_neg hword]
  simp only [h]

/-- A payload is not read without the blanks that stand behind it. -/
theorem decodeTrimmed_marked_ne (kind : Kind) {ends : List Char} (h : ends ≠ []) :
    decodeTrimmed (kind.marker :: rest) ≠ decodeTrimmed (kind.marker :: (rest ++ ends)) := by
  intro heq
  rw [decodeTrimmed_marked fun _ hnil => h (List.append_eq_nil_iff.mp hnil).2] at heq
  rcases decodeTrimmed_eq_ok_iff.mp heq with ⟨hword, -⟩ | ⟨kind', rest', htext, -, hframe⟩
  · exact marked_ne_closeWord kind rest hword
  · have hencode := congrArg encode hframe
    rw [encode_ofMarked, encode_ofMarked, ← htext, List.cons.injEq] at hencode
    exact h (List.append_right_eq_self.mp hencode.2)

/-- **When the blanks behind a frame do not count**: if there are none, or if the first character marks
no frame and no word stands there. -/
theorem decodeTrimmed_trimEnd_iff : decodeTrimmed (trimEnd line) = decodeTrimmed line ↔
    trimEnd line = line ∨
      ∃ c rest, trimEnd line = c :: rest ∧ Kind.ofMarker? c = none ∧ c :: rest ≠ closeWord := by
  obtain ⟨ends, hsplit, hends⟩ := Text.exists_dropEndWhile_append isBlank line
  change line = trimEnd line ++ ends at hsplit
  rcases eq_or_ne ends [] with rfl | hsome
  · rw [List.append_nil] at hsplit
    rw [← hsplit]
    exact iff_of_true rfl (.inl rfl)
  -- blanks stand behind it, so that the line is neither empty nor a word
  have hline : trimEnd line ≠ line := by
    intro h
    rw [h] at hsplit
    exact hsome (List.append_right_eq_self.mp hsplit.symm)
  have hword : line ≠ closeWord := by
    rintro rfl
    exact hline (by decide)
  rw [or_iff_right hline]
  cases hcore : trimEnd line with
  | nil =>
    rw [hcore, List.nil_append] at hsplit
    obtain ⟨b, more, rfl⟩ := List.exists_cons_of_ne_nil hsome
    rw [hsplit] at hword ⊢
    -- blanks alone mark no frame, and nothing at all is an error of its own
    rw [decodeTrimmed_unmarked hword (ofMarker?_of_isBlank (hends b List.mem_cons_self))]
    exact iff_of_false nofun nofun
  | cons c rest =>
    rw [hcore, List.cons_append] at hsplit
    rw [hsplit] at hword ⊢
    cases hmarker : Kind.ofMarker? c with
    | some kind =>
      obtain rfl := Kind.ofMarker?_eq_some_iff.mp hmarker
      refine iff_of_false (decodeTrimmed_marked_ne kind hsome) ?_
      rintro ⟨c', rest', hcons, hnone, -⟩
      obtain ⟨rfl, -⟩ := List.cons.inj hcons
      rw [hmarker] at hnone
      cases hnone
    | none =>
      -- both give the same error, unless the word comes to light without the blanks
      rw [decodeTrimmed_unmarked hword hmarker]
      constructor
      · intro h
        refine ⟨c, rest, rfl, hmarker, fun hclose => ?_⟩
        rw [hclose] at h
        cases h
      · rintro ⟨c', rest', hcons, -, hclose⟩
        exact decodeTrimmed_unmarked (hcons ▸ hclose) hmarker

/-! ### The last line -/

theorem decode_trimEnd (line : List Char) : decode (trimEnd line) = decodeTrimmed (trimEnd line) := by
  refine congrArg decodeTrimmed (Text.dropEndWhile_eq_self_iff.mpr fun c hc => ?_)
  have hblank : isBlank c = false := Text.getLast?_dropEndWhile hc
  exact Bool.eq_false_iff.mpr fun hend => Bool.eq_false_iff.mp hblank (isBlank_of_isLineEnd hend)

theorem decode_lineText (h : lineFeed ∉ octets) : decode (lineText octets) = decodeTrimmed (lineText octets) := by
  refine congrArg decodeTrimmed (Text.dropEndWhile_eq_self_iff.mpr fun c hc => ?_)
  have hreturn : (c == '\r') = false := Text.getLast?_dropEndWhile (p := (· == '\r')) hc
  have hfeed : c ≠ '\n' := by
    rintro rfl
    exact Link.LineReader.lineFeed_not_mem_text _ h (List.mem_of_getLast? hc)
  rw [isLineEnd, hreturn, Bool.false_or, beq_eq_false_iff_ne]
  exact hfeed

/-- A last line is read alike with and without its end: nothing stands there; or a text that does not
end with a blank, or that is no frame and no word whatever blanks stand behind it. -/
def ReadsUnended (last : List UInt8) : Prop :=
  last = [] ∨ lineText last ≠ [] ∧
    ((∀ c, (lineText last).getLast? = some c → isBlank c = false) ∨
      ∃ c rest, trimEnd (lineText last) = c :: rest ∧ Kind.ofMarker? c = none ∧ c :: rest ≠ closeWord)

theorem map_decode_transcript_iff (octets : List UInt8) :
    (transcript octets).map decode = (transcript (octets ++ [lineFeed])).map decode ↔
      ReadsUnended (remainder octets) := by
  have hnot : lineFeed ∉ remainder octets := Link.LineReader.not_mem_remainder octets
  rw [Link.LineReader.transcript_append_lineFeed, transcript, List.map_append, List.map_append,
    List.append_cancel_left_eq, ReadsUnended]
  generalize remainder octets = last at hnot
  rcases eq_or_ne last [] with rfl | hlast
  · exact iff_of_true rfl (.inl rfl)
  rw [Link.LineReader.lastText, if_neg hlast, or_iff_right hlast, Link.LineReader.remainderText_eq]
  rcases eq_or_ne (lineText last) [] with hnil | hsome
  -- a line of returns is passed over, but what is left of it at the end of a stream is not
  · rw [hnil]
    exact iff_of_false (by decide) fun h => h.1 rfl
  · have hgiven : [lineText last].filter (fun text => !text.isEmpty) = [lineText last] := by simp [hsome]
    rw [and_iff_right hsome, hgiven, List.map_singleton, List.map_singleton, List.singleton_inj,
      decode_trimEnd, decode_lineText hnot, decodeTrimmed_trimEnd_iff, ← Text.dropEndWhile_eq_self_iff]
    exact Iff.rfl

theorem gives_with_lineFeed (hsize : ∀ part ∈ octets.splitOn lineFeed, part.length ≤ maxFrameSize)
    {reads reads' : List (List UInt8)} (hreads : reads.flatten = octets)
    (hreads' : reads'.flatten = octets ++ [lineFeed]) :
    Gives .new (reads.map .octets ++ [.ended]) (transcript octets) (.ok none) ∧
      Gives .new (reads'.map .octets ++ [.ended]) (transcript (octets ++ [lineFeed])) (.ok none) := by
  have hsize' : ∀ part ∈ (octets ++ [lineFeed]).splitOn lineFeed, part.length ≤ maxFrameSize := by
    rw [Link.LineReader.splitOn_append_lineFeed, List.forall_mem_append]
    exact ⟨hsize, List.forall_mem_singleton.mpr (Nat.zero_le _)⟩
  subst hreads
  rw [← hreads'] at hsize' ⊢
  obtain ⟨hroom, hlast⟩ := Link.LineReader.hasRoom_of_parts hsize
  obtain ⟨hroom', hlast'⟩ := Link.LineReader.hasRoom_of_parts hsize'
  exact ⟨Link.LineReader.gives_of_room hroom hlast, Link.LineReader.gives_of_room hroom' hlast'⟩

/-- **When a stream is read alike with and without a last line feed.**  A stream whose parts are no
longer than a frame may be gives its texts, and with a line feed behind it, however either is cut into
reads; and the frames or errors that the texts are read as are the same if its last line is read alike
with and without its end, and only then. -/
theorem unended_iff (hsize : ∀ part ∈ octets.splitOn lineFeed, part.length ≤ maxFrameSize)
    {reads reads' : List (List UInt8)} (hreads : reads.flatten = octets)
    (hreads' : reads'.flatten = octets ++ [lineFeed]) :
    Gives .new (reads.map .octets ++ [.ended]) (transcript octets) (.ok none) ∧
      Gives .new (reads'.map .octets ++ [.ended]) (transcript (octets ++ [lineFeed])) (.ok none) ∧
      ((transcript octets).map decode = (transcript (octets ++ [lineFeed])).map decode ↔
        ReadsUnended (remainder octets)) := by
  obtain ⟨hgives, hgives'⟩ := gives_with_lineFeed hsize hreads hreads'
  exact ⟨hgives, hgives', map_decode_transcript_iff octets⟩

/-- A ping whose payload does not end with a blank, with a return behind it. -/
theorem unended_iff_ping :
    let octets := [0x30, 10, 0x32, 0x70, 13]
    (∀ part ∈ octets.splitOn lineFeed, part.length ≤ maxFrameSize) ∧
      Gives .new ([[0x30, 10, 0x32], [0x70, 13]].map .octets ++ [.ended]) [['0'], ['2', 'p']]
        (.ok none) ∧
      Gives .new ([[0x30, 10, 0x32], [0x70, 13, 10]].map .octets ++ [.ended]) [['0'], ['2', 'p']]
        (.ok none) ∧
      ReadsUnended (remainder octets) := by
  intro octets
  have hsize : ∀ part ∈ octets.splitOn lineFeed, part.length ≤ maxFrameSize := by decide
  obtain ⟨hgives, hgives', hiff⟩ := unended_iff hsize
    (show [[0x30, 10, 0x32], [0x70, 13]].flatten = octets from rfl)
    (show [[0x30, 10, 0x32], [0x70, 13, 10]].flatten = octets ++ [lineFeed] from rfl)
  exact ⟨hsize, hgives, hgives', hiff.mp (by decide)⟩

/-- Without a last line feed a payload loses the blank at its end, and a return becomes an empty frame. -/
theorem unended_blank :
    let ping := [0x32, 0x78, 0x20]
    let lone := [13]
    (ping.getLast? ≠ some lineFeed ∧
      Gives .new ([ping].map .octets ++ [.ended]) [['2', 'x']] (.ok none) ∧
      Gives .new ([ping ++ [lineFeed]].map .octets ++ [.ended]) [['2', 'x', ' ']] (.ok none) ∧
      [['2', 'x']].map decode ≠ [['2', 'x', ' ']].map decode) ∧
    lone.getLast? ≠ some lineFeed ∧
      Gives .new ([lone].map .octets ++ [.ended]) [[]] (.ok none) ∧
      Gives .new ([lone ++ [lineFeed]].map .octets ++ [.ended]) [] (.ok none) ∧
      [[]].map decode ≠ [].map decode := by
  intro ping lone
  have hping : ∀ part ∈ ping.splitOn lineFeed, part.length ≤ maxFrameSize := by decide
  have hreturn : ∀ part ∈ lone.splitOn lineFeed, part.length ≤ maxFrameSize := by decide
  obtain ⟨hping, hping'⟩ := gives_with_lineFeed hping (show [ping].flatten = ping from rfl)
    (show [ping ++ [lineFeed]].flatten = ping ++ [lineFeed] from rfl)
  obtain ⟨hreturn, hlone⟩ := gives_with_lineFeed hreturn (show [lone].flatten = lone from rfl)
    (show [lone ++ [lineFeed]].flatten = lone ++ [lineFeed] from rfl)
  exact ⟨⟨by decide, hping, hping', by decide⟩, by decide, hreturn, hlone, by decide⟩

end VirtualPrinter.Wire.Frame
