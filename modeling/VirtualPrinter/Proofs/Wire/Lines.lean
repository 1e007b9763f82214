import VirtualPrinter.Proofs.Json.Plain
import VirtualPrinter.Proofs.Link.Framing
import VirtualPrinter.Proofs.Text.Ends
import VirtualPrinter.Proofs.Text.Utf8
import VirtualPrinter.Proofs.Wire.Messages

/-!
# Frames over lines

A frame is written as its characters and a line feed.  It is found again on its line if it has no line
feed among its characters and no return as the last of them.  Both hold of every frame that is sent:
the document of an event is printed without control characters and ends with a bracket, and the answer
to a ping repeats what came in on a line.

## Main definitions

* `Frame.Sent`: the frames that are sent.
* `Frame.OneLine`: a frame that stands on one line, and is decoded as it was.

## Main results

* `Sent.oneLine`: a frame that is sent stands on one line.
* `frames_received`: frames that are sent are received as they were.
-/

namespace VirtualPrinter.Link.LineReader

open Text.Utf8 (mem_of_lineFeed_mem_decode mem_of_lineFeed_mem_encode)

/-! ### Received texts -/

theorem not_mem_of_mem_lines {octets line : List UInt8} (h : line ∈ lines octets) :
    lineFeed ∉ line := by
  induction octets using line_induction with
  | remainder octets hnot =>
    rw [lines_of_not_mem hnot] at h
    cases h
  | line first rest hnot ih =>
    rw [lines_of_line hnot] at h
    rcases List.mem_cons.mp h with rfl | h
    · exact hnot
    · exact ih h

/-- A line feed is read from a line feed alone, and trimming brings none in. -/
theorem lineFeed_not_mem_text (p : Char → Bool) {octets : List UInt8} (h : lineFeed ∉ octets) :
    '\n' ∉ Text.dropEndWhile p (Text.Utf8.decode (octets.map UInt8.toNat)) := by
  intro hmem
  have hmem : '\n' ∈ Text.Utf8.decode (octets.map UInt8.toNat) :=
    (List.rdropWhile_prefix p _).subset hmem
  obtain ⟨octet, hoctet, heq⟩ := List.mem_map.mp (mem_of_lineFeed_mem_decode hmem)
  exact h ((UInt8.toNat_inj.mp heq : octet = lineFeed) ▸ hoctet)

theorem lineFeed_not_mem_of_mem_texts {octets : List UInt8} {text : List Char}
    (h : text ∈ texts octets) : '\n' ∉ text := by
  obtain ⟨line, hline, rfl⟩ := List.mem_map.mp (List.mem_filter.mp h).1
  exact lineFeed_not_mem_text _ (not_mem_of_mem_lines hline)

theorem lineFeed_not_mem_of_atEnd {held : List UInt8} (h : lineFeed ∉ held) {text : List Char}
    (hend : atEnd held = some text) : '\n' ∉ text := by
  unfold atEnd at hend
  split at hend
  · cases hend
  · exact Option.some.inj hend ▸ lineFeed_not_mem_text _ h

theorem lineFeed_not_mem_of_held {octets : List UInt8} (htexts : texts octets ≠ [])
    {arrivals : List Arrival} {text : List Char}
    (h : (receive ⟨octets⟩ arrivals).1 = .ok (some text)) : '\n' ∉ text := by
  obtain ⟨first, later, hfirst⟩ := List.exists_cons_of_ne_nil htexts
  obtain ⟨rest, hreceive, -⟩ := receive_text hfirst arrivals
  rw [hreceive] at h
  cases h
  exact lineFeed_not_mem_of_mem_texts (hfirst ▸ List.mem_cons_self)

/-- No text that is received holds a line feed. -/
theorem lineFeed_not_mem_of_receive {octets : List UInt8} {arrivals : List Arrival}
    {text : List Char} (h : (receive ⟨octets⟩ arrivals).1 = .ok (some text)) : '\n' ∉ text := by
  have hend (hat : atEnd (remainder octets) = some text) : '\n' ∉ text :=
    lineFeed_not_mem_of_atEnd (not_mem_remainder octets) hat
  -- along the arrivals: each adds to what is held, or is the last
  induction arrivals generalizing octets with
  | nil =>
    by_cases htexts : texts octets = []
    · rw [receive_remainder htexts] at h
      split at h
      · cases h
      · exact hend (Except.ok.inj h)
    · exact lineFeed_not_mem_of_held htexts h
  | cons arrival arrivals ih =>
    by_cases htexts : texts octets = []
    · rw [receive_remainder htexts] at h
      split at h
      · cases h
      · cases arrival with
        | octets more => exact ih h (lineFeed_not_mem_of_atEnd (not_mem_remainder _))
        | ended => exact hend (Except.ok.inj h)
        | silence => cases h
    · exact lineFeed_not_mem_of_held htexts h

theorem lineFeed_not_mem_of_mem_receives {n : Nat} {r : LineReader} {arrivals : List Arrival}
    {text : List Char} (h : .ok (some text) ∈ receives n r arrivals) : '\n' ∉ text := by
  induction n generalizing r arrivals with
  | zero => cases h
  | succ n ih =>
    rcases List.mem_cons.mp h with h | h
    · exact lineFeed_not_mem_of_receive h.symm
    · exact ih h

/-! ### Lines that are written -/

/-- The octets of a line before its end. -/
theorem lineOctets_append (text : List Char) (rest : List UInt8) :
    lineOctets text ++ rest = text.flatMap String.utf8EncodeChar ++ lineFeed :: rest := by
  rw [lineOctets, List.append_assoc, List.singleton_append]

theorem lineFeed_not_mem_octets {text : List Char} (h : '\n' ∉ text) :
    lineFeed ∉ text.flatMap String.utf8EncodeChar := fun hmem =>
  h (mem_of_lineFeed_mem_encode (List.mem_map_of_mem hmem))

theorem length_octets (text : List Char) :
    (text.flatMap String.utf8EncodeChar).length = octetLength text := by
  rw [Text.Utf8.octetLength_eq_length, Text.Utf8.encode, List.length_map]

/-- Texts without line feeds are written on a line each, and nothing behind the last. -/
theorem splitOn_lineOctets {sent : List (List Char)} (h : ∀ text ∈ sent, '\n' ∉ text) :
    (sent.flatMap lineOctets).splitOn lineFeed =
      sent.map (·.flatMap String.utf8EncodeChar) ++ [[]] := by
  induction sent with
  | nil => rfl
  | cons text sent ih =>
    rw [List.forall_mem_cons] at h
    rw [List.flatMap_cons, lineOctets_append,
      List.splitOn_append_cons_self_of_not_mem (lineFeed_not_mem_octets h.1), ih h.2, List.map_cons,
      List.cons_append]

/-- A text is found again on its line, without the returns at its end. -/
theorem lineText_octets (text : List Char) :
    lineText (text.flatMap String.utf8EncodeChar) = Text.dropEndWhile (· == '\r') text := by
  rw [lineText]
  exact congrArg _ (Text.Utf8.decode_encode text)

/-- Texts that hold no line feed, do not end in a return and are not empty are found again. -/
theorem transcript_lineOctets {sent : List (List Char)} (h : ∀ text ∈ sent, '\n' ∉ text)
    (hends : ∀ text ∈ sent, Text.dropEndWhile (· == '\r') text = text)
    (hsome : ∀ text ∈ sent, text ≠ []) :
    transcript (sent.flatMap lineOctets) = sent := by
  have hlines : lines (sent.flatMap lineOctets) = sent.map (·.flatMap String.utf8EncodeChar) := by
    rw [lines, splitOn_lineOctets h, List.dropLast_concat]
  have hremainder : remainder (sent.flatMap lineOctets) = [] := by
    simp only [remainder, splitOn_lineOctets h, List.getLast_concat]
  have htexts : texts (sent.flatMap lineOctets) = sent := by
    have hfound : sent.map (lineText ∘ (·.flatMap String.utf8EncodeChar)) = sent.map id :=
      List.map_congr_left fun text hmem => (lineText_octets text).trans (hends text hmem)
    rw [texts, hlines, List.map_map, hfound, List.map_id, List.filter_eq_self]
    exact fun text hmem => by simp [hsome text hmem]
  rw [transcript, htexts, hremainder, lastText, if_pos rfl, List.append_nil]

end VirtualPrinter.Link.LineReader

namespace VirtualPrinter.Wire.Frame

open Json (Value)
open Link (LineReader Arrival lineOctets octetLength maxFrameSize)
open Link.LineReader (Gives receives)

/-- The frames that are sent: those that open and close a session, the frames of events, and the
answers to frames that came in on a line. -/
inductive Sent : Frame → Prop
  | opening : Sent Frame.opening
  | closing : Sent Frame.closing
  | message (e : Event) : Sent (Frame.message e)
  | pong {n : Nat} {arrivals : List Arrival} {text : List Char} {ping : Frame}
      (received : .ok (some text) ∈ receives n LineReader.new arrivals)
      (decoded : decode text = .ok ping) : Sent (pongFor ping)

/-- The frame stands on one line, and is decoded as it was. -/
structure OneLine (f : Frame) : Prop where
  unbroken : '\n' ∉ f.encode
  unended : withoutLineEnds f.encode = f.encode
  decoded : decode f.encode = .ok f

/-- The frame of a marker and what stands behind it. -/
def ofMarked (kind : Kind) (rest : List Char) : Frame :=
  ⟨kind, if rest.isEmpty then none else some (String.ofList rest)⟩

theorem encode_ofMarked (kind : Kind) (rest : List Char) :
    (ofMarked kind rest).encode = kind.marker :: rest := by
  cases rest with
  | nil => rfl
  | cons c rest => simp [encode, ofMarked]

theorem marked_ne_closeWord (kind : Kind) (rest : List Char) : kind.marker :: rest ≠ closeWord := by
  cases kind <;> simp [Kind.marker, closeWord]

theorem decodeTrimmed_marked {kind : Kind} {rest : List Char} (h : kind = .message → rest ≠ []) :
    decodeTrimmed (kind.marker :: rest) = .ok (ofMarked kind rest) := by
  have hmarker : Kind.ofMarker? kind.marker = some kind := Kind.ofMarker?_eq_some_iff.mpr rfl
  rw [decodeTrimmed, if_neg (marked_ne_closeWord kind rest)]
  simp only [hmarker]
  cases rest with
  | nil => cases kind <;> first | rfl | exact absurd rfl (h rfl)
  | cons c rest => simp [ofMarked]

/-- A frame is decoded from the word that stands for a closing one, or from its marker and its payload,
which a message has. -/
theorem decodeTrimmed_eq_ok_iff {text : List Char} {f : Frame} :
    decodeTrimmed text = .ok f ↔ (text = closeWord ∧ f = closing) ∨
      ∃ kind rest, text = kind.marker :: rest ∧ (kind = .message → rest ≠ []) ∧ f = ofMarked kind rest := by
  constructor
  · intro h
    unfold decodeTrimmed at h
    split at h
    · next hword => exact .inl ⟨hword, (Except.ok.inj h).symm⟩
    · split at h
      · cases h
      · next c rest _ =>
        split at h
        · cases h
        · next kind hkind =>
          -- the test for a payload is one of the frame that the text would give
          change (if kind = .message ∧ (ofMarked kind rest).payload = none then
            Except.error (Error.missingPayload kind) else .ok (ofMarked kind rest)) = .ok f at h
          split at h
          · cases h
          · next hpayload =>
            rw [Kind.ofMarker?_eq_some_iff] at hkind
            refine .inr ⟨kind, rest, hkind ▸ rfl, ?_, (Except.ok.inj h).symm⟩
            rintro hmessage rfl
            exact hpayload ⟨hmessage, rfl⟩
  · rintro (⟨rfl, rfl⟩ | ⟨kind, rest, rfl, hmessage, rfl⟩)
    · rfl
    · exact decodeTrimmed_marked hmessage

/-- A text that is no longer without its line ends does not lose returns either. -/
theorem dropReturns_of_unended {text : List Char} (h : withoutLineEnds text = text) :
    Text.dropEndWhile (· == '\r') text = text := by
  refine Text.dropEndWhile_eq_self_iff.mpr fun c hlast => ?_
  have hend : isLineEnd c = false := Text.dropEndWhile_eq_self_iff.mp h c hlast
  exact (Bool.or_eq_false_iff.mp hend).1

/-- A marker is no line end, so a frame ends as its payload does. -/
theorem unended_marked_iff {kind : Kind} {rest : List Char} :
    withoutLineEnds (kind.marker :: rest) = kind.marker :: rest ↔
      ∀ c, rest.getLast? = some c → isLineEnd c = false := by
  rw [withoutLineEnds, Text.dropEndWhile_eq_self_iff]
  cases rest with
  | nil => cases kind <;> simp [Kind.marker, isLineEnd]
  | cons c rest => rw [List.getLast?_cons_cons]

theorem decode_encode_ofMarked {kind : Kind} {rest : List Char}
    (hunended : withoutLineEnds (kind.marker :: rest) = kind.marker :: rest)
    (hmessage : kind = .message → rest ≠ []) :
    decode (ofMarked kind rest).encode = .ok (ofMarked kind rest) := by
  rw [decode, encode_ofMarked, hunended, decodeTrimmed_marked hmessage]

theorem oneLine_marked (kind : Kind) {rest : List Char} (hunbroken : '\n' ∉ rest)
    (hunended : withoutLineEnds (kind.marker :: rest) = kind.marker :: rest)
    (hmessage : kind = .message → rest ≠ []) : OneLine (ofMarked kind rest) where
  unbroken := by
    rw [encode_ofMarked, List.mem_cons, not_or]
    exact ⟨by cases kind <;> decide, hunbroken⟩
  unended := by rw [encode_ofMarked, hunended]
  decoded := decode_encode_ofMarked hunended hmessage

theorem oneLine_bare (kind : Kind) (h : kind ≠ .message) : OneLine (ofMarked kind []) :=
  oneLine_marked kind List.not_mem_nil (by cases kind <;> rfl) fun hmessage => absurd hmessage h

/-- **The frame of an event stands on one line**: its document is printed without control characters
and ends with a bracket. -/
theorem oneLine_message (e : Event) : OneLine (message e) := by
  obtain ⟨text, htext⟩ : ∃ text, e.print = '{' :: text ++ ['}'] := ⟨_, rfl⟩
  have hplain : Json.Plain e.print := Value.plain_print e.toJson
  have hconcat : Kind.marker .message :: e.print = ('4' :: '{' :: text) ++ ['}'] := by
    rw [htext]
    rfl
  have hunended : withoutLineEnds (Kind.marker .message :: e.print) = Kind.marker .message :: e.print := by
    rw [hconcat]
    exact List.rdropWhile_concat_neg _ _ _ (by decide)
  exact oneLine_marked .message hplain.not_mem_lineFeed hunended fun _ => by simp [htext]

/-- **The answer to a frame that came in on a line stands on one line**, as that frame did. -/
theorem oneLine_pongFor {text : List Char} {ping : Frame} (h : '\n' ∉ text)
    (hping : decode text = .ok ping) : OneLine (pongFor ping) := by
  rcases decodeTrimmed_eq_ok_iff.mp hping with ⟨-, rfl⟩ | ⟨kind, rest, htext, -, rfl⟩
  -- a close word has no payload to repeat
  · exact oneLine_bare .pong (by decide)
  · have hstart : kind.marker :: rest <+: text := htext ▸ List.rdropWhile_prefix isLineEnd text
    have hunended : withoutLineEnds (kind.marker :: rest) = kind.marker :: rest :=
      htext ▸ List.rdropWhile_idempotent isLineEnd text
    exact oneLine_marked .pong
      (fun hmem => h (hstart.subset (List.mem_cons_of_mem _ hmem)))
      (unended_marked_iff.mpr (unended_marked_iff.mp hunended)) (by simp)

theorem Sent.oneLine {f : Frame} (h : Sent f) : OneLine f := by
  cases h with
  | opening => exact oneLine_bare .opening (by decide)
  | closing => exact oneLine_bare .closing (by decide)
  | message e => exact oneLine_message e
  | pong received decoded =>
    exact oneLine_pongFor (LineReader.lineFeed_not_mem_of_mem_receives received) decoded

/-- **Frames that are sent are received as they were**, each from a line of its own, however the octets
are cut into reads. -/
theorem frames_received {frames : List Frame} (hsent : ∀ f ∈ frames, Sent f)
    (hsize : ∀ f ∈ frames, octetLength f.encode ≤ maxFrameSize) {reads : List (List UInt8)}
    (hreads : reads.flatten = frames.flatMap fun f => lineOctets f.encode) :
    Gives LineReader.new (reads.map .octets ++ [.ended]) (frames.map encode) (.ok none) ∧
      (frames.map encode).map decode = frames.map .ok := by
  have honeLine : ∀ text ∈ frames.map encode, ∃ f ∈ frames, OneLine f ∧ text = f.encode := by
    intro text hmem
    obtain ⟨f, hf, rfl⟩ := List.mem_map.mp hmem
    exact ⟨f, hf, (hsent f hf).oneLine, rfl⟩
  have hflatten : reads.flatten = (frames.map encode).flatMap lineOctets := by
    rw [hreads, List.flatMap_map]
  have hunbroken : ∀ text ∈ frames.map encode, '\n' ∉ text := by
    intro text hmem
    obtain ⟨f, -, hf, rfl⟩ := honeLine text hmem
    exact hf.unbroken
  have hparts : ∀ part ∈ reads.flatten.splitOn Link.lineFeed, part.length ≤ maxFrameSize := by
    rw [hflatten, LineReader.splitOn_lineOctets hunbroken]
    intro part hpart
    rcases List.mem_append.mp hpart with hpart | hpart
    · obtain ⟨text, hmem, rfl⟩ := List.mem_map.mp hpart
      obtain ⟨f, hf, -, rfl⟩ := honeLine text hmem
      rw [LineReader.length_octets]
      exact hsize f hf
    · rw [List.mem_singleton.mp hpart]
      exact Nat.zero_le _
  -- the lines are the frames, and nothing is left behind the last of them
  have htranscript : LineReader.transcript reads.flatten = frames.map encode := by
    rw [hflatten]
    refine LineReader.transcript_lineOctets hunbroken (fun text hmem => ?_) fun text hmem => ?_
    · obtain ⟨f, -, hf, rfl⟩ := honeLine text hmem
      exact dropReturns_of_unended hf.unended
    · obtain ⟨f, -, -, rfl⟩ := honeLine text hmem
      exact List.cons_ne_nil _ _
  constructor
  · rw [← htranscript]
    obtain ⟨hroom, hlast⟩ := LineReader.hasRoom_of_parts hparts
    exact LineReader.gives_of_room hroom hlast
  · rw [List.map_map]
    exact List.map_congr_left fun f hf => (hsent f hf).oneLine.decoded

/-- A session that is opened, a ping that is answered, an event with a line end in it. -/
theorem frames_received_session :
    let frames := [opening, pongFor ⟨.ping, some "p"⟩, message ⟨"a\nb", .null, none, none⟩, closing]
    let octets := frames.flatMap fun f => lineOctets f.encode
    Gives LineReader.new ([octets.take 3, octets.drop 3].map .octets ++ [.ended])
      (frames.map encode) (.ok none) ∧ (frames.map encode).map decode = frames.map .ok := by
  intro frames octets
  have hparts : ∀ part ∈ [[0x32, 0x70, 13, 10]].flatten.splitOn Link.lineFeed,
      part.length ≤ maxFrameSize := by decide
  have hping : Gives LineReader.new ([[0x32, 0x70, 13, 10]].map .octets ++ [.ended]) [['2', 'p']]
      (.ok none) := by
    obtain ⟨hroom, hlast⟩ := LineReader.hasRoom_of_parts hparts
    exact LineReader.gives_of_room hroom hlast
  have hreceived : .ok (some ['2', 'p']) ∈
      receives 1 LineReader.new ([[0x32, 0x70, 13, 10]].map .octets ++ [.ended]) :=
    hping 1 ▸ List.mem_cons_self
  have hsent : ∀ f ∈ frames, Sent f := by
    simp only [frames, List.forall_mem_cons]
    exact ⟨.opening, .pong hreceived (by decide), .message _, .closing, nofun⟩
  have hsize : ∀ f ∈ frames, octetLength f.encode ≤ maxFrameSize := by decide
  exact frames_received hsent hsize (by simp [octets])

end VirtualPrinter.Wire.Frame
