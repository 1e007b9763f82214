import VirtualPrinter.Proofs.Wire.Lines

/-!
# Frames and their texts

Line ends behind a frame do not count, a word stands for a bare closing frame, and a payload that is
empty is none.  So the texts that are read as a frame are more than its own, and some frames are not
read back from their own text.

## Main definitions

* `Frame.Core`: a text without the line ends behind it.
* `Frame.Restorable`: the frames that are read back from their text.

## Main results

* `decode_encode_iff`: a frame is read back from its text if it is restorable, and only then.
* `encode_of_decode`: the text of a frame that was read.
* `exists_decode_iff`: the texts that are read as a frame.
-/

namespace VirtualPrinter.Wire.Frame

variable {f : Frame} {kind : Kind} {text core rest : List Char}

/-- What is left of a text without the line ends behind it. -/
structure Core (core text : List Char) : Prop where
  split : ∃ ends, text = core ++ ends ∧ ∀ c ∈ ends, c = '\r' ∨ c = '\n'
  ended : ∀ c, core.getLast? = some c → c ≠ '\r' ∧ c ≠ '\n'

/-- The frame has no payload and is no message, or its payload is a text that is not empty and does not
end with a line end. -/
def Restorable (f : Frame) : Prop :=
  match f.payload with
  | none => f.kind ≠ .message
  | some payload => ∃ c, payload.toList.getLast? = some c ∧ c ≠ '\r' ∧ c ≠ '\n'

/-! ### Line ends -/

theorem isLineEnd_iff {c : Char} : isLineEnd c ↔ c = '\r' ∨ c = '\n' := by
  rw [isLineEnd, Bool.or_eq_true, beq_iff_eq, beq_iff_eq]

theorem isLineEnd_eq_false_iff {c : Char} : isLineEnd c = false ↔ c ≠ '\r' ∧ c ≠ '\n' := by
  rw [← Bool.not_eq_true, isLineEnd_iff, not_or]

theorem core_iff : Core core text ↔ core = withoutLineEnds text := by
  rw [withoutLineEnds, Text.eq_dropEndWhile_iff]
  simp only [isLineEnd_iff, isLineEnd_eq_false_iff]
  exact ⟨fun h => ⟨h.split, h.ended⟩, fun h => ⟨h.1, h.2⟩⟩

/-! ### Frames that are read back -/

theorem Restorable.eq_ofMarked (h : f.Restorable) :
    f = ofMarked f.kind (f.payload.getD "").toList := by
  obtain ⟨kind, payload?⟩ := f
  cases payload? with
  | none => rfl
  | some payload =>
    obtain ⟨c, hlast, -⟩ := h
    have hsome : payload.toList ≠ [] := fun hnil => by simp [hnil] at hlast
    simp [ofMarked, hsome]

theorem restorable_ofMarked : (ofMarked kind rest).Restorable ↔
    (kind = .message → rest ≠ []) ∧ ∀ c, rest.getLast? = some c → isLineEnd c = false := by
  cases rest with
  | nil => simp [Restorable, ofMarked]
  | cons c rest =>
    have hlast : (c :: rest).getLast? = some ((c :: rest).getLast (List.cons_ne_nil c rest)) :=
      List.getLast?_eq_some_getLast _
    simp [Restorable, ofMarked, hlast, isLineEnd_eq_false_iff]

/-- **A frame is read back from its text** if it is restorable, and only then. -/
theorem decode_encode_iff : decode f.encode = .ok f ↔ f.Restorable := by
  constructor
  · intro h
    rcases decodeTrimmed_eq_ok_iff.mp h with ⟨-, rfl⟩ | ⟨kind, rest, hcore, hmessage, rfl⟩
    · exact (restorable_ofMarked : (ofMarked .closing []).Restorable ↔ _).mpr ⟨nofun, nofun⟩
    · rw [encode_ofMarked] at hcore
      exact restorable_ofMarked.mpr ⟨hmessage, unended_marked_iff.mp hcore⟩
  · intro h
    obtain ⟨kind, rest, rfl⟩ : ∃ kind rest, f = ofMarked kind rest := ⟨_, _, h.eq_ofMarked⟩
    obtain ⟨hmessage, hended⟩ := restorable_ofMarked.mp h
    exact decode_encode_ofMarked (unended_marked_iff.mpr hended) hmessage

/-! ### Texts that are read -/

/-- **The text of a frame that was read** is what it was read from, without the line ends, or stands in
place of a word; and the frame is read from it again. -/
theorem encode_of_decode (h : decode text = .ok f) :
    decode f.encode = .ok f ∧
      f.encode = if withoutLineEnds text = closeWord then closing.encode else withoutLineEnds text := by
  rcases decodeTrimmed_eq_ok_iff.mp h with ⟨hword, rfl⟩ | ⟨kind, rest, hcore, hmessage, rfl⟩
  · exact ⟨rfl, (if_pos hword).symm⟩
  · have hunended : withoutLineEnds (kind.marker :: rest) = kind.marker :: rest :=
      hcore ▸ List.rdropWhile_idempotent isLineEnd text
    refine ⟨decode_encode_ofMarked hunended hmessage, ?_⟩
    rw [hcore, if_neg (marked_ne_closeWord kind rest), encode_ofMarked]

/-- **The texts that are read as a frame**, told by what is left of them without line ends. -/
theorem exists_decode_iff : (∃ f, decode text = .ok f) ↔
    withoutLineEnds text = closeWord ∨
      (∃ c rest, withoutLineEnds text = c :: rest ∧ c ∈ ['0', '1', '2', '3']) ∨
      ∃ c rest, withoutLineEnds text = '4' :: c :: rest := by
  constructor
  · rintro ⟨f, h⟩
    rcases decodeTrimmed_eq_ok_iff.mp h with ⟨hword, -⟩ | ⟨kind, rest, hcore, hmessage, -⟩
    · exact .inl hword
    · rw [hcore]
      -- of all kinds a message alone needs something behind its marker
      cases kind with
      | message =>
        obtain ⟨c, rest, rfl⟩ := List.exists_cons_of_ne_nil (hmessage rfl)
        exact .inr (.inr ⟨c, rest, rfl⟩)
      | opening | closing | ping | pong => exact .inr (.inl ⟨_, rest, rfl, by decide⟩)
  · have hread (kind : Kind) {rest : List Char} (hcore : withoutLineEnds text = kind.marker :: rest)
        (hmessage : kind = .message → rest ≠ []) : ∃ f, decode text = .ok f :=
      ⟨_, decodeTrimmed_eq_ok_iff.mpr (.inr ⟨kind, rest, hcore, hmessage, rfl⟩)⟩
    rintro (hword | ⟨c, rest, hcore, hmarker⟩ | ⟨c, rest, hcore⟩)
    · exact ⟨closing, decodeTrimmed_eq_ok_iff.mpr (.inl ⟨hword, rfl⟩)⟩
    · simp only [List.mem_cons, List.not_mem_nil, or_false] at hmarker
      rcases hmarker with rfl | rfl | rfl | rfl
      · exact hread .opening hcore nofun
      · exact hread .closing hcore nofun
      · exact hread .ping hcore nofun
      · exact hread .pong hcore nofun
    · exact hread .message hcore fun _ => List.cons_ne_nil c rest

/-- **Frames and their texts.**  A frame is read back from its text if it has no payload and is no
message, or a payload that is not empty and does not end with a line end.  A frame that was read is read
again from its own text, which is the one it was read from without its line ends, or the marker of a
closing frame where that is the word for one.  A text is read if what is left of it without its line
ends is that word, starts with one of the other markers, or has something behind that of a message. -/
theorem reads_exactly :
    (∀ f : Frame, decode f.encode = .ok f ↔ f.Restorable) ∧
    (∀ text, ∃! core, Core core text) ∧
    ∀ text core, Core core text →
      (∀ f, decode text = .ok f → decode f.encode = .ok f ∧
        f.encode = if core = closeWord then closing.encode else core) ∧
      ((∃ f, decode text = .ok f) ↔ core = closeWord ∨
        (∃ c rest, core = c :: rest ∧ c ∈ ['0', '1', '2', '3']) ∨ ∃ c rest, core = '4' :: c :: rest) := by
  refine ⟨fun f => decode_encode_iff, fun text => ?_, fun text core hcore => ?_⟩
  · exact ⟨_, core_iff.mpr rfl, fun _ hcore => core_iff.mp hcore⟩
  · obtain rfl := core_iff.mp hcore
    exact ⟨fun f => encode_of_decode, exists_decode_iff⟩

/-- A ping with two line ends behind it. -/
theorem reads_exactly_probe :
    let text := ['2', 'p', '\r', '\n']
    let ping : Frame := ⟨.ping, some "p"⟩
    Core ['2', 'p'] text ∧ decode text = .ok ping ∧ decode ping.encode = .ok ping ∧
      ping.encode = ['2', 'p'] := by
  intro text ping
  have hcore : Core ['2', 'p'] text := core_iff.mpr rfl
  have hdecode : decode text = .ok ping := by decide
  exact ⟨hcore, hdecode, (reads_exactly.2.2 text _ hcore).1 ping hdecode⟩

end VirtualPrinter.Wire.Frame
