import VirtualPrinter.Proofs.Machine.Endings
import VirtualPrinter.Proofs.Service.Isolation
import VirtualPrinter.Proofs.Service.Spelling
import VirtualPrinter.Proofs.Text.Lines

/-!
# Commands of several lines

The instruction of a command may be a whole program.  Each line that holds more than a comment is
answered, in order, by one event that names the printer as the command did, and no answer is empty.  So
it does not matter how a program is distributed over commands: the lines of two instructions with a line
feed between them are those of the two, up to returns, and a command that is passed over since it is
blank would not have been answered.

The command is worked off turn by turn.  Others may take frames out of the send queue in the meantime, or
add some; only the printer is left to the command.

## Main definitions

* `Service.spoken`: the lines of a text that are answered.
* `Duty.Chain`: what others do between the turns of a duty.
* `Station.Dispatches`: an event is received and worked off.

## Main results

* `Duty.Course.carried`: what a duty has done so far.
* `Duty.exists_course`: a duty is done, at any times, where its frames have room.
* `Station.batch_splits`: commands of several lines.
-/

namespace VirtualPrinter.Service

open Gcode (reading)
open Link (Pipe)
open Machine (Ended)
open Wire (CommandRequest CommandResponse DeviceId Event Frame)

/-! ### Lines that are answered -/

/-- A line holds more than blanks and a comment. -/
def isSpoken (line : List Char) : Bool := !(Gcode.stripComment line).isEmpty

/-- The lines of a text that hold more than blanks and a comment. -/
def spoken (text : String) : List (List Char) := (Text.lines text.toList).filter isSpoken

theorem isSome_reading (line : List Char) : (reading line).isSome = isSpoken line := by
  unfold reading isSpoken
  cases Gcode.stripComment line <;> rfl

/-- A return at the end of a line is a blank, or part of a comment. -/
theorem reading_dropReturn (line : List Char) : reading (Text.dropReturn line) = reading line := by
  unfold Text.dropReturn
  split
  · next hlast =>
    have hreturn : ∀ c ∈ ['\r'], Text.isBlank c := by simp [Text.isBlank]
    have hline : line.dropLast ++ ['\r'] = line := List.dropLast_append_getLast? _ hlast
    rw [reading, ← Gcode.stripComment_append_blanks hreturn, hline, reading]
  · rfl

theorem map_reading_filter (lines : List (List Char)) :
    (lines.filter isSpoken).map reading = (lines.filterMap reading).map some := by
  induction lines with
  | nil => rfl
  | cons line rest ih =>
    rw [List.filter_cons, List.filterMap_cons, ← isSome_reading]
    cases h : reading line with
    | none => simpa using ih
    | some c => simpa [h] using ih

/-- **The answered lines of two texts with a line feed between them** ask for what those of the two ask
for. -/
theorem map_reading_spoken (s t : String) :
    (spoken (s ++ "\n" ++ t)).map reading = (spoken s ++ spoken t).map reading := by
  have htext : (s ++ "\n" ++ t).toList = s.toList ++ '\n' :: t.toList := by simp
  rw [List.map_append, spoken, spoken, spoken, map_reading_filter, map_reading_filter,
    map_reading_filter, htext, Text.filterMap_lines_append reading_dropReturn rfl, List.map_append]

/-- No line of a blank text is answered. -/
theorem spoken_of_blank {text : String} (h : Text.isBlankText text) : spoken text = [] := by
  have hpieces : (Text.splitOn '\n' text.toList).filterMap reading = [] := by
    refine List.filterMap_eq_nil_iff.mpr fun piece hp => ?_
    have hblank : ∀ c ∈ piece, Text.isBlank c := fun c hc =>
      List.all_eq_true.mp h c (Text.mem_of_mem_splitOn hp hc)
    have hnil := Gcode.stripComment_blanks_append hblank []
    rw [List.append_nil] at hnil
    rw [reading, hnil]
    rfl
  have hreading := map_reading_filter (Text.lines text.toList)
  rw [Text.filterMap_lines reading_dropReturn rfl, hpieces] at hreading
  exact List.map_eq_nil_iff.mp hreading

/-- The frame of an answer to a command that named the printer in its own way. -/
def responseFrame (id : DeviceId) (answer : String) : Frame :=
  .message (CommandResponse.toEvent ⟨id, answer⟩)

theorem answerFrame_of_ended (id : DeviceId) {answer : String} (h : Ended answer) :
    Duty.answerFrame id answer = some (responseFrame id answer) := by
  rw [Duty.answerFrame, if_neg (by simpa using h.ne_empty)]
  rfl

namespace Device

variable {d : Device} {here : Surroundings} {line : List Char}

theorem execute_of_not_spoken (d : Device) (here : Surroundings) (h : isSpoken line = false) :
    d.execute here line = (d, "") := by
  have hnone : reading line = none := by
    rw [← Option.not_isSome_iff_eq_none, isSome_reading, h]
    nofun
  rw [execute_eq, hnone]

/-- A command answers with lines, also where it is refused. -/
theorem perform_ended (d : Device) (here : Surroundings) (c : Gcode.Command) :
    Ended (d.perform here c).2 := by
  have hrefusal (reason : String) : Ended (refusal reason) := Ended.prepend (by decide) _
  unfold perform
  split
  · -- reports are acknowledged or refused
    split
    · exact (by decide : Ended Machine.okay)
    · split
      · exact (by decide : Ended Machine.okay)
      · exact hrefusal _
  · split
    · next h => exact Machine.execute_ended h
    · exact hrefusal _

/-- **A line that holds more than a comment is answered**, and the answer ends its last line. -/
theorem execute_ended (d : Device) (here : Surroundings) (h : isSpoken line) :
    Ended (d.execute here line).2 := by
  rw [← isSome_reading] at h
  obtain ⟨c?, hc⟩ := Option.isSome_iff_exists.mp h
  rw [execute_eq, hc]
  cases c? with
  | none => exact (by decide : Ended Machine.unknownCommand)
  | some c => exact d.perform_ended here c

/-- Of a script, the lines that hold no more than a comment may be left out. -/
theorem converse_filter (d : Device) (id : DeviceId) (script : List (Surroundings × List Char)) :
    let answered := script.filter fun entry => isSpoken entry.2
    (d.converse answered).1 = (d.converse script).1 ∧
      (d.converse script).2.filterMap (Duty.answerFrame id) =
        (d.converse answered).2.map (responseFrame id) ∧
      ∀ answer ∈ (d.converse answered).2, Ended answer := by
  induction script generalizing d with
  | nil => exact ⟨rfl, rfl, nofun⟩
  | cons entry rest ih =>
    obtain ⟨here, line⟩ := entry
    obtain ⟨hdevice, hframes, hanswers⟩ := ih (d.execute here line).1
    cases hline : isSpoken line with
    | false =>
      rw [execute_of_not_spoken d here hline] at hdevice hframes hanswers
      simp only [List.filter_cons, hline, Bool.false_eq_true, if_false, converse,
        execute_of_not_spoken d here hline]
      exact ⟨hdevice, hframes, hanswers⟩
    | true =>
      have hended := d.execute_ended here hline
      simp only [List.filter_cons, hline, if_true, converse, List.filterMap_cons,
        answerFrame_of_ended id hended, List.map_cons]
      exact ⟨hdevice, congrArg _ hframes, List.forall_mem_cons.mpr ⟨hended, hanswers⟩⟩

theorem length_converse (d : Device) (script : List (Surroundings × List Char)) :
    (d.converse script).2.length = script.length := by
  induction script generalizing d with
  | nil => rfl
  | cons entry rest ih => simp [converse, ih]

theorem converse_id (d : Device) (script : List (Surroundings × List Char)) :
    (d.converse script).1.id = d.id := by
  induction script generalizing d with
  | nil => rfl
  | cons entry rest ih => exact (ih _).trans (d.execute_id entry.1 entry.2)

/-- Where tasks can be started, what the lines of a script ask for is all that matters. -/
theorem converse_of_map_reading (d : Device) {script script' : List (Surroundings × List Char)}
    (hr : ∀ entry ∈ script, entry.1.runsTasks) (hr' : ∀ entry ∈ script', entry.1.runsTasks)
    (h : (script.map Prod.snd).map reading = (script'.map Prod.snd).map reading) :
    (d.converse script).1.undated = (d.converse script').1.undated ∧
      (d.converse script).2 = (d.converse script').2 := by
  refine converse_of_reading rfl ?_
  rw [List.map_map, List.map_map, ← List.forall₂_eq_eq_eq, List.forall₂_map_left_iff,
    List.forall₂_map_right_iff] at h
  have hleft := (List.forall₂_and_left _ _).mpr ⟨hr, h⟩
  have hboth := (List.forall₂_and_left _ _).mpr ⟨hr', hleft.flip⟩
  exact hboth.flip.imp fun _ _ hentry => ⟨hentry.2.1.trans hentry.1.symm, hentry.2.2⟩

end Device

/-! ### Duties turn by turn -/

namespace Duty

variable {start duty duty' : Duty} {turns : List Turn} {t : Turn} {s s' : Shared} {p : Progress}
  {here : Surroundings} {d : Device} {queue : Pipe Frame} {f : Frame}

/-- The turns lead from one state of affairs to another, and what others do before, between and after
them is within a relation. -/
def Chain (R : Shared → Shared → Prop) (s : Shared) : List Turn → Shared → Prop
  | [], s' => R s s'
  | t :: turns, s' => R s t.found ∧ Chain R t.left turns s'

/-- Others leave the printer alone. -/
def SamePrinter (s s' : Shared) : Prop := s'.device = s.device

theorem Chain.mono {R R' : Shared → Shared → Prop} (hR : ∀ s s', R s s' → R' s s')
    (h : Chain R s turns s') : Chain R' s turns s' := by
  induction turns generalizing s with
  | nil => exact hR s s' h
  | cons t turns ih => exact ⟨hR _ _ h.1, ih h.2⟩

theorem chain_snoc {R : Shared → Shared → Prop} :
    Chain R s (turns ++ [t]) s' ↔ Chain R s turns t.found ∧ R t.left s' := by
  induction turns generalizing s with
  | nil => rfl
  | cons u turns ih => simp only [List.cons_append, Chain, ih, and_assoc]

/-- The line that a turn executes, and when. -/
def Turn.executed? (t : Turn) : Option (Surroundings × List Char) := t.line.map fun line => (t.here, line)

/-- What a duty has done so far for a printer: it has executed lines of its command, and the answers have
entered the send queue or are about to. -/
structure Carried (start : Duty) (d : Device) (turns : List Turn) (duty : Duty) (d' : Device) :
    Prop where
  device : duty.device = start.device
  lines : (turns.filterMap Turn.executed?).map Prod.snd ++ duty.lines = start.lines
  printer : d' = (d.converse (turns.filterMap Turn.executed?)).1
  frames : turns.flatMap Turn.entered ++ duty.reply.toList =
    (d.converse (turns.filterMap Turn.executed?)).2.filterMap (answerFrame start.device)

theorem Carried.turn (h : Carried start d turns duty t.found.device) (hl : t.line = duty.line?)
    (ht : duty.next t.here t.found.device t.found.queue = .moved duty' t.left.device t.left.queue) :
    Carried start d (turns ++ [t]) duty' t.left.device := by
  have hframes := h.frames
  cases hr : duty.reply with
  | some f =>
    -- the frame of an answer is enqueued, and no line executed
    have hexecuted : t.executed? = none := by simp [Turn.executed?, hl, line?, hr]
    have hscript : (turns ++ [t]).filterMap Turn.executed? = turns.filterMap Turn.executed? := by
      simp [hexecuted]
    rw [hr] at hframes
    obtain ⟨hdevice, ⟨rfl, hitems⟩ | ⟨-, rfl, hitems⟩⟩ := moved_of_reply hr ht
    · have hentered := Turn.entered_of_items hitems
      refine ⟨h.device, by rw [hscript, h.lines], by rw [hscript, hdevice, h.printer], ?_⟩
      rw [hscript, ← hframes]
      simp [hentered]
    · have hentered : t.entered = [] := Turn.entered_of_items (by rw [hitems, List.append_nil])
      refine ⟨h.device, by rw [hscript, h.lines], by rw [hscript, hdevice, h.printer], ?_⟩
      rw [hscript, ← hframes]
      simp [hentered, hr]
  | none =>
    cases hlines : duty.lines with
    | nil =>
      rw [next_of_nothing hr hlines] at ht
      cases ht
    | cons line rest =>
      have hexecuted : t.executed? = some (t.here, line) := by
        simp [Turn.executed?, hl, line?, hr, hlines]
      have hscript : (turns ++ [t]).filterMap Turn.executed? =
          turns.filterMap Turn.executed? ++ [(t.here, line)] := by
        simp [hexecuted]
      rw [next_of_line hr hlines] at ht
      obtain ⟨hduty, hdevice, hqueue⟩ := DutyStep.moved.inj ht
      have hentered : t.entered = [] := Turn.entered_of_items (by rw [hqueue, List.append_nil])
      rw [hr, Option.toList_none, List.append_nil] at hframes
      subst hduty
      refine ⟨h.device, ?_, ?_, ?_⟩
      · rw [hscript, ← h.lines, hlines]
        simp
      · rw [hscript, Device.converse_append, ← h.printer, ← hdevice]
        rfl
      · rw [hscript, Device.converse_append, ← h.printer, List.flatMap_append, hframes,
          List.filterMap_append, ← h.device]
        simp only [List.flatMap_singleton, hentered, List.append_nil, Device.converse,
          List.filterMap_cons, List.filterMap_nil]
        cases answerFrame duty.device (t.found.device.execute t.here line).2 <;> rfl

/-- **What a duty has done so far**, if nobody else has changed the printer. -/
theorem Course.carried (h : start.Course turns p) (hp : p = .underway duty)
    (hstart : start.reply = none) (hc : Chain SamePrinter s turns s') :
    Carried start s.device turns duty s'.device := by
  induction h generalizing duty s' with
  | start =>
    cases hp
    exact ⟨rfl, rfl, hc, by simp [hstart, Device.converse]⟩
  | turn _ hl ht ih =>
    cases hp
    obtain ⟨hc, hleft⟩ := chain_snoc.mp hc
    rw [show s'.device = _ from hleft]
    exact (ih rfl hc).turn hl ht
  | finish | fail => cases hp

/-- **A duty that is done has had its lines answered**, in order. -/
theorem Course.answered (h : start.Course turns .done) (hstart : start.reply = none)
    (hc : Chain SamePrinter s turns s') (hr : ∀ t ∈ turns, t.here.runsTasks) :
    ∃ script, script.map Prod.snd = start.lines.filter isSpoken ∧
      (∀ entry ∈ script, entry.1.runsTasks) ∧ s'.device = (s.device.converse script).1 ∧
      turns.flatMap Turn.entered =
        (s.device.converse script).2.map (responseFrame start.device) ∧
      ∀ answer ∈ (s.device.converse script).2, Ended answer := by
  cases h with
  | @finish _ duty here d queue hcourse hf =>
    have hcarried := hcourse.carried rfl hstart hc
    have hreply := reply_of_finished hf
    have hlines : duty.lines = [] := by
      cases hl : duty.lines with
      | nil => rfl
      | cons line rest =>
        rw [next_of_line hreply hl] at hf
        cases hf
    obtain ⟨hdevice, hframes, hanswers⟩ :=
      s.device.converse_filter start.device (turns.filterMap Turn.executed?)
    refine ⟨_, ?_, fun entry he => ?_, hcarried.printer.trans hdevice.symm, ?_, hanswers⟩
    · have hall := hcarried.lines
      rw [hlines, List.append_nil] at hall
      rw [← hall, List.filter_map]
      rfl
    · obtain ⟨t, ht, hexecuted⟩ := List.mem_filterMap.mp (List.mem_of_mem_filter he)
      obtain ⟨line, -, rfl⟩ := Option.map_eq_some_iff.mp hexecuted
      exact hr t ht
    · have hall := hcarried.frames
      rwa [hreply, Option.toList_none, List.append_nil, hframes] at hall

/-! ### Duties that find room -/

/-- The turns come at the times of a clock. -/
def Timed (clock : Nat → Surroundings) (turns : List Turn) : Prop :=
  turns.map Turn.here = (List.range turns.length).map clock

theorem Timed.snoc {clock : Nat → Surroundings} (h : Timed clock turns)
    (ht : t.here = clock turns.length) : Timed clock (turns ++ [t]) := by
  unfold Timed at h ⊢
  simp [h, ht, List.range_succ]

/-- A duty that has been left alone so far, at the times of a clock. -/
structure Alone (clock : Nat → Surroundings) (start : Duty) (s : Shared) (turns : List Turn)
    (duty : Duty) (s' : Shared) : Prop where
  course : start.Course turns (.underway duty)
  chain : Chain Eq s turns s'
  timed : Timed clock turns

theorem Alone.turn {clock : Nat → Surroundings} (h : Alone clock start s turns duty s')
    (left : Shared)
    (ht : duty.next (clock turns.length) s'.device s'.queue = .moved duty' left.device left.queue) :
    Alone clock start s (turns ++ [⟨clock turns.length, s', duty.line?, left⟩]) duty' left where
  course := .turn h.course rfl ht
  chain := chain_snoc.mpr ⟨h.chain, rfl⟩
  timed := h.timed.snoc rfl

/-- A frame that has room enters. -/
theorem next_of_room {n : Nat} (hr : duty.reply = some f) (hw : duty.waits = false)
    (hq : queue.receiving) (hfits : queue.Fits (n + 1)) : duty.next here d queue =
      .moved { duty with reply := none, waits := false } d
        { queue with items := queue.items ++ [f] } := by
  have hfull : queue.isFull = false := by
    unfold Pipe.Fits at hfits
    simp only [Pipe.isFull, decide_eq_false_iff_not]
    omega
  have hput : queue.put f = .entered { queue with items := queue.items ++ [f] } :=
    Pipe.put_eq_entered_iff.mpr ⟨hq, hfull, rfl⟩
  rw [next_of_reply hr, offered, hw, if_neg Bool.false_ne_true, hput]

/-- **A duty is done, at any times**, where its answers have room and it is left alone. -/
theorem exists_course {clock : Nat → Surroundings} (h : Alone clock start s turns duty ⟨d, queue⟩)
    (hr : duty.reply = none) (hq : queue.receiving)
    (hfits : queue.Fits (duty.lines.filter isSpoken).length) :
    ∃ turns' s' frames, start.Course turns' .done ∧ Chain Eq s turns' s' ∧ Timed clock turns' ∧
      turns'.flatMap Turn.entered = turns.flatMap Turn.entered ++ frames ∧
      s'.queue = { queue with items := queue.items ++ frames } := by
  -- line by line; an answer enters in the turn after that of its line
  generalize hlines : duty.lines = lines at hfits
  induction lines generalizing turns duty d queue with
  | nil =>
    have hnext : duty.next (clock 0) d queue = .finished := next_of_nothing hr hlines
    refine ⟨turns, ⟨d, queue⟩, [], .finish h.course hnext, h.chain, h.timed, ?_, ?_⟩
    · rw [List.append_nil]
    · rw [List.append_nil]
  | cons line rest ih =>
    let answer := (d.execute (clock turns.length) line).2
    let after : Shared := ⟨(d.execute (clock turns.length) line).1, queue⟩
    have hline := h.turn after (next_of_line hr hlines)
    have hentered : Turn.entered ⟨clock turns.length, ⟨d, queue⟩, duty.line?, after⟩ = [] :=
      Turn.entered_of_items (List.append_nil _).symm
    cases hspoken : isSpoken line with
    | false =>
      have hanswer : answerFrame duty.device answer = none := by
        simp only [answer, d.execute_of_not_spoken _ hspoken]
        rfl
      rw [List.filter_cons, hspoken, if_neg Bool.false_ne_true] at hfits
      obtain ⟨turns', s', frames, hcourse, hchain, htimed, hframes, hqueue⟩ :=
        ih hline hanswer hq rfl hfits
      refine ⟨turns', s', frames, hcourse, hchain, htimed, ?_, hqueue⟩
      rw [hframes, List.flatMap_append, List.flatMap_singleton, hentered, List.append_nil]
    | true =>
      have hanswer := answerFrame_of_ended duty.device (d.execute_ended (clock turns.length) hspoken)
      rw [List.filter_cons, hspoken, if_pos rfl, List.length_cons] at hfits
      let frame := responseFrame duty.device answer
      let entered : Shared := ⟨after.device, { queue with items := queue.items ++ [frame] }⟩
      have hframe := hline.turn entered (next_of_room hanswer rfl hq hfits)
      have hfits' : entered.queue.Fits (rest.filter isSpoken).length := by
        simp only [Pipe.Fits, entered, List.length_append, List.length_singleton] at hfits ⊢
        omega
      obtain ⟨turns', s', frames, hcourse, hchain, htimed, hframes, hqueue⟩ :=
        ih hframe rfl hq rfl hfits'
      refine ⟨turns', s', frame :: frames, hcourse, hchain, htimed, ?_, ?_⟩
      · rw [hframes, List.flatMap_append, List.flatMap_append, List.flatMap_singleton,
          List.flatMap_singleton, hentered, @Turn.entered_of_items _ [frame] rfl]
        simp
      · rw [hqueue]
        simp

end Duty

/-! ### Dispatch -/

/-- A name that means a printer is not blank. -/
theorem not_blank_of_denotes {id : DeviceId} {n : UInt32} (h : id.denotes n) :
    Text.isBlankText id.text = false := by
  by_contra hblank
  rw [Bool.not_eq_false] at hblank
  have htrim : Text.trim id.text.toList = [] :=
    Text.trim_append_blanks (List.all_eq_true.mp hblank) []
  rw [DeviceId.denotes, htrim] at h
  exact Bool.false_ne_true h

/-- The event is that of a command, whose texts may be blank. -/
def Asks (e : Event) (r : CommandRequest) : Prop :=
  e.kind = .command ∧
    Wire.readPayload "CommandRequest" CommandRequest.payloadFields ⟨⟨""⟩, ""⟩ e.data = .ok r

variable {e : Event} {r : CommandRequest}

theorem asks_toEvent (r : CommandRequest) : Asks r.toEvent r :=
  ⟨rfl, CommandRequest.readPayload_object.mpr ⟨⟨_, rfl, rfl⟩, _, rfl, rfl⟩⟩

/-- A blank instruction makes a command that is passed over. -/
theorem ofEvent_of_asks (h : Asks e r) (hd : Text.isBlankText r.deviceId.text = false) :
    CommandRequest.ofEvent e =
      if Text.isBlankText r.instruction then .error (Wire.Gap.ofEvent e .blankInstruction)
      else .ok r := by
  rw [CommandRequest.ofEvent, CommandRequest.ofValue, h.2]
  simp only [bind, Except.bind, hd]
  cases Text.isBlankText r.instruction <;> rfl

namespace Station

variable {st : Station} {id : DeviceId} {text : String} {turns : List Duty.Turn} {s s' : Duty.Shared}
  {d : Device}

/-- An event is received, and what it leads to is worked off: the printer is found as it has been left,
and tasks can be started. -/
structure Dispatches (st : Station) (e : Event) (s : Duty.Shared) (turns : List Duty.Turn)
    (s' : Duty.Shared) : Prop where
  course : ∃ duty, st.receive s.device e = (st, .ok duty) ∧ duty.Course turns .done
  chain : Duty.Chain Duty.SamePrinter s turns s'
  tasks : ∀ t ∈ turns, t.here.runsTasks

/-- What a command leads to where commands are executed at once: its lines, unless it is blank. -/
theorem receive_of_asks (hj : st.jobs = none) (hid : id.denotes d.id) (he : Asks e ⟨id, text⟩) :
    ∃ duty, st.receive d e = (st, .ok duty) ∧ duty.reply = none ∧
      duty.lines.filter isSpoken = spoken text ∧ (duty.device = id ∨ duty.lines = []) := by
  have hevent := ofEvent_of_asks he (not_blank_of_denotes hid)
  have hsubmit (r : CommandRequest) : st.submit r = none := by rw [submit, hj, Option.map_none]
  rw [Router.receive_command he.1, receiveCommand, hevent]
  cases hblank : Text.isBlankText text with
  | true => exact ⟨.nothing, rfl, rfl, (spoken_of_blank hblank).symm, .inr rfl⟩
  | false => exact ⟨.ofRequest ⟨id, text⟩, by simp [hid, hsubmit], rfl, rfl, .inl rfl⟩

/-- **A command for the printer has its lines answered**, in order. -/
theorem Dispatches.answered (h : st.Dispatches e s turns s') (hj : st.jobs = none)
    (hid : id.denotes s.device.id) (he : Asks e ⟨id, text⟩) :
    ∃ script, script.map Prod.snd = spoken text ∧ (∀ entry ∈ script, entry.1.runsTasks) ∧
      s'.device = (s.device.converse script).1 ∧
      turns.flatMap Duty.Turn.entered = (s.device.converse script).2.map (responseFrame id) ∧
      ∀ answer ∈ (s.device.converse script).2, Ended answer := by
  obtain ⟨duty, hreceive, hreply, hlines, hdevice⟩ := receive_of_asks hj hid he
  obtain ⟨duty', hreceive', hcourse⟩ := h.course
  obtain rfl : duty' = duty := by
    rw [hreceive] at hreceive'
    cases hreceive'
    rfl
  obtain ⟨script, hscript, htasks, hprinter, hframes, hanswers⟩ :=
    hcourse.answered hreply h.chain h.tasks
  refine ⟨script, hscript.trans hlines, htasks, hprinter, ?_, hanswers⟩
  rw [hframes]
  rcases hdevice with hdevice | hnil
  · rw [hdevice]
  · rw [hnil] at hscript
    have hanswers : (s.device.converse []).2 = [] := rfl
    rw [List.map_eq_nil_iff.mp hscript, hanswers, List.map_nil, List.map_nil]

/-- A command for the printer is worked off, at any times, where there is room for its answers and it is
left alone. -/
theorem exists_dispatches (hj : st.jobs = none) (hid : id.denotes d.id) (he : Asks e ⟨id, text⟩)
    {queue : Pipe Frame} (hq : queue.receiving) (hfits : queue.Fits (spoken text).length)
    {clock : Nat → Surroundings} (hclock : ∀ k, (clock k).runsTasks) :
    ∃ turns s, st.Dispatches e ⟨d, queue⟩ turns s ∧ Duty.Timed clock turns ∧
      Duty.Chain Eq ⟨d, queue⟩ turns s ∧
      s.queue = { queue with items := queue.items ++ turns.flatMap Duty.Turn.entered } := by
  obtain ⟨duty, hreceive, hreply, hlines, -⟩ := receive_of_asks (d := d) hj hid he
  rw [← hlines] at hfits
  have hstart : Duty.Alone clock duty ⟨d, queue⟩ [] duty ⟨d, queue⟩ := ⟨.start, rfl, rfl⟩
  obtain ⟨turns, s, frames, hcourse, hchain, htimed, hframes, hqueue⟩ :=
    Duty.exists_course hstart hreply hq hfits
  rw [List.flatMap_nil, List.nil_append] at hframes
  refine ⟨turns, s, ⟨⟨duty, hreceive, hcourse⟩, hchain.mono fun _ _ h => congrArg _ h.symm, ?_⟩,
    htimed, hchain, hframes ▸ hqueue⟩
  intro t ht
  have hhere : t.here ∈ turns.map Duty.Turn.here := List.mem_map_of_mem ht
  rw [htimed] at hhere
  obtain ⟨k, -, hk⟩ := List.mem_map.mp hhere
  exact hk ▸ hclock k

end Station

end VirtualPrinter.Service
