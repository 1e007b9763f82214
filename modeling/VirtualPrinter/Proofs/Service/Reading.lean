import VirtualPrinter.Proofs.Service.Delivery
import VirtualPrinter.Proofs.Service.Reader
import VirtualPrinter.Proofs.Service.Served
import VirtualPrinter.Proofs.Service.Undisturbed

/-!
# What the reader makes of the texts

Where commands are executed at once, the reader gets into the send queue, does to the printer and
learns from the peer just what the texts amount to, one after the other.  That holds in every run in
which nobody else changes the printer or shuts the connection down, whatever the other tasks, the
application and the peer do in the meantime.

## Main definitions

* `Connection.Reads`: how a connection is related to what the texts amount to.
* `World.HasRead`, `World.Shows`: the reader has done what the texts amount to.

## Main results

* `Reads.read_running`, `Reads.read_over`, `Reads.of_leavesReader`: every move keeps what the texts
  amount to.
* `World.reads_in_order`: what the reader does with the texts in every run.
-/

namespace VirtualPrinter.Service

open Link (Memory Pipe memoryCapacity)
open Wire (Frame)

namespace Served

variable {clock : Nat → Surroundings}

/-- The clock tells what was around at each of the lines that have been executed. -/
def Follows (clock : Nat → Surroundings) (executions : List Surroundings) : Prop :=
  ∀ k x, executions[k]? = some x → clock k = x

theorem Follows.left {xs ys : List Surroundings} (h : Follows clock (xs ++ ys)) :
    Follows clock xs := fun k x hx => by
  obtain ⟨hk, -⟩ := List.getElem?_eq_some_iff.mp hx
  exact h k x (by rw [List.getElem?_append_left hk, hx])

theorem Follows.last {xs : List Surroundings} {x : Surroundings} (h : Follows clock (xs ++ [x])) :
    clock xs.length = x :=
  h xs.length x List.getElem?_concat_length

end Served

namespace Connection

/-- What a connection and its printer show of the texts so far. -/
def shown (c : Connection) (d : Device) (replies : List Frame) (executed : Nat) : Served :=
  ⟨d, c.session.sid, replies, executed, false⟩

/-- How a connection is related to what the texts amount to: what it shows, with what the reader has
still to do and the texts on the way, amounts to the same. -/
structure Reads (clock : Nat → Surroundings) (total : Served) (replies : List Frame)
    (executed : Nat) (cancelled : Bool) (d : Device) (c : Connection) : Prop where
  jobs : c.station.jobs = none
  /-- The writer closes the send queue only for a shutdown. -/
  closing : c.writer.IsClosing → cancelled
  running : cancelled = false → c.reader ≠ .done ∧
    total.Alike (c.link.toClient.items.foldl (Served.hear clock)
      ((c.shown d replies executed).settle clock c.duty))
  /-- When the connection shuts down, the reader has nothing to do, and nothing more is heard. -/
  ended : cancelled → c.duty = .nothing ∧ d.state = total.device.state ∧
    c.session.sid = total.sid ∧ replies = total.frames ∧
    (total.ended ∨ c.link.toClient.receiving = false)

variable {clock : Nat → Surroundings} {total : Served} {replies : List Frame} {executed : Nat}
  {cancelled : Bool} {d d' : Device} {c c' : Connection} {text : Option String}

/-! ### The reader -/

variable {here : Surroundings} {f : Option Frame} {e : Option Surroundings}

/-- A reader that finds the connection shut down ends at once. -/
theorem Reads.read_over (hr : Reads clock total replies executed true d c)
    (h : c.ReaderStep here true d c' d' f e) (hj : c'.station.jobs = none) :
    Reads clock total (replies ++ f.toList) (executed + e.toList.length) true d' c' := by
  obtain ⟨hduty, hstate, hsid, hreplies, hend⟩ := hr.ended rfl
  refine ⟨hj, fun _ => rfl, nofun, fun _ => ?_⟩
  cases h with
  | hear _ hc => cases hc
  | stop =>
    rw [Option.toList_none, List.append_nil]
    exact ⟨rfl, hstate, hsid, hreplies, .inr rfl⟩
  | finish =>
    rw [Option.toList_none, List.append_nil]
    exact ⟨rfl, hstate, hsid, hreplies, hend⟩
  | fail hread hd | enter hread hd | join hread hd =>
    -- a reader with nothing to do has no frame to enqueue
    rw [duty_of_working hread] at hduty
    simp [hduty, Duty.nothing] at hd
  | execute hread hd hl =>
    rw [duty_of_working hread] at hduty
    simp [hduty, Duty.nothing] at hl

/-- The reader goes on, and what is still to be done amounts to the same. -/
theorem Reads.advance {replies' : List Frame} {executed' : Nat}
    (hr : Reads clock total replies executed false d c) (hj : c'.station.jobs = none)
    (hw : c'.writer = c.writer) (hc : c'.station.cancelled = false) (hd : c'.reader ≠ .done)
    (hi : c'.link.toClient.items = c.link.toClient.items)
    (hs : (c'.shown d' replies' executed').settle clock c'.duty =
      (c.shown d replies executed).settle clock c.duty) :
    Reads clock total replies' executed' c'.station.cancelled d' c' where
  jobs := hj
  closing h := absurd (hr.closing (hw ▸ h)) nofun
  running _ := by
    rw [hi, hs]
    exact ⟨hd, (hr.running rfl).2⟩
  ended h := by simp [hc] at h

/-- A text comes in. -/
theorem Reads.read_text {text : String} {pipe : Pipe String} {c₁ : Connection}
    (hr : Reads clock total replies executed false d c) (hc : c.station.cancelled = false)
    (hl : c.reader = .listening) (ht : c.link.read = .item text pipe)
    (hc₁ : c₁ = { c with link := c.link.withToClient pipe, session := c.session.touch })
    (hc' : c' = c₁.heard d (.ofText text.toList)) (hj : c'.station.jobs = none) :
    Reads clock total replies executed c'.station.cancelled d c' := by
  have hl₁ : c₁.reader = .listening := by rw [hc₁, hl]
  have hj₁ : c₁.station.jobs = none := by rw [hc₁, hr.jobs]
  have hcan₁ : c₁.station.cancelled = false := by rw [hc₁, hc]
  have hhear : (c.shown d replies executed).hear clock text =
      Served.settle clock ⟨d, c'.session.sid, replies, executed, c'.station.cancelled⟩ c'.duty := by
    have hsid : (c.shown d replies executed).sid = c₁.session.sid := by rw [hc₁]; rfl
    have h := Served.hear_eq_heard clock hl₁ hj₁ (c.shown d replies executed) hsid rfl hcan₁ text
    rw [show (c.shown d replies executed).device = d from rfl, ← hc'] at h
    exact h
  have htotal := (hr.running rfl).2
  -- the text is the first of those on the way, so it is the next to be heard
  rw [Pipe.items_take ht, List.foldl_cons, duty_of_listening hl, Served.settle_nothing,
    hhear] at htotal
  have hw : c'.writer = c.writer := by
    rw [hc', (heard_leavesWriter c₁ d _).writer, hc₁]
  have hcases := heard_cases hj₁ hl₁ d (.ofText text.toList)
  rw [← hc'] at hcases
  refine ⟨hj, fun h => absurd (hr.closing (hw ▸ h)) nofun, fun hcan => ?_, fun hcan => ?_⟩
  -- the reader goes on, or the text has shut the connection down
  · rcases hcases with ⟨hlink, hreader, -⟩ | he
    · refine ⟨hreader, ?_⟩
      rw [hcan] at htotal
      rw [hlink, hc₁]
      exact htotal
    · simp [he, endReader] at hcan
  · have hduty : c'.duty = .nothing := by
      rcases hcases with ⟨-, -, h | h⟩ | he
      · simp [h, hcan₁] at hcan
      · exact duty_of_working h
      · rw [he]
        rfl
    rw [hduty, Served.settle_nothing, Served.foldl_hear_of_ended clock hcan] at htotal
    exact ⟨hduty, htotal.device.state.symm, htotal.sid.symm, htotal.frames.symm,
      .inl (htotal.ended.trans hcan)⟩

/-- A reader that finds the connection under way does what the texts amount to. -/
theorem Reads.read_running (hs : c.Sound) (hr : Reads clock total replies executed false d c)
    (hc : c.station.cancelled = false) (h : c.ReaderStep here false d c' d' f e)
    (hclock : ∀ x, e = some x → clock executed = x) (hj : c'.station.jobs = none) :
    Reads clock total (replies ++ f.toList) (executed + e.toList.length) c'.station.cancelled d'
      c' := by
  cases h with
  | stop hread hend =>
    have hi : c.link.toClient.items = [] := hend.resolve_left nofun
    have h := (hr.running rfl).2
    rw [hi, duty_of_listening hread, Served.settle_nothing, List.foldl_nil] at h
    rw [Option.toList_none, List.append_nil]
    refine ⟨hj, fun _ => rfl, nofun, fun _ => ⟨rfl, h.device.state.symm, ?_, h.frames.symm,
      .inr rfl⟩⟩
    exact h.sid.symm
  | hear hread _ ht =>
    rw [Option.toList_none, List.append_nil]
    exact hr.read_text hc hread ht rfl rfl hj
  | fail hread hd hq => exact absurd (hr.closing (hs.closed.mp hq)) nofun
  | finish hread hd hl =>
    rw [Option.toList_none, List.append_nil]
    -- the duty is done, and it amounts to nothing any more
    refine hr.advance hj rfl hc nofun rfl ?_
    rw [duty_of_working hread, Served.settle_of_done clock _ hd hl]
    exact Served.settle_nothing clock _
  | enter hread hd hq =>
    refine hr.advance hj rfl hc nofun rfl ?_
    rw [duty_of_working hread, Served.settle_of_reply clock _ hd]
    exact rfl
  | @join duty f hread hd =>
    rw [Option.toList_none, List.append_nil]
    refine hr.advance hj rfl hc nofun rfl ?_
    rw [duty_of_working hread]
    exact rfl
  | @execute duty line rest hread hd hl =>
    rw [Option.toList_none, List.append_nil]
    refine hr.advance hj rfl hc nofun rfl ?_
    have h := Served.settle_answer clock (c.shown d replies executed) duty.device line rest
      (hclock _ rfl)
    rw [duty_of_working hread]
    refine h.trans ?_
    simp only [Served.settle, hd, hl]

/-! ### All other moves -/

/-- A move that leaves the reader and the printer alone leaves what the texts amount to. -/
theorem Reads.of_leavesReader (hr : Reads clock total replies executed cancelled d c)
    (hl : c.LeavesReader c' text) (hclock : ∀ k, (clock k).runsTasks)
    (hj : c'.station.jobs = none) (hw : c'.writer.IsClosing → cancelled)
    (hstate : d'.state = d.state) (hd : cancelled = false → d'.Alike d) :
    Reads clock (text.toList.foldl (Served.hear clock) total) replies executed cancelled d' c' := by
  have hduty : c'.duty = c.duty := by simp only [Connection.duty, hl.reader]
  refine ⟨hj, hw, fun hcan => ?_, fun hcan => ?_⟩
  · obtain ⟨hreader, htotal⟩ := hr.running hcan
    have hshown : (c.shown d replies executed).Alike (c'.shown d' replies executed) :=
      ⟨(hd hcan).symm, hl.sid.symm, rfl, rfl, rfl⟩
    refine ⟨by rwa [hl.reader], ?_⟩
    rw [hl.items, List.foldl_append, hduty]
    -- the text goes behind those on the way, as it goes behind those so far
    exact (htotal.trans ((hshown.settle hclock c.duty).foldl_hear hclock _)).foldl_hear hclock _
  · obtain ⟨hnothing, hs, hsid, hreplies, hend⟩ := hr.ended hcan
    have htotal : text.toList.foldl (Served.hear clock) total = total := by
      -- nothing is heard after the end, and a reader that has ended is sent nothing
      rcases hend with hend | hend
      · exact Served.foldl_hear_of_ended clock hend _
      · cases text with
        | none => rfl
        | some t => simp [hl.sent rfl] at hend
    rw [htotal]
    exact ⟨hduty.trans hnothing, hstate.trans hs, hl.sid.trans hsid, hreplies,
      hend.imp id (hl.receiving.trans ·)⟩

/-- The writer closes the send queue when it finds the connection shut down or shuts it down
itself. -/
theorem isClosing_after_write (hs : c.Sound) (h : c.stepWriter cancelled = some c')
    (hw : c'.writer.IsClosing) : c.writer.IsClosing ∨ cancelled ∨ c'.station.cancelled := by
  obtain ⟨text, failed, hstep⟩ := exists_writerStep h
  cases hstep with
  | close hl hc =>
    simp only [hs.fed, reduceCtorEq, or_false] at hc
    exact .inr (.inl hc)
  | take | send => exact hw.elim
  | draw hl | part hl | flush hl | failFlush hl => rw [hl]; exact .inl trivial
  | farewell | fail => exact .inr (.inr rfl)

/-! ### Where there is room -/

/-- A frame that the reader is about to enqueue is one of those that the texts amount to. -/
theorem Reads.length_lt {duty : Duty} {f : Frame}
    (hr : Reads clock total replies executed false d c) (hl : c.reader = .working duty)
    (hd : duty.reply = some f) : replies.length < total.frames.length := by
  obtain ⟨-, htotal⟩ := hr.running rfl
  have hsettle := Served.frames_settle clock (c.shown d replies executed) c.duty
  -- the frames so far and this one stand at the beginning of what the texts amount to
  have hprefix := hsettle.trans (Served.frames_foldl_hear clock _ c.link.toClient.items)
  rw [← htotal.frames, duty_of_working hl, hd] at hprefix
  have hlen := hprefix.length_le
  rw [List.length_append] at hlen
  exact hlen

theorem Reads.exists_offered {duty : Duty} {f : Frame} (hs : c.Sound)
    (hr : Reads clock total replies executed false d c)
    (hfits : c.station.queue.Fits (total.frames.length - replies.length))
    (hl : c.reader = .working duty) (hd : duty.reply = some f) :
    ∃ queue, duty.offered c.station.queue f = .entered queue ∧
      queue.Fits (total.frames.length - (replies ++ [f]).length) := by
  have hq : c.station.queue.receiving := by
    cases hq : c.station.queue.receiving with
    | true => rfl
    | false => exact absurd (hr.closing (hs.closed.mp hq)) nofun
  have hlt := hr.length_lt hl hd
  have hn : total.frames.length - replies.length =
      total.frames.length - (replies ++ [f]).length + 1 := by
    rw [List.length_append, List.length_singleton]
    omega
  exact Duty.exists_offered f hq (hn ▸ hfits)

/-- As long as there is room, a reader that has something to do goes on. -/
theorem Reads.isSome_stepReader (hs : c.Sound)
    (hr : Reads clock total replies executed false d c)
    (hfits : c.station.queue.Fits (total.frames.length - replies.length))
    (hn : c.reader = .listening → c.link.toClient.items ≠ []) (here : Surroundings) :
    (c.stepReader here false d).isSome := by
  cases hread : c.reader with
  | done => exact absurd hread (hr.running rfl).1
  | listening =>
    cases hi : c.link.toClient.items with
    | nil => exact absurd hi (hn hread)
    | cons text rest =>
      have ht : c.link.read = .item text { c.link.toClient with items := rest } :=
        Pipe.take_eq_item_iff.mpr ⟨hi, rfl⟩
      simp [stepReader, hread, ht]
  | working duty =>
    cases hd : duty.reply with
    | some f =>
      obtain ⟨queue, ho, -⟩ := hr.exists_offered hs hfits hread hd
      simp [stepReader, hread, Duty.next_of_reply hd, ho]
    | none =>
      cases hl : duty.lines with
      | nil => simp [stepReader, hread, Duty.next_of_nothing hd hl]
      | cons line rest => simp [stepReader, hread, Duty.next_of_line hd hl]

/-- Each step brings the reader closer to the end of the texts, or at least to the next of them, and
leaves the room that it needs. -/
theorem Reads.closer (hs : c.Sound) (hr : Reads clock total replies executed false d c)
    (hfits : c.station.queue.Fits (total.frames.length - replies.length))
    (hn : c.reader = .listening → c.link.toClient.items ≠ [])
    (h : c.ReaderStep here false d c' d' f e) :
    c'.station.queue.Fits (total.frames.length - (replies ++ f.toList).length) ∧
    Prod.Lex (· < ·) (· < ·) (c'.link.toClient.items.length, c'.reader.left)
      (c.link.toClient.items.length, c.reader.left) := by
  cases h with
  | stop hread hend => exact absurd (hend.resolve_left nofun) (hn hread)
  | fail hread hd hq => exact absurd (hr.closing (hs.closed.mp hq)) nofun
  | join hread hd hq =>
    obtain ⟨queue, ho, -⟩ := hr.exists_offered hs hfits hread hd
    rw [ho] at hq
    cases hq
  | hear hread hc ht =>
    rw [Option.toList_none, List.append_nil, heard_queue]
    refine ⟨hfits, .left _ _ ?_⟩
    rcases heard_cases (c := { c with link := c.link.withToClient _, session := c.session.touch })
      hr.jobs hread d (.ofText _) with ⟨hlink, -⟩ | he
    · rw [hlink, Pipe.items_take ht]
      exact Nat.lt_succ_self _
    · rw [he, Pipe.items_take ht]
      exact Nat.succ_pos _
  | finish hread hd hl =>
    rw [Option.toList_none, List.append_nil]
    refine ⟨hfits, .right _ ?_⟩
    simp [hread, Reader.left]
  | enter hread hd hq =>
    obtain ⟨queue, ho, hfits'⟩ := hr.exists_offered hs hfits hread hd
    obtain rfl := Link.Put.entered.inj (ho.symm.trans hq)
    refine ⟨hfits', .right _ ?_⟩
    simp [hread, Reader.left, hd]
  | @execute duty line rest hread hd hl =>
    rw [Option.toList_none, List.append_nil]
    refine ⟨hfits, .right _ ?_⟩
    have hreply : (Duty.answerFrame duty.device (d.execute here line).2).isSome.toNat ≤ 1 :=
      Bool.toNat_le _
    simp only [hread, Reader.left, hd, hl, List.length_cons, Option.isSome_none, Bool.toNat_false]
    omega

end Connection

namespace World

variable {w w' : World} {id : Nat} {c c' : Connection} {a : Act}

/-- What is around at each line that the reader of a connection executes: what was around when it
executed the line, or what is around now. -/
def History.clock (h : History) (id : Nat) (now : World) (k : Nat) : Surroundings :=
  (h.moves id).executions[k]?.getD now.here

variable {clock : Nat → Surroundings} {total : Served} {replies : List Frame} {executed : Nat}

/-- A step of the reader leaves what the texts amount to. -/
theorem reads_step (id : Nat) {d' : Device} {x : Option Surroundings} {f : Option Frame} (hs : c.Sound)
    (hr : Connection.Reads clock total replies executed (w.isCancelled c) w.device c)
    (h : c.ReaderStep w.here (w.isCancelled c) w.device c' d' f x)
    (hnow : ∀ y, x = some y → clock executed = y) (hj : c'.station.jobs = none) :
    Connection.Reads clock total (replies ++ f.toList) (executed + x.toList.length)
      (isCancelled { w.update id c' with device := d' } c') d' c' := by
  have hcan' : isCancelled { w.update id c' with device := d' } c' =
      (c'.station.cancelled || c.parent.any w.ordered.contains) := by
    rw [← h.parent]
    rfl
  cases hcan : w.isCancelled c with
  | true =>
    rw [hcan] at h hr
    have hstays : (c'.station.cancelled || c.parent.any w.ordered.contains) = true := by
      rw [Bool.or_eq_true]
      exact (Bool.or_eq_true_iff.mp hcan).imp h.cancelled_of fun h => h
    rw [hcan', hstays]
    exact hr.read_over h hj
  | false =>
    rw [hcan] at h hr
    -- no order from outside, so the connection can only shut down by itself
    obtain ⟨hown, hparent⟩ := Bool.or_eq_false_iff.mp hcan
    rw [hcan', hparent, Bool.or_false]
    exact hr.read_running hs hown h hnow hj

/-- Every act leaves what the texts amount to, with the frame that the reader gets into the send
queue, the line that it executes and the text that the peer sends. -/
theorem reads_apply (hclock : ∀ k, (clock k).runsTasks) (ha : w.apply a = some w')
    (hspares : a ≠ .step (.reader id) → w.Spares w' id) (hc : w.connections[id]? = some c)
    (hc' : w'.connections[id]? = some c') (hs : c.Sound)
    (hr : Connection.Reads clock total replies executed (w.isCancelled c) w.device c)
    (hnow : ∀ x, c.execution (w.moveOf id c a) = some x → clock executed = x) :
    Connection.Reads clock
      ((c.heardText (w.moveOf id c a)).toList.foldl (Served.hear clock) total)
      (replies ++ (c.replied (w.moveOf id c a)).toList)
      (executed + (c.execution (w.moveOf id c a)).toList.length) (w'.isCancelled c') w'.device
      c' := by
  obtain ⟨c₁, hm, hc₁⟩ := apply_connection ha hc
  obtain rfl : c₁ = c' := Option.some.inj (hc₁.symm.trans hc')
  have hj : c₁.station.jobs = none := Connection.jobs_after hm hr.jobs
  by_cases hread : a = .step (.reader id)
  · subst hread
    have hmove : w.moveOf id c (.step (.reader id)) =
        .read w.here (w.isCancelled c) w.device := by
      simp only [moveOf, site, if_true, moveAt]
    obtain ⟨c₂, hc₂, hn⟩ := Option.bind_eq_some_iff.mp ha
    obtain rfl : c₂ = c := Option.some.inj (hc₂.symm.trans hc)
    obtain ⟨⟨c₃, d'⟩, hstep, rfl⟩ := Option.map_eq_some_iff.mp hn
    obtain rfl : c₃ = c₁ := by
      rw [hmove, Connection.after, hstep] at hm
      exact Option.some.inj hm
    rw [hmove] at hnow ⊢
    exact reads_step id hs hr (Connection.stepReader_cases hstep) hnow hj
  · have hm' : ∀ here cancelled d, w.moveOf id c a ≠ .read here cancelled d :=
      fun _ _ _ h => hread (moveOf_eq_read h).1
    have hsp := hspares hread
    have hcan : w'.isCancelled c₁ = w.isCancelled c := by
      rw [← isClosed_eq hc', ← isClosed_eq hc, hsp.closed]
    rw [Connection.replied_eq_none hm', Connection.execution_eq_none hm', Option.toList_none,
      List.append_nil, hcan]
    refine hr.of_leavesReader (Connection.after_leavesReader hm' hm) hclock hj ?_ hsp.state
      fun h => hsp.device ((isClosed_eq hc).trans h)
    intro hw
    -- only the writer closes the send queue, and only for a shutdown
    by_cases hwrite : ∃ cancelled, w.moveOf id c a = .write cancelled
    · obtain ⟨cancelled, hwrite⟩ := hwrite
      rw [hwrite] at hm
      rcases Connection.isClosing_after_write hs hm hw with h | h | h
      · exact hr.closing h
      · rw [← moveOf_eq_write hwrite, h]
      · rw [← hcan, isCancelled, h, Bool.true_or]
    · have hl := Connection.after_leavesWriter (fun _ he => hwrite ⟨_, he⟩) hm
      exact hr.closing (hl.writer ▸ hw)

/-- Every run leaves what the texts amount to. -/
theorem Run.reads {w₀ : World} {h : History} {c₀ : Connection} (hr : w₀.Run h w)
    (hu : h.Undisturbed id) (hclock : ∀ k, (clock k).runsTasks)
    (hfollows : Served.Follows clock (h.moves id).executions)
    (hc₀ : w₀.connections[id]? = some c₀) (hs₀ : c₀.Sound)
    (hreads : Connection.Reads clock total [] 0 (w₀.isCancelled c₀) w₀.device c₀) :
    ∃ c, w.connections[id]? = some c ∧ c.Sound ∧
      Connection.Reads clock ((h.moves id).heardTexts.foldl (Served.hear clock) total)
        (h.moves id).replies (h.moves id).executions.length (w.isCancelled c) w.device c := by
  induction hr with
  -- induction on the run; the clock is the one of the whole run throughout
  | start => exact ⟨c₀, hc₀, hs₀, hreads⟩
  | @act h w w' a hr ha ih =>
    have hf : Served.Follows clock (h.moves id).executions := by
      simp only [History.moves, List.filterMap_append,
        Connection.History.executions_append] at hfollows
      exact hfollows.left
    obtain ⟨c, hc, hs, hreads⟩ := ih (fun p hp => hu p (List.mem_append_left _ hp)) hf
    obtain ⟨c', hm, hc'⟩ := apply_connection ha hc
    have hspares : a ≠ .step (.reader id) → w.Spares w' id := fun hn =>
      hu (w, a) (List.mem_append_right _ List.mem_cons_self) hn w' ha
    rw [History.moves_snoc h hc] at hfollows ⊢
    simp only [Connection.History.executions_append, Connection.History.executions_singleton,
      Connection.History.heardTexts_append, Connection.History.heardTexts_singleton,
      Connection.History.replies_append, Connection.History.replies_singleton,
      List.foldl_append, List.length_append] at hfollows ⊢
    refine ⟨c', hc', hs.after hm, ?_⟩
    refine reads_apply hclock ha hspares hc hc' hs hreads fun x hx => ?_
    rw [hx] at hfollows
    exact hfollows.last

/-! ### The reader at rest -/

/-- The reader of a connection has read all texts, or the connection has shut down and nothing more
is heard. -/
def HasRead (w : World) (id : Nat) : Prop :=
  ∃ c, w.connections[id]? = some c ∧
    (w.isCancelled c ∨ c.reader = .listening ∧ c.link.toClient.items = [])

instance : (r : Reader) → Decidable (r = .listening)
  | .listening => .isTrue rfl
  | .working _ | .done => .isFalse nofun

instance (w : World) (id : Nat) : Decidable (w.HasRead id) :=
  match h : w.connections[id]? with
  | none => .isFalse fun ⟨_, hc, _⟩ => by simp [h] at hc
  | some c =>
    decidable_of_iff (w.isCancelled c ∨ c.reader = .listening ∧ c.link.toClient.items = [])
      ⟨fun hr => ⟨c, h, hr⟩, fun ⟨c', hc, hr⟩ => by rwa [Option.some.inj (h.symm.trans hc)]⟩

/-- The frames that the reader has enqueued, the state of the printer and the name of the session are
what the texts amount to. -/
structure Shows (w : World) (id : Nat) (replies : List Frame) (total : Served) : Prop where
  replies : replies = total.frames
  state : w.device.state = total.device.state
  sid : w.connections[id]?.map (·.session.sid) = some total.sid

/-- A reader that has read all texts shows what they amount to. -/
theorem shows_of_reads (hc : w.connections[id]? = some c)
    (hr : Connection.Reads clock total replies executed (w.isCancelled c) w.device c)
    (hread : w.HasRead id) : w.Shows id replies total := by
  obtain ⟨c', hc', hread⟩ := hread
  obtain rfl : c' = c := Option.some.inj (hc'.symm.trans hc)
  cases hcan : w.isCancelled c' with
  | true =>
    obtain ⟨-, hstate, hsid, hreplies, -⟩ := hr.ended hcan
    exact ⟨hreplies, hstate, by rw [hc, Option.map_some, hsid]⟩
  | false =>
    obtain ⟨hl, hi⟩ := hread.resolve_left (by simp [hcan])
    have h := (hr.running hcan).2
    rw [hi, Connection.duty_of_listening hl, Served.settle_nothing, List.foldl_nil] at h
    refine ⟨h.frames.symm, h.device.state.symm, ?_⟩
    rw [hc, Option.map_some, h.sid]
    rfl

/-- What holds of a connection whose reader goes on alone, in a world as it is now. -/
structure Ready (clock : Nat → Surroundings) (total : Served) (replies : List Frame)
    (executed : Nat) (id : Nat) (w : World) (c : Connection) : Prop where
  connection : w.connections[id]? = some c
  sound : c.Sound
  reads : Connection.Reads clock total replies executed (w.isCancelled c) w.device c
  fits : c.station.queue.Fits (total.frames.length - replies.length)
  now : ∀ k, executed ≤ k → clock k = w.here

/-- A reader that has not read all texts takes a step. -/
theorem Ready.exists_step (h : Ready clock total replies executed id w c) (hn : ¬w.HasRead id) :
    ∃ w' c' executed', w.apply (.step (.reader id)) = some w' ∧
      Ready clock total (replies ++ (c.replied (w.moveOf id c (.step (.reader id)))).toList)
        executed' id w' c' ∧
      Prod.Lex (· < ·) (· < ·) (c'.link.toClient.items.length, c'.reader.left)
        (c.link.toClient.items.length, c.reader.left) := by
  have hcan : w.isCancelled c = false := by
    cases hcan : w.isCancelled c with
    | false => rfl
    | true => exact absurd ⟨c, h.connection, .inl hcan⟩ hn
  have hl : c.reader = .listening → c.link.toClient.items ≠ [] := fun hl hi =>
    hn ⟨c, h.connection, .inr ⟨hl, hi⟩⟩
  have hr := h.reads
  rw [hcan] at hr
  obtain ⟨⟨c', d'⟩, hstep⟩ :=
    Option.isSome_iff_exists.mp (hr.isSome_stepReader h.sound h.fits hl w.here)
  have hmove : w.moveOf id c (.step (.reader id)) = .read w.here false w.device := by
    simp only [moveOf, site, if_true, moveAt, hcan]
  have hm : c.after (.read w.here false w.device) = some c' := by
    rw [Connection.after, hstep, Option.map_some]
  have hcases := Connection.stepReader_cases hstep
  obtain ⟨hfits, hcloser⟩ := hr.closer h.sound h.fits hl hcases
  obtain ⟨hlt, -⟩ := List.getElem?_eq_some_iff.mp h.connection
  have hnow : ∀ y, c.execution (.read w.here false w.device) = some y → clock executed = y :=
    fun y hy => (h.now executed (Nat.le_refl _)).trans (Connection.eq_of_execution hy).symm
  have hreads := reads_step id h.sound h.reads (hcan ▸ hcases) hnow
    (Connection.jobs_after hm hr.jobs)
  rw [hmove]
  refine ⟨{ w.update id c' with device := d' }, c', _, ?_,
    ⟨?_, h.sound.after hm, hreads, hfits, fun k hk => ?_⟩, hcloser⟩
  · simp [apply, next, h.connection, hcan, hstep]
  · simp [hlt]
  · exact h.now k (Nat.le_trans (Nat.le_add_right _ _) hk)

/-- Steps of the reader alone lead to the end of the texts. -/
theorem Ready.exists_hasRead {w : World} {c : Connection} {replies : List Frame} {executed : Nat}
    (h : Ready clock total replies executed id w c) :
    ∃ n w', w.play (List.replicate n (.step (.reader id))) = some w' ∧ w'.HasRead id ∧
      w'.Shows id (replies ++ ((w.chronicle (List.replicate n (.step (.reader id)))).moves
        id).replies) total := by
  by_cases hdone : w.HasRead id
  · refine ⟨0, w, rfl, hdone, ?_⟩
    have hnil : ((w.chronicle (List.replicate 0 (.step (.reader id)))).moves id).replies = [] := rfl
    rw [hnil, List.append_nil]
    exact shows_of_reads h.connection h.reads hdone
  · obtain ⟨w₁, c₁, executed₁, hstep, h₁, hcloser⟩ := h.exists_step hdone
    obtain ⟨n, w', hplay, hread, hshows⟩ := h₁.exists_hasRead
    refine ⟨n + 1, w', ?_, hread, ?_⟩
    · rw [List.replicate_succ, play, List.foldlM_cons, hstep]
      exact hplay
    · rw [List.replicate_succ]
      have hmoves : (w.chronicle (.step (.reader id) :: List.replicate n (.step (.reader id)))).moves
          id = (c, w.moveOf id c (.step (.reader id))) ::
            (w₁.chronicle (List.replicate n (.step (.reader id)))).moves id := by
        simp [chronicle, hstep, History.moves, h.connection]
      rw [hmoves, ← List.singleton_append, Connection.History.replies_append,
        Connection.History.replies_singleton, ← List.append_assoc]
      exact hshows
termination_by (c.link.toClient.items.length, c.reader.left)
decreasing_by exact hcloser

/-! ### Runs from the start -/

/-- Tasks can be started wherever the reader executes a line. -/
theorem History.clock_runsTasks (h : History) (id : Nat) (now : World) (k : Nat) :
    (h.clock id now k).runsTasks := by
  unfold History.clock
  cases hx : (h.moves id).executions[k]? with
  | none => rfl
  | some x =>
    obtain ⟨⟨c, m⟩, hm, hx⟩ := List.mem_filterMap.mp (List.mem_of_getElem? hx)
    obtain ⟨⟨w, a⟩, -, hm⟩ := List.mem_filterMap.mp hm
    obtain ⟨c', -, hm⟩ := Option.map_eq_some_iff.mp hm
    obtain ⟨rfl, rfl⟩ := Prod.mk.inj hm
    dsimp only at hx
    cases hmove : w.moveOf id c' a with
    | read here cancelled d =>
      rw [hmove] at hx
      rw [Option.getD_some, Connection.eq_of_execution hx, (moveOf_eq_read hmove).2.1]
      rfl
    | _ => simp [hmove, Connection.execution] at hx

theorem History.follows_clock (h : History) (id : Nat) (now : World) :
    Served.Follows (h.clock id now) (h.moves id).executions := fun k x hx => by
  rw [History.clock, hx, Option.getD_some]

theorem History.clock_now (h : History) (id : Nat) (now : World) (k : Nat)
    (hk : (h.moves id).executions.length ≤ k) : h.clock id now k = now.here := by
  rw [History.clock, List.getElem?_eq_none hk, Option.getD_none]

/-- A connection that has just been made shows nothing, and the texts on the way are those that the
peer has sent before. -/
theorem establish_reads {w₀ : World} {config : Config} {parent : Option Nat} {link : Memory}
    (hd : config.dispatch = .inline) (he : w₀.establish config parent link = .ok w)
    (ho : w.isClosed w₀.connections.length = false)
    (hc : w.connections[w₀.connections.length]? = some c) :
    Connection.Reads clock
      (link.toClient.items.foldl (Served.hear clock) ⟨w.device, none, [], 0, false⟩) [] 0
      (w.isCancelled c) w.device c := by
  rw [isClosed_eq hc] at ho
  obtain ⟨link', device, hl, -, rfl⟩ := establish_eq_ok he
  obtain ⟨-, -, -, rfl⟩ := Memory.write_eq_done_iff.mp hl
  rw [List.getElem?_concat_length] at hc
  cases hc
  exact ⟨Connection.start_jobs hd _ _ _, False.elim, fun _ => ⟨nofun, .refl _⟩,
    fun h => absurd (ho.symm.trans h) nofun⟩

/-- A peer gives a name, sends a sign of life, something that is no frame, a command under its older
name with a line that has no answer, and a command for another printer, while the application enqueues
a frame. -/
def visit : List Act :=
  ["0\x7b\"sid\":\"s\"\x7d", "2x", "?",
      "4\x7b\"event\":\"send_gcode\",\"data\":\x7b\"printerid\":\"1\",\"gcode\":\"G91\\n;\"\x7d\x7d"].map
    (.peerWrite 0) ++
    List.replicate 4 (.step (.reader 0)) ++
    [.offer 0 ⟨.ping, none⟩,
      .peerWrite 0 "4\x7b\"event\":\"command\",\"data\":\x7b\"deviceId\":\"7\",\"instruction\":\"G90\"\x7d\x7d"] ++
    List.replicate 9 (.step (.reader 0))

end World

end VirtualPrinter.Service
