import VirtualPrinter.Proofs.Service.Outbound
import VirtualPrinter.Proofs.Service.Run

/-!
# What the peer is sent

Whatever the tasks, the application and the peer do, and whenever a connection shuts down: the peer is
sent the opening frame, then the frames that have entered the send queue, in the order in which they
entered, and at the end the closing frame.  Frames are lost only where the link fails, and then they
are the last ones.

## Main definitions

* `Connection.pending`: the frames that the writer has still to write.
* `Connection.Delivers`: how what has been written is related to what has entered.
* `Connection.Carries`: how what the peer has taken is related to what has been written.

## Main results

* `Delivers.after`, `Carries.after`: every move keeps them.
* `World.delivers_in_order`: what the peer gets in every run.
-/

namespace VirtualPrinter.Wire

/-- The text of a frame. -/
abbrev Frame.text (f : Frame) : String := String.ofList f.encode

end VirtualPrinter.Wire

namespace VirtualPrinter.Service

open Link (Memory Pipe memoryCapacity)
open Wire (Frame)

namespace Connection

/-- The frames that the writer has still to write, the first one first. -/
def pending (c : Connection) : List Frame :=
  match c.writer with
  | .writing f | .flushing f => f :: c.station.queue.items
  | .listening | .draining | .parting | .done => c.station.queue.items

/-- How the texts that have been written are related to the frames that have entered: the writer has
written the frames of `sent` and then `farewell`, and the frames of `rest` have not come to the
link. -/
structure Delivers (entered : List Frame) (written : List String) (broken : Bool) (c : Connection)
    (sent rest : List Frame) (farewell : List String) : Prop where
  entered : entered = sent ++ rest
  written : written = sent.map Frame.text ++ farewell
  framesOut : c.session.framesOut = sent.length + 1
  /-- Nothing is lost before the link fails. -/
  rest : broken = false → rest = c.pending
  /-- The writer says farewell once, when nothing is left to write. -/
  farewell : farewell = [] ∧ (c.writer = .done → broken) ∨
    farewell = ["1"] ∧ c.writer = .done ∧ broken = false
  parted : c.writer = .parting ∨ c.writer = .done → broken = false → c.pending = []
  /-- When the link has failed the writer parts, and nobody takes what it would write. -/
  broken : broken → (c.writer = .parting ∨ c.writer = .done) ∧ c.link.toPeer.receiving = false

/-- How the texts that the peer has taken are related to those that have been written. -/
structure Carries (written received : List String) (c : Connection) : Prop where
  items : c.link.toPeer.receiving → received ++ c.link.toPeer.items = "0" :: written
  received : received <+: "0" :: written

variable {c c' : Connection} {entered sent rest : List Frame} {written received farewell : List String}
  {broken cancelled gone : Bool} {f : Option Frame} {x : Option String}

/-! ### Moves other than the writer's -/

theorem LeavesWriter.pending_eq (hl : c.LeavesWriter c' f x gone) :
    c'.pending = c.pending ++ f.toList := by
  unfold pending
  rw [hl.writer, hl.queue.items]
  cases c.writer <;> rfl

theorem isClosing_of_parted (hw : c.writer = .parting ∨ c.writer = .done) : c.writer.IsClosing := by
  rcases hw with hw | hw <;> rw [hw] <;> trivial

theorem Delivers.of_leavesWriter (hd : Delivers entered written broken c sent rest farewell)
    (hs : c.Sound) (hl : c.LeavesWriter c' f x gone) :
    Delivers (entered ++ f.toList) written broken c' sent (rest ++ f.toList) farewell where
  entered := by rw [hd.entered, List.append_assoc]
  written := hd.written
  framesOut := by rw [hl.framesOut, hd.framesOut]
  rest hb := by rw [hl.pending_eq, hd.rest hb]
  farewell := by
    rw [hl.writer]
    exact hd.farewell
  parted hw hb := by
    rw [hl.writer] at hw
    rw [hl.pending_eq, hd.parted hw hb, hl.eq_none hs (isClosing_of_parted hw)]
    rfl
  broken hb := by
    obtain ⟨hw, hr⟩ := hd.broken hb
    exact ⟨hl.writer ▸ hw, hl.toPeer.receiving hr⟩

theorem Carries.of_leavesWriter (hc : Carries written received c) (hs : c.Sound)
    (hl : c.LeavesWriter c' f x gone) : Carries written (received ++ x.toList) c' := by
  cases hl.toPeer with
  | nothing h =>
    rw [Option.toList_none, List.append_nil]
    exact ⟨h ▸ hc.items, hc.received⟩
  | @item y hy hq =>
    -- a peer that has left finds nothing to take
    have hr : c.link.toPeer.receiving := by
      cases hr : c.link.toPeer.receiving with
      | true => rfl
      | false => simp [hs.lost hr] at hy
    have hi := hc.items hr
    rw [hy, List.append_cons] at hi
    exact ⟨fun _ => hi, _, hi⟩
  | left h =>
    rw [Option.toList_none, List.append_nil]
    exact ⟨fun hr => by simp [h, Pipe.dropTaker] at hr, hc.received⟩

/-! ### The writer -/

theorem Carries.after_write (hc : Carries written received c)
    (hw : c.WriterStep cancelled c' x broken) : Carries (written ++ x.toList) received c' := by
  -- what is written stands behind what is on the way
  have hdone {link : Memory} {text : String} (hl : c.link.write text = .done link) :
      Carries (written ++ [text]) received { c with link := link } := by
    obtain ⟨-, hr, -, rfl⟩ := Memory.write_eq_done_iff.mp hl
    refine ⟨fun _ => ?_, hc.received.trans ?_⟩
    · rw [← List.append_assoc, hc.items hr, List.cons_append]
    · rw [← List.cons_append]
      exact List.prefix_append _ _
  cases hw with
  -- only a text that gets to the link is to be looked at
  | send _ hl => exact { hdone hl with }
  | flush _ hl => exact { hdone hl with }
  | farewell _ hl => exact { hdone hl with }
  | close | take | draw | part | fail | failFlush =>
    rw [Option.toList_none, List.append_nil]
    exact { hc with }

/-- The link has not failed as long as the writer has not parted. -/
theorem Delivers.broken_eq_false (hd : Delivers entered written broken c sent rest farewell)
    (hp : c.writer ≠ .parting) (hn : c.writer ≠ .done) : broken = false := by
  cases hb : broken with
  | false => rfl
  | true => exact absurd (hd.broken hb).1 (by simp [hp, hn])

theorem Delivers.farewell_eq_nil (hd : Delivers entered written broken c sent rest farewell)
    (hn : c.writer ≠ .done) : farewell = [] := by
  rcases hd.farewell with ⟨hf, -⟩ | ⟨-, hw, -⟩
  · exact hf
  · exact absurd hw hn

/-- The writer goes on and writes nothing. -/
theorem Delivers.advance (hd : Delivers entered written broken c sent rest farewell)
    (hp : c.writer ≠ .parting) (hn : c.writer ≠ .done) (hpending : c'.pending = c.pending)
    (hout : c'.session.framesOut = c.session.framesOut) (hn' : c'.writer ≠ .done)
    (hp' : c'.writer = .parting → c.pending = []) :
    Delivers entered written broken c' sent rest farewell where
  entered := hd.entered
  written := hd.written
  framesOut := hout.trans hd.framesOut
  rest hb := hpending ▸ hd.rest hb
  farewell := .inl ⟨hd.farewell_eq_nil hn, fun h => absurd h hn'⟩
  parted hw _ := hpending.trans (hp' (hw.resolve_right hn'))
  broken hb := by simp [hd.broken_eq_false hp hn] at hb

/-- The writer gets the next frame to the link. -/
theorem Delivers.writes {f : Frame} (hd : Delivers entered written broken c sent rest farewell)
    (hp : c.writer ≠ .parting) (hn : c.writer ≠ .done) (hpending : c.pending = f :: c'.pending)
    (hout : c'.session.framesOut = c.session.framesOut + 1) (hn' : c'.writer ≠ .done)
    (hp' : c'.writer ≠ .parting) :
    Delivers entered (written ++ [f.text]) broken c' (sent ++ [f]) c'.pending farewell where
  entered := by
    rw [hd.entered, hd.rest (hd.broken_eq_false hp hn), hpending, List.append_cons]
  written := by
    rw [hd.written, hd.farewell_eq_nil hn, List.append_nil, List.append_nil, List.map_append]
    rfl
  framesOut := by rw [hout, hd.framesOut, List.length_append, List.length_singleton]
  rest _ := rfl
  farewell := .inl ⟨hd.farewell_eq_nil hn, fun h => absurd h hn'⟩
  parted hw _ := absurd hw (by simp [hp', hn'])
  broken hb := by simp [hd.broken_eq_false hp hn] at hb

/-- The link fails under the writer. -/
theorem Delivers.fails {e : Link.Error} {text : String} (hs : c.Sound)
    (hd : Delivers entered written broken c sent rest farewell) (hn : c.writer ≠ .done)
    (hl : c.link.write text = .failed e) (hout : c'.session.framesOut = c.session.framesOut)
    (hr : c'.link.toPeer.receiving = c.link.toPeer.receiving)
    (hw : c'.writer = .parting ∨ c'.writer = .done) :
    Delivers entered written true c' sent rest farewell where
  entered := hd.entered
  written := hd.written
  framesOut := hout.trans hd.framesOut
  rest := nofun
  farewell := .inl ⟨hd.farewell_eq_nil hn, fun _ => rfl⟩
  parted := nofun
  broken _ := ⟨hw, hr.trans (hs.receiving_eq_false hn hl)⟩

/-- The writer says farewell. -/
theorem Delivers.parts {link : Memory} (hd : Delivers entered written broken c sent rest farewell)
    (hw : c.writer = .parting) (hl : c.link.write "1" = .done link) :
    Delivers entered (written ++ ["1"]) broken { c with link := link }.endWriter sent rest
      ["1"] := by
  have hn : c.writer ≠ .done := by simp [hw]
  have hb : broken = false := by
    obtain ⟨-, hr, -⟩ := Memory.write_eq_done_iff.mp hl
    cases hb : broken with
    | false => rfl
    | true => simp [(hd.broken hb).2] at hr
  have hrest : rest = [] := (hd.rest hb).trans (hd.parted (.inl hw) hb)
  exact {
    entered := hd.entered
    written := by rw [hd.written, hd.farewell_eq_nil hn, List.append_nil]
    framesOut := hd.framesOut
    rest := fun _ => hrest
    farewell := .inr ⟨rfl, rfl, hb⟩
    parted := fun _ _ => rfl
    broken := fun h => by simp [hb] at h }

theorem Delivers.after_write {failed : Bool}
    (hd : Delivers entered written broken c sent rest farewell) (hs : c.Sound)
    (hw : c.WriterStep cancelled c' x failed) :
    ∃ sent rest farewell,
      Delivers entered (written ++ x.toList) (broken || failed) c' sent rest farewell := by
  cases hw with
  | close hw hc =>
    rw [Option.toList_none, List.append_nil, Bool.or_false]
    exact ⟨_, _, _, hd.advance (by simp [hw]) (by simp [hw])
      (by simp [pending, hw, withQueue, Pipe.stopReceiving]) rfl nofun nofun⟩
  -- the writer takes a frame over from the send queue: what is pending stays
  | take hw hc hq =>
    rw [Option.toList_none, List.append_nil, Bool.or_false]
    exact ⟨_, _, _, hd.advance (by simp [hw]) (by simp [hw])
      (by simp [pending, hw, withQueue, Pipe.items_take hq]) rfl nofun nofun⟩
  | draw hw hq =>
    rw [Option.toList_none, List.append_nil, Bool.or_false]
    exact ⟨_, _, _, hd.advance (by simp [hw]) (by simp [hw])
      (by simp [pending, hw, withQueue, Pipe.items_take hq]) rfl nofun nofun⟩
  | part hw hq =>
    rw [Option.toList_none, List.append_nil, Bool.or_false]
    exact ⟨_, _, _, hd.advance (by simp [hw]) (by simp [hw]) (by simp [pending, hw]) rfl nofun
      fun _ => by simp [pending, hw, hq]⟩
  | send hw hl =>
    rw [Bool.or_false]
    exact ⟨_, _, _, hd.writes (by simp [hw]) (by simp [hw])
      (by simp [pending, hw, wrote]) rfl nofun nofun⟩
  | flush hw hl =>
    rw [Bool.or_false]
    exact ⟨_, _, _, hd.writes (by simp [hw]) (by simp [hw])
      (by simp [pending, hw, wrote]) rfl nofun nofun⟩
  | farewell hw hl =>
    rw [Bool.or_false]
    exact ⟨_, _, _, hd.parts hw hl⟩
  | fail hw ht hl =>
    rw [Option.toList_none, List.append_nil, Bool.or_true]
    exact ⟨_, _, _, hd.fails hs (fun hn => by simp [nextText, hn] at ht) hl rfl rfl (.inr rfl)⟩
  | failFlush hw hl =>
    rw [Option.toList_none, List.append_nil, Bool.or_true]
    exact ⟨_, _, _, hd.fails hs (by simp [hw]) hl rfl rfl (.inl rfl)⟩

/-! ### Runs -/

variable {h : History} {m : Move}

theorem written_eq_none (hm : ∀ cancelled, m ≠ .write cancelled) : c.written m = none := by
  cases m with
  | write cancelled => exact absurd rfl (hm cancelled)
  | _ => rfl

theorem breaks_eq_false (hm : ∀ cancelled, m ≠ .write cancelled) : c.breaks m = false := by
  cases m with
  | write cancelled => exact absurd rfl (hm cancelled)
  | _ => rfl

theorem Delivers.after (hd : Delivers entered written broken c sent rest farewell) (hs : c.Sound)
    (ha : c.after m = some c') :
    ∃ sent rest farewell, Delivers (entered ++ (c.accepted m).toList)
      (written ++ (c.written m).toList) (broken || c.breaks m) c' sent rest farewell := by
  by_cases hm : ∃ cancelled, m = .write cancelled
  · obtain ⟨cancelled, rfl⟩ := hm
    have hn : c.accepted (.write cancelled) = none := rfl
    rw [hn, Option.toList_none, List.append_nil]
    exact hd.after_write hs (stepWriter_cases ha)
  · have hm' : ∀ cancelled, m ≠ .write cancelled := fun _ he => hm ⟨_, he⟩
    rw [written_eq_none hm', breaks_eq_false hm', Option.toList_none, List.append_nil,
      Bool.or_false]
    exact ⟨_, _, _, hd.of_leavesWriter hs (after_leavesWriter hm' ha)⟩

theorem Carries.after (hc : Carries written received c) (hs : c.Sound)
    (ha : c.after m = some c') :
    Carries (written ++ (c.written m).toList) (received ++ (c.received m).toList) c' := by
  by_cases hm : ∃ cancelled, m = .write cancelled
  · obtain ⟨cancelled, rfl⟩ := hm
    have hn : c.received (.write cancelled) = none := rfl
    rw [hn, Option.toList_none, List.append_nil]
    exact hc.after_write (stepWriter_cases ha)
  · have hm' : ∀ cancelled, m ≠ .write cancelled := fun _ he => hm ⟨_, he⟩
    rw [written_eq_none hm', Option.toList_none, List.append_nil]
    exact hc.of_leavesWriter hs (after_leavesWriter hm' ha)

/-- A connection whose opening frame is on the link and to which nothing else has happened. -/
structure Fresh (c : Connection) : Prop where
  sound : c.Sound
  writer : c.writer = .listening
  items : c.station.queue.items = []
  toPeer : c.link.toPeer.items = ["0"]
  framesOut : c.session.framesOut = 1

theorem Run.sound {c₀ : Connection} (hr : c₀.Run h c) (hs : c₀.Sound) : c.Sound := by
  induction hr with
  | start => exact hs
  | move _ ha ih => exact ih.after ha

theorem Run.delivers {c₀ : Connection} (hr : c₀.Run h c) (hc₀ : c₀.Fresh) :
    (∃ sent rest farewell, Delivers h.accepted h.written h.breaks c sent rest farewell) ∧
      Carries h.written h.received c := by
  induction hr with
  | start =>
    -- induction on the run; what a move does depends on whose move it is
    refine ⟨⟨[], [], [], ⟨rfl, rfl, hc₀.framesOut, fun _ => ?_, .inl ⟨rfl, ?_⟩, ?_, nofun⟩⟩, ?_⟩
    · simp [pending, hc₀.writer, hc₀.items]
    · simp [hc₀.writer]
    · simp [hc₀.writer]
    · exact ⟨fun _ => hc₀.toPeer, List.nil_prefix⟩
  | move hr ha ih =>
    obtain ⟨⟨sent, rest, farewell, hd⟩, hc⟩ := ih
    have hs := hr.sound hc₀.sound
    simp only [History.accepted_append, History.written_append, History.breaks_append,
      History.received_append, History.accepted_singleton, History.written_singleton,
      History.breaks_singleton, History.received_singleton]
    exact ⟨hd.after hs ha, hc.after hs ha⟩

theorem isClosing_after (ha : c.after m = some c') (hw : c.writer.IsClosing) :
    c'.writer.IsClosing := by
  rcases after_cases ha with ⟨cancelled, rfl, ha⟩ | hl
  · obtain ⟨text, failed, hstep⟩ := exists_writerStep ha
    cases hstep with
    | take hl | send hl => rw [hl] at hw; exact hw
    | _ => trivial
  · rw [hl.writer]
    exact hw

/-- Nothing enters once the writer has closed the send queue. -/
theorem Run.accepted_eq_nil (hr : c.Run h c') (hs : c.Sound) (hw : c.writer.IsClosing) :
    h.accepted = [] ∧ c'.writer.IsClosing := by
  induction hr with
  | start => exact ⟨rfl, hw⟩
  | @move h c₁ c₂ m hr ha ih =>
    refine ⟨?_, isClosing_after ha ih.2⟩
    have hm : c₁.accepted m = none := by
      rcases after_cases ha with ⟨cancelled, rfl, -⟩ | hl
      · rfl
      · exact hl.eq_none (hr.sound hs) ih.2
    simp [ih.1, hm]

end Connection

namespace World

open Connection (Fresh start_sound)

/-- A connection that has been made over a link in memory is fresh. -/
theorem establish_fresh {w₀ w : World} {config : Config} {parent : Option Nat} {link : Memory}
    (hl : link.toPeer = .new memoryCapacity) (he : w₀.establish config parent link = .ok w) :
    ∃ c, w.connections[w₀.connections.length]? = some c ∧ c.Fresh := by
  obtain ⟨link', device, hw, -, rfl⟩ := establish_eq_ok he
  have hl' : link'.toPeer = { (Pipe.new memoryCapacity : Pipe String) with items := ["0"] } := by
    obtain ⟨-, -, -, rfl⟩ := Memory.write_eq_done_iff.mp hw
    simp only [hl]
    rfl
  refine ⟨Connection.start config parent ⟨.running, none, 0, 1⟩ link', by simp,
    start_sound config parent _ ⟨_, hl'⟩, rfl, ?_, congrArg Pipe.items hl', rfl⟩
  unfold Connection.start
  dsimp only
  split <;> rfl

/-- **The peer gets the opening frame, then the frames that have entered, in order, then the closing
frame**, in every run from the start of a connection over a link in memory.  While the link holds, the
writer ends only when it has written everything that has entered, and nothing enters any more. -/
theorem delivers_in_order {w₀ w₁ w : World} {config : Config} {parent : Option Nat} {link : Memory}
    {h : World.History} {c : Connection} (hl : link.toPeer = .new memoryCapacity)
    (he : w₀.establish config parent link = .ok w₁) (hr : w₁.Run h w)
    (hc : w.connections[w₀.connections.length]? = some c) :
    let moves := h.moves w₀.connections.length
    moves.received <+: "0" :: moves.written ∧
    (c.link.toPeer.receiving →
      moves.received ++ c.link.toPeer.items = "0" :: moves.written) ∧
    (∃ n farewell, n ≤ moves.accepted.length ∧
      moves.written = (moves.accepted.take n).map Frame.text ++ farewell ∧
      c.session.framesOut = n + 1 ∧
      (farewell = [] ∨
        farewell = ["1"] ∧ c.writer = .done ∧ moves.breaks = false ∧ n = moves.accepted.length)) ∧
    (c.writer = .done →
      (moves.breaks = false → moves.written = moves.accepted.map Frame.text ++ ["1"]) ∧
      ∀ k v, w.Run k v → (k.moves w₀.connections.length).accepted = []) := by
  obtain ⟨c₀, hc₀, hf⟩ := establish_fresh hl he
  obtain ⟨c', hc', hm⟩ := hr.moves hc₀
  obtain rfl : c' = c := Option.some.inj (hc'.symm.trans hc)
  obtain ⟨⟨sent, rest, farewell, hd⟩, hcarries⟩ := hm.delivers hf
  have htake : (h.moves w₀.connections.length).accepted.take sent.length = sent := by
    rw [hd.entered, List.take_left']
    rfl
  refine ⟨hcarries.received, hcarries.items, ⟨sent.length, farewell, ?_, ?_, hd.framesOut, ?_⟩, ?_⟩
  · rw [hd.entered, List.length_append]
    omega
  · rw [htake, hd.written]
  · rcases hd.farewell with ⟨hf, -⟩ | ⟨hf, hw, hb⟩
    · exact .inl hf
    · have hrest : rest = [] := (hd.rest hb).trans (hd.parted (.inr hw) hb)
      exact .inr ⟨hf, hw, hb, by rw [hd.entered, hrest, List.append_nil]⟩
  · intro hw
    refine ⟨fun hb => ?_, fun k v hk => ?_⟩
    · have hrest : rest = [] := (hd.rest hb).trans (hd.parted (.inr hw) hb)
      -- a writer that ends on a link that holds has said farewell
      rcases hd.farewell with ⟨-, hf⟩ | ⟨hf, -⟩
      · simp [hf hw] at hb
      · rw [hd.written, hd.entered, hrest, hf, List.append_nil]
    · obtain ⟨d, -, hk⟩ := hk.moves hc
      -- the send queue has been closed for good
      exact (hk.accepted_eq_nil (hm.sound hf.sound) (by rw [hw]; trivial)).1

/-- A shutdown with one frame under way, one in the queue, and one that is offered too late. -/
def lateOffer : List Act :=
  [.offer 0 ⟨.pong, some "a"⟩, .step (.writer 0), .close 0, .offer 0 ⟨.pong, some "b"⟩,
    .step (.writer 0), .peerTake 0, .step (.writer 0), .offer 0 ⟨.pong, some "c"⟩,
    .step (.writer 0), .step (.writer 0), .step (.writer 0), .step (.writer 0), .peerTake 0]

theorem delivers_in_order_lateOffer :
    ∃ w₁ w c, standard.establish .standard none freshLink = .ok w₁ ∧ w₁.play lateOffer = some w ∧
      w.connections[0]? = some c ∧ c.writer = .done ∧
      let moves := (w₁.chronicle lateOffer).moves 0
      moves.breaks = false ∧ moves.accepted = [⟨.pong, some "a"⟩, ⟨.pong, some "b"⟩] ∧
        moves.written = moves.accepted.map Frame.text ++ ["1"] ∧ moves.received = ["0", "3a"] ∧
        moves.received <+: "0" :: moves.written := by
  have h := @delivers_in_order standard _ _ .standard none freshLink _ _ rfl rfl
    (@run_of_play _ _ lateOffer rfl) rfl
  exact ⟨_, _, _, rfl, rfl, rfl, rfl, rfl, rfl, (h.2.2.2 rfl).1 rfl, rfl, h.1⟩

end World

end VirtualPrinter.Service
