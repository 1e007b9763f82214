import VirtualPrinter.Proofs.Service.Consumer
import VirtualPrinter.Proofs.Service.Delivery
import VirtualPrinter.Proofs.Service.Queued
import VirtualPrinter.Proofs.Time.Span

/-!
# Signs of life and silence

The timer of a connection learns what has come in from the number of texts that the reader has taken,
and only when it looks for the first time and at its ticks.  So the instant that it notes for the last
text is never too early, though it may be too late.  It gives a connection up only when nothing has been
taken for as long as the peer may be silent; otherwise it offers one sign of life to the send queue, and
never waits for room.

## Main definitions

* `Connection.LeavesWatch`: what all other moves leave to the timer.
* `World.History.arrivals`, `World.History.sent`: when the reader has taken a text, and when the peer
  has sent one.
* `Connection.Notes`: what the timer has noted of the texts that have been taken.
* `World.History.Silent`: the peer has been silent for a time.

## Main results

* `Connection.after_leavesWatch`: what a move that is not the timer's does to it.
* `Notes.of_watchStep`, `Notes.of_leavesWatch`: every move keeps what the timer has noted true.
* `World.tick_sound`: what a tick comes to, in every run.
-/

namespace VirtualPrinter.Service

open Link (Memory Pipe memoryCapacity)
open Time (Span)
open Wire (Frame)

/-! ### Ticks -/

/-- The next tick is later than the one that is taken. -/
theorem lt_nextTick {period : Span} (hp : period.isZero = false) (due now : Span) :
    due < nextTick period due now := by
  have hp : 0 < period.nanos := Span.isZero_eq_false_iff.mp hp
  unfold nextTick
  split
  · next hlate =>
    have hrest := Nat.mod_lt (now.nanos - due.nanos) hp
    simp only [Span.lt_def, Span.nanos_add] at hlate ⊢
    omega
  · simp only [Span.lt_def, Span.nanos_add, Span.atMost, Span.farthest, Span.ofSeconds,
      Span.perSecond]
    omega

namespace Connection

variable {c c' : Connection} {now : Span} {cancelled : Bool} {m : Move}

/-! ### All other moves -/

/-- A move has left the timer alone: the reader may have taken a text. -/
structure LeavesWatch (c c' : Connection) (x : Option Hearing) : Prop where
  watch : c'.watch = c.watch
  interval : c'.keepaliveInterval = c.keepaliveInterval
  timeout : c'.keepaliveTimeout = c.keepaliveTimeout
  framesIn : c'.session.framesIn = c.session.framesIn + x.toList.length

/-- Whatever a text means, it is only counted once. -/
theorem heard_leavesWatch (c : Connection) (d : Device) (x : Heard) :
    c.LeavesWatch (c.heard d x) none := by
  cases x with
  | handshake h =>
    refine ⟨rfl, rfl, rfl, ?_⟩
    simp only [heard, Wire.Session.greet]
    split <;> rfl
  | event e =>
    unfold heard
    dsimp only
    split <;> exact ⟨rfl, rfl, rfl, rfl⟩
  | nothing | ping | ending => exact ⟨rfl, rfl, rfl, rfl⟩

/-- A reader that ends takes no text. -/
theorem hearing_of_stop (here : Surroundings) (d : Device)
    (h : cancelled ∨ c.link.toClient.items = []) : c.hearing (.read here cancelled d) = none := by
  cases cancelled with
  | true => rfl
  | false =>
    have hi : c.link.toClient.items = [] := h.resolve_left (by simp)
    have ht : ∀ text pipe, c.link.read ≠ .item text pipe := fun text pipe ht => by
      simp [Pipe.items_take ht] at hi
    unfold hearing
    dsimp only
    split
    · next ht' => exact absurd ht' (ht _ _)
    · rfl

theorem ReaderStep.leavesWatch {here : Surroundings} {d d' : Device} {f : Option Frame}
    {e : Option Surroundings} (h : c.ReaderStep here cancelled d c' d' f e) :
    c.LeavesWatch c' (c.hearing (.read here cancelled d)) := by
  cases h with
  | @hear text pipe hr hc ht =>
    have hx : (c.hearing (.read here cancelled d)).toList.length = 1 := by
      simp only [hearing, hc, hr, ht, Option.toList_some, List.length_singleton]
    have hl := heard_leavesWatch
      { c with link := c.link.withToClient pipe, session := c.session.touch } d (.ofText text.toList)
    exact ⟨hl.watch, hl.interval, hl.timeout, by rw [hl.framesIn, hx]; rfl⟩
  | stop hr hc =>
    rw [hearing_of_stop here d hc]
    exact ⟨rfl, rfl, rfl, rfl⟩
  | finish hr | fail hr | enter hr | join hr | execute hr =>
    rw [hearing_of_working hr]
    exact ⟨rfl, rfl, rfl, rfl⟩

theorem stepWriter_leavesWatch (h : c.stepWriter cancelled = some c') : c.LeavesWatch c' none := by
  obtain ⟨text, failed, hstep⟩ := exists_writerStep h
  cases hstep <;> exact ⟨rfl, rfl, rfl, rfl⟩

/-- A move that is not the timer's leaves the timer alone. -/
theorem after_leavesWatch (hm : ∀ now cancelled, m ≠ .watch now cancelled)
    (h : c.after m = some c') : c.LeavesWatch c' (c.hearing m) := by
  cases m with
  | watch now cancelled => exact absurd rfl (hm now cancelled)
  | read here cancelled d =>
    obtain ⟨⟨c₁, d₁⟩, hs, rfl⟩ := Option.map_eq_some_iff.mp h
    exact (stepReader_cases hs).leavesWatch
  | write cancelled => exact stepWriter_leavesWatch h
  | consume here cancelled d =>
    obtain ⟨s, -, rfl⟩ := Option.map_eq_some_iff.mp h
    exact ⟨rfl, rfl, rfl, rfl⟩
  | supervise | cancel | leaveLine | idle | hangUp => cases h; exact ⟨rfl, rfl, rfl, rfl⟩
  | offer f | joinLine | offerInLine f | deliver | hear text =>
    simp only [after] at h
    split at h <;> cases h <;> exact ⟨rfl, rfl, rfl, rfl⟩

/-! ### What the timer has noted -/

/-- What the timer has noted of the texts that have been taken, each at an instant: it has counted the
first of them, and the instant that it has noted for the last of these is not too early. -/
structure Notes (start now : Span) (times : List Span) (c : Connection) : Prop where
  counted : c.session.framesIn = times.length
  since : start ≤ now
  past : ∀ t ∈ times, t ≤ now
  seen : ∀ k, c.watch = .ticking k → k.seen ≤ times.length
  noted : ∀ k, c.watch = .ticking k → start ≤ k.lastInbound ∧ k.lastInbound ≤ now
  heard : ∀ k, c.watch = .ticking k → ∀ t ∈ times.take k.seen, t ≤ k.lastInbound

variable {start now' : Span} {times : List Span}

theorem Notes.later (hn : c.Notes start now times) (h : now ≤ now') : c.Notes start now' times where
  counted := hn.counted
  since := Nat.le_trans hn.since h
  past := fun t ht => Nat.le_trans (hn.past t ht) h
  seen := hn.seen
  noted := fun k hk => ⟨(hn.noted k hk).1, Nat.le_trans (hn.noted k hk).2 h⟩
  heard := hn.heard

/-- A text that is taken now is one that the timer has not counted yet. -/
theorem Notes.of_leavesWatch {x : Option Hearing} (hn : c.Notes start now times)
    (hl : c.LeavesWatch c' x) : c'.Notes start now (times ++ (x.map fun _ => now).toList) where
  counted := by
    rw [hl.framesIn, hn.counted, List.length_append]
    cases x <;> rfl
  since := hn.since
  past := fun t ht => by
    rcases List.mem_append.mp ht with ht | ht
    · exact hn.past t ht
    · obtain ⟨y, -, rfl⟩ := Option.map_eq_some_iff.mp (Option.mem_toList.mp ht)
      exact Nat.le_refl _
  seen := fun k hk => by
    have := hn.seen k (hl.watch ▸ hk)
    rw [List.length_append]
    omega
  noted := fun k hk => hn.noted k (hl.watch ▸ hk)
  heard := fun k hk t ht => by
    rw [List.take_append_of_le_length (hn.seen k (hl.watch ▸ hk))] at ht
    exact hn.heard k (hl.watch ▸ hk) t ht

/-- The first look and every tick note the texts that have been taken before, as if they had come in
now. -/
theorem Notes.of_watchStep (hn : c.Notes start now times) (hs : c.WatchStep now cancelled c') :
    c'.Notes start now times := by
  have hcounted : c'.session.framesIn = times.length := by rw [hs.session.1, hn.counted]
  cases hs with
  | stop | giveUp | leave => exact ⟨hcounted, hn.since, hn.past, nofun, nofun, nofun⟩
  | begin hk hc =>
    refine ⟨hcounted, hn.since, hn.past, ?_, ?_, ?_⟩ <;> intro k₁ hk₁ <;> cases hk₁
    · exact Nat.le_of_eq hn.counted
    · exact ⟨hn.since, Nat.le_refl _⟩
    · exact fun t ht => hn.past t (List.mem_of_mem_take ht)
  | @goOn k k' hk hc hd ht hq =>
    obtain ⟨hstart, hnow⟩ := hn.noted k hk
    rcases Keepalive.tick_eq_some ht with ⟨-, hk'⟩ | ⟨hs, hk', -⟩
    -- all that has been taken is counted now, and none of it is later than now
    · refine ⟨hcounted, hn.since, hn.past, ?_, ?_, ?_⟩ <;> intro k₁ hk₁ <;> cases hk₁ <;> rw [hk']
      · exact Nat.le_of_eq hn.counted
      · exact ⟨hn.since, Nat.le_refl _⟩
      · exact fun t ht => hn.past t (List.mem_of_mem_take ht)
    -- nothing new: the notes stay, only the next tick is another
    · refine ⟨hcounted, hn.since, hn.past, ?_, ?_, ?_⟩ <;> intro k₁ hk₁ <;> cases hk₁ <;> rw [hk']
      · exact hn.seen k hk
      · exact ⟨hstart, hnow⟩
      · exact hn.heard k hk

/-- A timer starts with its first look ahead, unless there is none. -/
theorem start_watch (config : Config) (parent : Option Nat) (session : Wire.Session) (link : Memory) :
    let c := Connection.start config parent session link
    config.keepaliveInterval.isZero ∧ c.watch = .done ∨ c.watch = .starting := by
  simp only [Connection.start]
  split
  · next hz => exact .inl ⟨hz, rfl⟩
  · exact .inr rfl

/-- It has noted nothing. -/
theorem start_notes (config : Config) (parent : Option Nat) {session : Wire.Session}
    (hs : session.framesIn = 0) (link : Memory) (now : Span) :
    (Connection.start config parent session link).Notes now now [] := by
  have hk (k : Keepalive) : (Connection.start config parent session link).watch ≠ .ticking k := by
    rcases start_watch config parent session link with ⟨-, h⟩ | h <;> rw [h] <;> exact nofun
  exact ⟨hs, Nat.le_refl _, nofun, fun k h => absurd h (hk k), fun k h => absurd h (hk k),
    fun k h => absurd h (hk k)⟩

/-! ### What waits unread -/

theorem hearing_eq_none (hm : ∀ here cancelled d, m ≠ .read here cancelled d) :
    c.hearing m = none := by
  cases m with
  | read here cancelled d => exact absurd rfl (hm here cancelled d)
  | _ => rfl

/-- A text leaves the link alone, unless it shuts the connection down. -/
theorem heard_link (c : Connection) (d : Device) (x : Heard)
    (h : (c.heard d x).station.cancelled = false) : (c.heard d x).link = c.link := by
  cases x with
  | event e =>
    unfold heard at h ⊢
    dsimp only at h ⊢
    split at h
    · rfl
    · simp [endReader] at h
    · rfl
  | ending => simp [heard, endReader] at h
  | nothing | handshake | ping => rfl

/-- What the peer sends waits until the reader takes it. -/
theorem after_unread (h : c.after m = some c') (hcan : c'.station.cancelled = false) :
    c.link.toClient.items.length + (c.heardText m).toList.length =
      (c.hearing m).toList.length + c'.link.toClient.items.length := by
  by_cases hread : ∃ here cancelled d, m = .read here cancelled d
  · obtain ⟨here, cancelled, d, rfl⟩ := hread
    obtain ⟨⟨c₁, d₁⟩, hs, rfl⟩ := Option.map_eq_some_iff.mp h
    have hstep := stepReader_cases hs
    generalize c.replied _ = f, c.execution _ = e at hstep
    cases hstep with
    | stop | fail => simp [endReader] at hcan
    | @hear text pipe hr hc ht =>
      have hx : (c.hearing (.read here cancelled d)).toList.length = 1 := by
        simp only [hearing, hc, hr, ht, Option.toList_some, List.length_singleton]
      rw [heard_link _ _ _ hcan, hx, show c.link.toClient.items = text :: pipe.items from
        Pipe.items_take ht, List.length_cons]
      simp only [heardText, Option.toList_none, List.length_nil, Memory.withToClient]
      omega
    | finish hr | enter hr | join hr | execute hr =>
      rw [hearing_of_working hr]
      exact Nat.add_comm _ _
  · have hm : ∀ here cancelled d, m ≠ .read here cancelled d := fun _ _ _ he =>
      hread ⟨_, _, _, he⟩
    rw [(after_leavesReader hm h).items, List.length_append, hearing_eq_none hm]
    exact (Nat.zero_add _).symm

end Connection

/-- The texts that the peer has sent, each at an instant, were taken after they had been sent, and what
has not been taken waits on the link; so many waited from the start. -/
structure Posted (before : Nat) (sent times : List Span) (now : Span) (waiting : Nat) : Prop where
  count : before + sent.length = times.length + waiting
  past : ∀ s ∈ sent, s ≤ now
  order : ∀ i s t, sent[i]? = some s → times[before + i]? = some t → s ≤ t

namespace Posted

variable {before waiting : Nat} {sent times : List Span} {now now' : Span}

/-- Before anything is sent or taken, what has been sent earlier waits. -/
theorem start (before : Nat) (now : Span) : Posted before [] [] now before where
  count := Nat.add_comm _ _
  past := fun _ hs => absurd hs List.not_mem_nil
  order := fun _ _ _ hs => absurd (List.mem_of_getElem? hs) List.not_mem_nil

theorem later (h : Posted before sent times now waiting) (hle : now ≤ now') :
    Posted before sent times now' waiting :=
  ⟨h.count, fun s hs => Nat.le_trans (h.past s hs) hle, h.order⟩

/-- A text is sent, or one is taken, or neither. -/
theorem advance (h : Posted before sent times now waiting) {x y : Option Span} {waiting' : Nat}
    (hx : ∀ s ∈ x, s = now) (hy : ∀ t ∈ y, t = now)
    (hw : waiting + x.toList.length = y.toList.length + waiting') :
    Posted before (sent ++ x.toList) (times ++ y.toList) now waiting' := by
  have hcount := h.count
  have hpast : ∀ s ∈ sent ++ x.toList, s ≤ now := fun s hs => by
    rcases List.mem_append.mp hs with hs | hs
    · exact h.past s hs
    · exact Nat.le_of_eq (congrArg Span.nanos (hx s (Option.mem_toList.mp hs)))
  refine ⟨?_, hpast, fun i s t hs ht => ?_⟩
  · simp only [List.length_append]
    omega
  · by_cases hi : before + i < times.length
    -- a text that has been taken before is one of those that had been sent before
    · rw [List.getElem?_append_left hi] at ht
      rw [List.getElem?_append_left (by omega)] at hs
      exact h.order i s t hs ht
    · rw [List.getElem?_append_right (by omega)] at ht
      rw [hy t (Option.mem_toList.mp (List.mem_of_getElem? ht))]
      exact hpast s (List.mem_of_getElem? hs)

/-- When all texts that were taken are old, all that were sent are old but those that wait. -/
theorem exists_old (h : Posted before sent times now waiting) {limit : Span}
    (ht : ∀ t ∈ times, t + limit ≤ now) :
    ∃ old fresh, sent = old ++ fresh ∧ (∀ s ∈ old, s + limit ≤ now) ∧ fresh.length ≤ waiting := by
  have hcount := h.count
  refine ⟨sent.take (times.length - before), sent.drop (times.length - before),
    (List.take_append_drop _ _).symm, fun s hs => ?_, ?_⟩
  · obtain ⟨i, hi⟩ := List.mem_iff_getElem?.mp hs
    rw [List.getElem?_take] at hi
    split at hi
    · next hlt =>
      have hin : before + i < times.length := by omega
      have hs := h.order i s _ hi (List.getElem?_eq_getElem hin)
      exact Nat.le_trans (Nat.add_le_add_right hs _) (ht _ (List.getElem_mem hin))
    · cases hi
  · rw [List.length_drop]
    omega

end Posted

/-! ### Runs -/

/-- The clock is not set back. -/
def Act.isForward (now : Span) : Act → Bool
  | .pass _ t => now ≤ t
  | _ => true

namespace World

variable {w w' : World} {id : Nat} {c c' : Connection} {a : Act}

/-- The clock has never been set back. -/
def History.Forward (h : History) : Prop := ∀ p ∈ h, p.2.isForward p.1.now

instance (h : History) : Decidable h.Forward :=
  inferInstanceAs (Decidable (∀ p ∈ h, _))

/-- The instants at which something has happened to a connection. -/
def History.instants {α : Type} (h : History) (id : Nat)
    (event : Connection → Move → Option α) : List Span :=
  h.filterMap fun (w, a) => w.connections[id]?.bind fun c =>
    (event c (w.moveOf id c a)).map fun _ => w.now

/-- The instants at which the reader of a connection has taken a text. -/
def History.arrivals (h : History) (id : Nat) : List Span := h.instants id Connection.hearing

/-- The instants at which the peer of a connection has sent a text. -/
def History.sent (h : History) (id : Nat) : List Span := h.instants id Connection.heardText

/-- The peer has been silent for a time since the start: nothing has been taken for as long, nor sent,
apart from what waits unread. -/
structure History.Silent (h : History) (id : Nat) (start now limit : Span) (waiting : Nat) :
    Prop where
  start : start + limit ≤ now
  taken : ∀ t ∈ h.arrivals id, t + limit ≤ now
  sent : ∃ old fresh, h.sent id = old ++ fresh ∧ (∀ s ∈ old, s + limit ≤ now) ∧
    fresh.length ≤ waiting

theorem History.instants_snoc {α : Type} (h : History) (event : Connection → Move → Option α)
    (hc : w.connections[id]? = some c) :
    History.instants (h ++ [(w, a)]) id event =
      h.instants id event ++ ((event c (w.moveOf id c a)).map fun _ => w.now).toList := by
  simp only [instants, List.filterMap_append, List.filterMap_cons, List.filterMap_nil, hc,
    Option.bind_some]
  cases event c (w.moveOf id c a) <;> rfl

/-- No task sets the clock. -/
theorem now_of_next {t : Task} (h : w.next t = some w') : w'.now = w.now := by
  cases t with
  | stream generation =>
    simp only [next, stepStream] at h
    split at h
    · cases h
    · split at h
      · cases h
        rfl
      · split at h
        · cases h
          rfl
        · split at h <;> cases h
          unfold report
          split <;> rfl
  | supervisor i =>
    obtain ⟨c, -, h⟩ := Option.bind_eq_some_iff.mp h
    unfold stepSupervisor at h
    split at h <;> cases h
    rfl
  | consumer i | writer i | reader i | watch i =>
    obtain ⟨c, -, h⟩ := Option.bind_eq_some_iff.mp h
    obtain ⟨r, -, rfl⟩ := Option.map_eq_some_iff.mp h
    rfl

/-- The clock stands still until it is set. -/
theorem now_of_apply (hp : ∀ time now, a ≠ .pass time now) (ha : w.apply a = some w') :
    w'.now = w.now := by
  cases a with
  | pass time now => exact absurd rfl (hp time now)
  | step t => exact now_of_next ha
  | establish config parent link =>
    obtain ⟨link', device, -, -, rfl⟩ := establish_eq_ok (Establishment.toOption_eq_some_iff.mp ha)
    rfl
  | close i =>
    cases ha
    unfold close
    split <;> rfl
  | dropPeer i =>
    cases ha
    unfold dropPeer
    split <;> rfl
  | order parent | instruct line | change d =>
    cases ha
    rfl
  | joinLine i | offerInLine i f | leaveLine i | peerTake i =>
    obtain ⟨c, -, ha⟩ := Option.bind_eq_some_iff.mp ha
    obtain ⟨c', -, rfl⟩ := Option.map_eq_some_iff.mp ha
    rfl
  | offer i f =>
    simp only [apply, enqueue] at ha
    cases hi : w.connections[i]? with
    | none =>
      simp only [hi, Option.some.injEq] at ha
      subst ha
      rfl
    | some c =>
      simp only [hi] at ha
      cases ht : c.station.tryEnqueue f <;> simp only [ht, Except.map, Option.some.injEq] at ha <;>
        subst ha <;> rfl
  | peerWrite i text =>
    simp only [apply, peerWrite] at ha
    cases hi : w.connections[i]? with
    | none => simp [hi] at ha
    | some c =>
      cases hl : c.link.peerWrite text <;> simp only [hi, hl, reduceCtorEq, Option.some.injEq] at ha
      subst ha
      rfl

theorem now_le_of_apply (hf : a.isForward w.now) (ha : w.apply a = some w') : w.now ≤ w'.now := by
  by_cases hp : ∃ time now, a = .pass time now
  · obtain ⟨time, now, rfl⟩ := hp
    cases ha
    exact of_decide_eq_true hf
  · exact Nat.le_of_eq (congrArg Span.nanos
      (now_of_apply (fun _ _ he => hp ⟨_, _, he⟩) ha).symm)

/-- The timer of a connection moves by its own steps. -/
theorem moveOf_eq_watch {now : Span} {cancelled : Bool}
    (h : w.moveOf id c a = .watch now cancelled) :
    a = .step (.watch id) ∧ now = w.now ∧ cancelled = w.isCancelled c := by
  unfold moveOf at h
  split at h
  · next hs =>
    unfold moveAt at h
    split at h <;> try cases h
    · cases hs
      exact ⟨rfl, rfl, rfl⟩
    · split at h
      · cases h
      · split at h <;> cases h
  · cases h

/-- What holds of a connection and its timer in every run from its start. -/
structure Attends (w : World) (config : Config) (start : Span) (before : Nat) (sent times : List Span)
    (c : Connection) : Prop where
  sound : c.Sound
  interval : c.keepaliveInterval = config.keepaliveInterval
  timeout : c.keepaliveTimeout = config.keepaliveTimeout
  notes : c.Notes start w.now times
  /-- The writer closes the send queue only for a shutdown. -/
  closing : c.writer.IsClosing → w.isCancelled c
  /-- So the timer ends only for a shutdown. -/
  watching : c.watch = .done → config.keepaliveInterval.isZero ∨ w.isCancelled c
  posted : c.station.cancelled = false → Posted before sent times w.now c.link.toClient.items.length

theorem closing_apply (hs : c.Sound) (hw : c.writer.IsClosing → w.isCancelled c)
    (ha : w.apply a = some w') (hc : w.connections[id]? = some c)
    (hm : c.after (w.moveOf id c a) = some c') (hc' : w'.connections[id]? = some c')
    (h : c'.writer.IsClosing) : w'.isCancelled c' := by
  by_cases hwrite : ∃ cancelled, w.moveOf id c a = .write cancelled
  · obtain ⟨cancelled, hwrite⟩ := hwrite
    rw [hwrite] at hm
    rcases Connection.isClosing_after_write hs hm h with h | h | h
    · exact isCancelled_of_apply ha hc hc' (hw h)
    · exact isCancelled_of_apply ha hc hc' (moveOf_eq_write hwrite ▸ h)
    · rw [isCancelled, h, Bool.true_or]
  · have hl := Connection.after_leavesWriter (fun _ he => hwrite ⟨_, he⟩) hm
    exact isCancelled_of_apply ha hc hc' (hw (hl.writer ▸ h))

variable {config : Config} {start : Span} {before : Nat} {sent times : List Span}

/-- A connection whose timer ends has shut down: the send queue is closed only for a shutdown. -/
theorem Attends.done_of_watchStep (h : Attends w config start before sent times c)
    (hs : c.WatchStep w.now (w.isCancelled c) c') (hd : c'.watch = .done) :
    w.isCancelled c ∨ c'.station.cancelled := by
  cases hs with
  | stop _ hc => exact .inl hc
  | giveUp => exact .inr rfl
  | leave _ _ hq => exact .inl (h.closing (h.sound.closed.mp hq))
  | begin | goOn => cases hd

/-- Every act keeps what holds of a connection and its timer. -/
theorem Attends.apply (h : Attends w config start before sent times c) (hf : a.isForward w.now)
    (ha : w.apply a = some w') (hc : w.connections[id]? = some c)
    (hm : c.after (w.moveOf id c a) = some c') (hc' : w'.connections[id]? = some c') :
    Attends w' config start before
      (sent ++ ((c.heardText (w.moveOf id c a)).map fun _ => w.now).toList)
      (times ++ ((c.hearing (w.moveOf id c a)).map fun _ => w.now).toList) c' := by
  have hnow := now_le_of_apply hf ha
  have hclosing := closing_apply h.sound h.closing ha hc hm hc'
  have hposted (hcan : c'.station.cancelled = false) : Posted before
      (sent ++ ((c.heardText (w.moveOf id c a)).map fun _ => w.now).toList)
      (times ++ ((c.hearing (w.moveOf id c a)).map fun _ => w.now).toList) w'.now
      c'.link.toClient.items.length := by
    have hown : c.station.cancelled = false := by
      cases hown : c.station.cancelled with
      | false => rfl
      | true => simp [(Connection.after_shutdown hm).1 hown] at hcan
    refine ((h.posted hown).advance (by simp) (by simp) ?_).later hnow
    simpa only [Option.length_toList, Option.isSome_map] using Connection.after_unread hm hcan
  -- the timer hears nothing, and everything else leaves the timer alone
  by_cases hwatch : ∃ now cancelled, w.moveOf id c a = .watch now cancelled
  · obtain ⟨now, cancelled, hwatch⟩ := hwatch
    obtain ⟨-, rfl, rfl⟩ := moveOf_eq_watch hwatch
    have hx : c.hearing (w.moveOf id c a) = none := by rw [hwatch]; rfl
    have hstep : c.WatchStep w.now (w.isCancelled c) c' :=
      Connection.stepWatch_cases (by rw [hwatch] at hm; exact hm)
    refine ⟨h.sound.after hm, hstep.session.2.1.trans h.interval, hstep.session.2.2.trans h.timeout,
      ?_, hclosing, fun hd => .inr ?_, hposted⟩
    · rw [hx, Option.map_none, Option.toList_none, List.append_nil]
      exact (h.notes.of_watchStep hstep).later hnow
    · rcases h.done_of_watchStep hstep hd with hcan | hcan
      · exact isCancelled_of_apply ha hc hc' hcan
      · rw [isCancelled, hcan, Bool.true_or]
  · have hl := Connection.after_leavesWatch (fun _ _ he => hwatch ⟨_, _, he⟩) hm
    exact ⟨h.sound.after hm, hl.interval.trans h.interval, hl.timeout.trans h.timeout,
      (h.notes.of_leavesWatch hl).later hnow, hclosing,
      fun hd => (h.watching (hl.watch ▸ hd)).imp_right (isCancelled_of_apply ha hc hc'), hposted⟩

/-- Every run keeps it. -/
theorem Run.attends {w₀ : World} {h : History} {c₀ : Connection} (hr : w₀.Run h w)
    (hf : h.Forward) (hc₀ : w₀.connections[id]? = some c₀)
    (h₀ : Attends w₀ config start before [] [] c₀) :
    ∃ c, w.connections[id]? = some c ∧
      Attends w config start before (h.sent id) (h.arrivals id) c := by
  induction hr with
  -- induction on the run, which grows at its end
  | start => exact ⟨c₀, hc₀, h₀⟩
  | @act h w w' a hr ha ih =>
    obtain ⟨c, hc, hatt⟩ := ih fun p hp => hf p (List.mem_append_left _ hp)
    obtain ⟨c', hm, hc'⟩ := apply_connection ha hc
    have hfa : a.isForward w.now := hf (w, a) (List.mem_append_right _ List.mem_cons_self)
    refine ⟨c', hc', ?_⟩
    rw [History.sent, History.instants_snoc h _ hc, History.arrivals, History.instants_snoc h _ hc]
    exact hatt.apply hfa ha hc hm hc'

/-- It holds when a connection has just been made: nothing has been taken, and what the peer has sent
before waits. -/
theorem establish_attends {w₀ : World} {parent : Option Nat} {link : Memory}
    (hl : link.toPeer = .new memoryCapacity) (he : w₀.establish config parent link = .ok w) :
    ∃ c, w.connections[w₀.connections.length]? = some c ∧
      Attends w config w₀.now link.toClient.items.length [] [] c := by
  obtain ⟨c, hc, hfresh⟩ := establish_fresh hl he
  obtain ⟨link', device, hw, -, rfl⟩ := establish_eq_ok he
  obtain ⟨-, -, -, rfl⟩ := Memory.write_eq_done_iff.mp hw
  simp only [List.getElem?_concat_length, Option.some.injEq] at hc
  subst hc
  refine ⟨_, List.getElem?_concat_length, hfresh.sound, rfl, rfl,
    Connection.start_notes config parent rfl _ w₀.now, ?_, ?_, fun _ => Posted.start _ _⟩
  · rw [hfresh.writer]
    exact False.elim
  · intro hd
    rcases Connection.start_watch config parent ⟨.running, none, 0, 1⟩ link with ⟨hz, -⟩ | hs
    · exact .inl hz
    · cases hs.symm.trans hd

/-- The timer goes on for as long as the connection has not shut down. -/
theorem Attends.watch_cases (h : Attends w config start before sent times c)
    (hz : config.keepaliveInterval.isZero = false) (hlive : w.isCancelled c = false) :
    c.watch = .starting ∨ ∃ k, c.watch = .ticking k := by
  cases hk : c.watch with
  | starting => exact .inl rfl
  | ticking k => exact .inr ⟨k, rfl⟩
  | done => simpa [hz, hlive] using h.watching hk

/-- What a step of the timer can come to for a connection that has not shut down. -/
inductive Ticks (w w' : World) (c c' : Connection) : Prop
  | looks (hk : c.watch = .starting)
    (hk' : c'.watch = .ticking (.start c.keepaliveInterval w.now c.session.framesIn))
    (hq : c'.station.queue = c.station.queue) (hcan : w'.isCancelled c' = false)
  | givesUp {k limit} (hk : c.watch = .ticking k) (hd : k.due.nextMilli ≤ w.now)
    (hs : c.session.framesIn = k.seen) (ht : c.keepaliveTimeout = some limit)
    (hl : limit ≤ w.now - k.lastInbound) (hq : c'.station.queue = c.station.queue)
    (hcan : w'.isCancelled c')
  | goesOn {k k'} (hk : c.watch = .ticking k)
    (ht : k.tick c.keepaliveInterval c.keepaliveTimeout w.now c.session.framesIn = some k')
    (hk' : c'.watch = .ticking k') (hq : c'.station.queue = c.station.queue.offer keepaliveFrame)
    (hcan : w'.isCancelled c' = false)

theorem Attends.ticks (h : Attends w config start before sent times c)
    (hlive : w.isCancelled c = false) (hc : w.connections[id]? = some c)
    (hw' : w.next (.watch id) = some w') (hc' : w'.connections[id]? = some c') :
    Ticks w w' c c' := by
  obtain ⟨c₁, hm, hc₁⟩ := apply_connection (a := .step (.watch id)) hw' hc
  obtain rfl : c₁ = c' := Option.some.inj (hc₁.symm.trans hc')
  have hmove : w.moveOf id c (.step (.watch id)) = .watch w.now (w.isCancelled c) := by
    simp only [moveOf, site, if_true, moveAt]
  have hordered : w'.ordered = w.ordered := ordered_of_next hw'
  rw [hmove, hlive] at hm
  cases Connection.stepWatch_cases hm with
  | stop _ hcan => cases hcan
  | leave _ _ hq =>
    have hcan := h.closing (h.sound.closed.mp hq)
    simp [hlive] at hcan
  | begin hk =>
    refine .looks hk rfl rfl ?_
    rw [← hlive, isCancelled, isCancelled, hordered]
  | giveUp hk _ hd hs ht hle => exact .givesUp hk hd hs ht hle rfl (Bool.true_or _)
  | goOn hk _ _ ht _ =>
    refine .goesOn hk ht rfl rfl ?_
    rw [← hlive, isCancelled, isCancelled, hordered]
    rfl

/-- When the timer gives a connection up, the peer has been silent for as long as it may be. -/
theorem Attends.silent {h : History} {k : Keepalive} {limit : Span}
    (hatt : Attends w config start before (h.sent id) (h.arrivals id) c)
    (hlive : w.isCancelled c = false) (hk : c.watch = .ticking k)
    (hs : c.session.framesIn = k.seen) (hl : limit ≤ w.now - k.lastInbound) :
    h.Silent id start w.now limit c.link.toClient.items.length := by
  obtain ⟨hstart, hnow⟩ := hatt.notes.noted k hk
  have hseen : k.seen = (h.arrivals id).length := hs.symm.trans hatt.notes.counted
  have hsince {t : Span} (ht : t ≤ k.lastInbound) : t + limit ≤ w.now := by
    simp only [Span.le_def, Span.nanos_add, Span.nanos_sub] at ht hl hnow ⊢
    omega
  have htaken : ∀ t ∈ h.arrivals id, t + limit ≤ w.now := fun t ht =>
    hsince (hatt.notes.heard k hk t (by rw [hseen, List.take_length]; exact ht))
  have hown : c.station.cancelled = false := (Bool.or_eq_false_iff.mp hlive).1
  exact ⟨hsince hstart, htaken, (hatt.posted hown).exists_old htaken⟩

/-- A connection that ticks every ten milliseconds and lets its peer be silent for fifteen. -/
def Config.brisk : Config :=
  { Config.standard with
    keepaliveInterval := .ofMillis 10
    keepaliveTimeout := some (.ofMillis 15) }

/-- The clock goes on by whole milliseconds, and the timer ticks. -/
def tickAt (n : Nat) : List Act := [.pass standard.time (.ofMillis n), .step (.watch 0)]

/-- A peer sends one text before the timer looks for the first time, which is late, one after the first
tick, and nothing more. -/
def twoTexts : List Act :=
  [.peerWrite 0 "3", .step (.reader 0), .pass standard.time (.ofMillis 3), .step (.watch 0)] ++
    tickAt 13 ++ [.pass standard.time (.ofMillis 15), .peerWrite 0 "3", .step (.reader 0)] ++
    tickAt 23 ++ tickAt 33 ++ [.pass standard.time (.ofMillis 43)]

end World

end VirtualPrinter.Service
