import Mathlib.Data.Nat.Find
import VirtualPrinter.Proofs.Service.Ticking

/-!
# How long a silent peer is waited for

The timer of a connection ticks at instants that are known from its first look on.  A text that has been
taken by then is noticed at once, and a later one at the first tick after it has been taken; the silence
is measured from there.  So a silent peer is given up at the first tick that is late enough after the one
at which its last text was noticed: up to one interval later than the timeout after that tick, which may
be almost one interval after the text.

## Main definitions

* `Keepalive.tickTime`: the instants at which a timer ticks.
* `Keepalive.Notices`: the tick at which a text is noticed.
* `Keepalive.OnBeat`: what a timer has noted, in terms of the ticks.
* `World.History.Punctual`: the clock waits for the ticks of a connection.
* `World.History.Looked`: a run, cut where the timer has looked for the first time.
* `World.InRhythm`, `World.KeepsTime`: the timer of a connection keeps its rhythm.

## Main results

* `Keepalive.OnBeat.tick`: every tick keeps the rhythm.
* `World.silence_bounded`: when a silent peer is given up, in every run.
* `World.silence_overdue`: a peer that is given up later than one interval after the timeout.
-/

namespace VirtualPrinter.Service

open Link (Memory Pipe memoryCapacity)
open Time (Span)

namespace Keepalive

/-- The instants for which the ticks are set, from the first look on; the first comes after one interval,
and no tick is set more than thirty years after the one before. -/
def dueAt (start interval : Span) (n : Nat) : Span :=
  ⟨start.nanos + interval.nanos + n * (interval.atMost .farthest).nanos⟩

/-- The instants of the ticks, which come at whole milliseconds.  The first look counts as one. -/
def tickTime (start interval : Span) : Nat → Span
  | 0 => start
  | n + 1 => (dueAt start interval n).nextMilli

/-- The first tick that comes late enough after another one. -/
structure Expires (start interval limit : Span) (n m : Nat) : Prop where
  lt : n < m
  late : limit ≤ tickTime start interval m - tickTime start interval n
  first : ∀ j, n < j → j < m → tickTime start interval j - tickTime start interval n < limit

/-- The tick at which the last text that has been taken is noticed: the first one after it, or the first
look if none has been taken since. -/
def Notices (start interval : Span) (n : Nat) : Option Span → Prop
  | none => n = 0
  | some a => ∃ m, n = m + 1 ∧ tickTime start interval m ≤ a ∧ a ≤ tickTime start interval n

variable {start interval now : Span} {m n j : Nat}

theorem nextMilli_mono {a b : Span} (h : a ≤ b) : a.nextMilli ≤ b.nextMilli := by
  simp only [Span.le_def, Span.nextMilli, Span.ofMillis, Span.perMilli] at h ⊢
  omega

theorem tickTime_le_succ (start interval : Span) (n : Nat) :
    tickTime start interval n ≤ tickTime start interval (n + 1) := by
  cases n with
  | zero =>
    have h := Span.le_nextMilli (dueAt start interval 0)
    simp only [tickTime, dueAt, Span.le_def] at h ⊢
    omega
  | succ n =>
    refine nextMilli_mono ?_
    simp only [dueAt, Span.le_def, Nat.succ_mul]
    omega

theorem tickTime_mono (start interval : Span) (h : m ≤ n) :
    tickTime start interval m ≤ tickTime start interval n := by
  induction h with
  | refl => exact Nat.le_refl _
  | step _ ih => exact Nat.le_trans ih (tickTime_le_succ start interval _)

/-- Where the start and the interval are whole milliseconds, the ticks are multiples of the interval
after the start. -/
theorem tickTime_of_whole {s i : Nat} (hi : Span.ofMillis i ≤ .farthest) (n : Nat) :
    tickTime (.ofMillis s) (.ofMillis i) n = .ofMillis (s + n * i) := by
  cases n with
  | zero => simp [tickTime]
  | succ n =>
    have hmin : ((Span.ofMillis i).atMost .farthest).nanos = i * Span.perMilli := Nat.min_eq_left hi
    have hsum : (dueAt (.ofMillis s) (.ofMillis i) n).nanos = (s + (n + 1) * i) * Span.perMilli := by
      calc (dueAt (.ofMillis s) (.ofMillis i) n).nanos
          = s * Span.perMilli + i * Span.perMilli + n * (i * Span.perMilli) := by
            rw [dueAt, hmin]
            rfl
        _ = (s + (n + 1) * i) * Span.perMilli := by
            rw [Nat.add_mul s, Nat.succ_mul, Nat.add_mul (n * i), Nat.mul_assoc]
            omega
    refine congrArg Span.ofMillis ?_
    rw [hsum, Span.perMilli]
    omega

/-- The ticks go on for ever. -/
theorem le_tickTime {interval : Span} (hz : interval.isZero = false) (start : Span) (n : Nat) :
    n ≤ (tickTime start interval n).nanos := by
  cases n with
  | zero => exact Nat.zero_le _
  | succ n =>
    have hp : 0 < interval.nanos := Span.isZero_eq_false_iff.mp hz
    have hstep : n * 1 ≤ n * (interval.atMost .farthest).nanos :=
      Nat.mul_le_mul_left n (Nat.le_min.mpr ⟨hp, by decide⟩)
    have h := Span.le_nextMilli (dueAt start interval n)
    simp only [tickTime, dueAt, Span.le_def] at h ⊢
    omega

/-- So there is one that comes late enough. -/
theorem exists_expires {interval : Span} (hz : interval.isZero = false) (start limit : Span)
    (n : Nat) : ∃ m, Expires start interval limit n m := by
  have hex : ∃ m, n < m ∧ limit ≤ tickTime start interval m - tickTime start interval n := by
    refine ⟨n + 1 + (tickTime start interval n).nanos + limit.nanos, by omega, ?_⟩
    have h := le_tickTime hz start (n + 1 + (tickTime start interval n).nanos + limit.nanos)
    simp only [Span.le_def, Span.nanos_sub]
    omega
  classical
  refine ⟨Nat.find hex, (Nat.find_spec hex).1, (Nat.find_spec hex).2, fun j hj hlt => ?_⟩
  exact Nat.lt_of_not_le fun hle => Nat.find_min hex hlt ⟨hj, hle⟩

/-- Where the ticks are multiples of the interval after the start, a text is noticed up to one interval
late, and the tick that comes late enough is up to one interval late as well. -/
theorem Notices.le {last : Option Span} (h : Notices start interval n last)
    (ht : ∀ j, (tickTime start interval j).nanos = start.nanos + j * interval.nanos) :
    last.getD start ≤ tickTime start interval n ∧
      tickTime start interval n ≤ last.getD start + interval := by
  cases last with
  | none =>
    obtain rfl : n = 0 := h
    exact ⟨Nat.le_refl _, Nat.le_add_right _ _⟩
  | some a =>
    obtain ⟨m, rfl, hle, hge⟩ := h
    refine ⟨hge, ?_⟩
    simp only [Option.getD_some, Span.le_def, Span.nanos_add, ht, Nat.succ_mul] at hle ⊢
    omega

theorem Expires.le {limit : Span} (h : Expires start interval limit n m)
    (ht : ∀ j, (tickTime start interval j).nanos = start.nanos + j * interval.nanos) :
    tickTime start interval m ≤ tickTime start interval n + limit + interval := by
  obtain ⟨j, rfl⟩ : ∃ j, m = j + 1 := ⟨m - 1, by have := h.lt; omega⟩
  rcases Nat.lt_or_eq_of_le (Nat.le_of_lt_succ h.lt) with hlt | rfl
  -- the tick before was not late enough, unless it is the one to count from
  · have hfirst := h.first j hlt (Nat.lt_succ_self j)
    simp only [Span.lt_def, Span.le_def, Span.nanos_add, Span.nanos_sub, ht, Nat.succ_mul] at hfirst ⊢
    omega
  · simp only [Span.le_def, Span.nanos_add, ht, Nat.succ_mul]
    omega

/-- A tick that is taken at its time is not late, and the next one keeps the rhythm. -/
theorem nextTick_punctual (start interval : Span) (j : Nat) :
    nextTick interval (dueAt start interval j) (tickTime start interval (j + 1)) =
      dueAt start interval (j + 1) := by
  have hlate : ¬dueAt start interval j + lateness < tickTime start interval (j + 1) := by
    have h := Span.nextMilli_lt (dueAt start interval j)
    simp only [tickTime, Span.lt_def, Span.nanos_add, lateness, Span.ofMillis, Span.perMilli] at h ⊢
    omega
  rw [nextTick, if_neg hlate]
  refine congrArg Span.mk ?_
  simp only [dueAt, Nat.succ_mul]
  omega

/-! ### A timer in its rhythm -/

/-- A timer has taken so many ticks, and noticed the last of the texts that it has counted at one of
them.  It has counted those that were taken before its first look, but none of those that were taken
since its last tick. -/
structure OnBeat (start interval : Span) (timeout : Option Span) (before : Nat) (times : List Span)
    (now : Span) (k : Keepalive) (taken noticed : Nat) : Prop where
  due : k.due = dueAt start interval taken
  since : tickTime start interval taken ≤ now
  ahead : now ≤ tickTime start interval (taken + 1)
  noticed_le : noticed ≤ taken
  lastInbound : k.lastInbound = tickTime start interval noticed
  before_le : before ≤ k.seen
  seen : k.seen - before ≤ times.length
  counted : Notices start interval noticed (times.take (k.seen - before)).getLast?
  fresh : ∀ a ∈ times.drop (k.seen - before), tickTime start interval taken ≤ a
  /-- No tick since then has come late enough. -/
  waited : ∀ limit, timeout = some limit → ∀ m, noticed < m → m ≤ taken →
    tickTime start interval m - tickTime start interval noticed < limit

variable {timeout : Option Span} {before : Nat} {times : List Span} {k k' : Keepalive} {now' : Span}

/-- The first look counts what has been taken, and all of it is noticed. -/
theorem OnBeat.first (interval now : Span) (timeout : Option Span) (before : Nat) :
    OnBeat now interval timeout before [] now (.start interval now before) 0 0 where
  due := by
    simp only [Keepalive.start, dueAt, Nat.zero_mul, Nat.add_zero]
    rfl
  since := Nat.le_refl _
  ahead := tickTime_le_succ now interval 0
  noticed_le := Nat.le_refl _
  lastInbound := rfl
  before_le := Nat.le_refl _
  seen := by rw [Keepalive.start, Nat.sub_self]; exact Nat.le_refl _
  counted := by rw [List.take_nil]; rfl
  fresh := by rw [List.drop_nil]; exact nofun
  waited := fun _ _ m hm hm' => absurd hm (Nat.not_lt_of_le hm')

theorem OnBeat.later (h : OnBeat start interval timeout before times now k m n) (hle : now ≤ now')
    (hdue : now' ≤ k.due.nextMilli) : OnBeat start interval timeout before times now' k m n :=
  { h with
    since := Nat.le_trans h.since hle
    ahead := by rw [h.due] at hdue; exact hdue }

/-- A text that is taken now comes after the last tick. -/
theorem OnBeat.hear (h : OnBeat start interval timeout before times now k m n) {x : Option Span}
    (hx : ∀ a ∈ x, a = now) : OnBeat start interval timeout before (times ++ x.toList) now k m n :=
  { h with
    seen := by rw [List.length_append]; exact Nat.le_add_right_of_le h.seen
    counted := by rw [List.take_append_of_le_length h.seen]; exact h.counted
    fresh := fun a ha => by
      rw [List.drop_append_of_le_length h.seen] at ha
      rcases List.mem_append.mp ha with ha | ha
      · exact h.fresh a ha
      · rw [hx a (Option.mem_toList.mp ha)]
        exact h.since }

/-- A tick is taken at its time. -/
theorem OnBeat.now_eq (h : OnBeat start interval timeout before times now k m n)
    (hd : k.due.nextMilli ≤ now) : now = tickTime start interval (m + 1) := by
  rw [h.due] at hd
  exact congrArg Span.mk (Nat.le_antisymm h.ahead hd)

/-- The tick at which the last text is noticed has been taken, or it is the next one. -/
theorem OnBeat.exists_notices (h : OnBeat start interval timeout before times now k m n)
    (hpast : ∀ a ∈ times, a ≤ now) :
    ∃ n', Notices start interval n' times.getLast? ∧
      (before + times.length = k.seen ∧ n' = n ∨ k.seen < before + times.length ∧ n' = m + 1) := by
  have hbefore := h.before_le
  rcases Nat.lt_or_eq_of_le h.seen with hlt | heq
  · obtain ⟨a, ha⟩ : ∃ a, (times.drop (k.seen - before)).getLast? = some a :=
      Option.isSome_iff_exists.mp (by simp [List.getLast?_isSome]; omega)
    have hmem := List.mem_of_getLast? ha
    refine ⟨m + 1, ?_, .inr ⟨by omega, rfl⟩⟩
    rw [← List.take_append_drop (k.seen - before) times, List.getLast?_append, ha]
    exact ⟨m, rfl, h.fresh a hmem, Nat.le_trans (hpast a (List.mem_of_mem_drop hmem)) h.ahead⟩
  · have hcounted := h.counted
    rw [heq, List.take_length] at hcounted
    exact ⟨n, hcounted, .inl ⟨by omega, rfl⟩⟩

/-- No tick that has been taken has come late enough. -/
theorem OnBeat.lt_of_expires {limit : Span} {n' : Nat}
    (h : OnBeat start interval timeout before times now k m n) (hl : timeout = some limit)
    (hn : n' = n ∨ n' = m + 1) (he : Expires start interval limit n' j) : m < j := by
  rcases hn with rfl | rfl
  · refine Nat.lt_of_not_le fun hle => ?_
    exact Nat.not_lt_of_le he.late (h.waited limit hl j he.lt hle)
  · exact Nat.lt_of_succ_lt he.lt

/-- **Every tick keeps the rhythm**: what has been taken since the last one is noticed now, and when
nothing has, the tick has not come late enough. -/
theorem OnBeat.tick (h : OnBeat start interval timeout before times now k m n)
    (hd : k.due.nextMilli ≤ now) (hpast : ∀ a ∈ times, a ≤ now)
    (ht : k.tick interval timeout now (before + times.length) = some k') :
    ∃ n', OnBeat start interval timeout before times now k' (m + 1) n' := by
  obtain rfl := h.now_eq hd
  have hnext : nextTick interval k.due (tickTime start interval (m + 1)) =
      dueAt start interval (m + 1) := by
    rw [h.due, nextTick_punctual]
  have hahead := tickTime_le_succ start interval (m + 1)
  have hall : before + times.length - before = times.length := Nat.add_sub_cancel_left _ _
  rcases Keepalive.tick_eq_some ht with ⟨hs, rfl⟩ | ⟨hs, rfl, hwaited⟩
  -- this is the tick at which the last text is noticed, and the waiting starts again
  · refine ⟨m + 1, hnext, Nat.le_refl _, hahead, Nat.le_refl _, rfl, Nat.le_add_right _ _,
      Nat.le_of_eq hall, ?_, ?_, ?_⟩
    · obtain ⟨n', hn', ⟨heq, -⟩ | ⟨-, rfl⟩⟩ := h.exists_notices hpast
      · exact absurd heq hs
      · rw [hall, List.take_length]
        exact hn'
    · rw [hall, List.drop_length]
      exact nofun
    · exact fun _ _ m' hm hm' => absurd hm (Nat.not_lt_of_le hm')
  -- one more tick since the same text, which was not late enough or the timer would have ended
  · refine ⟨n, hnext, Nat.le_refl _, hahead, Nat.le_succ_of_le h.noticed_le, h.lastInbound,
      h.before_le, h.seen, h.counted, ?_, fun limit hl m' hm hm' => ?_⟩
    · rw [← hs, hall, List.drop_length]
      exact nofun
    · rcases Nat.lt_or_eq_of_le hm' with hlt | rfl
      · exact h.waited limit hl m' hm (Nat.le_of_lt_succ hlt)
      · rw [← h.lastInbound]
        exact hwaited limit hl

end Keepalive

open Keepalive (Expires Notices OnBeat tickTime)

namespace World

variable {w w' : World} {id : Nat} {c c' : Connection} {a : Act}

/-- The clock goes on, but not past a tick of the connection that has not been taken. -/
def isPunctual (w : World) (id : Nat) : Act → Bool
  | .pass _ now => decide (w.now ≤ now) && w.connections[id]?.all fun c =>
    w.isCancelled c || match c.watch with
      | .ticking k => decide (now ≤ k.due.nextMilli)
      | .starting | .done => true
  | _ => true

/-- The clock has waited for the ticks of a connection. -/
def History.Punctual (h : History) (id : Nat) : Prop := ∀ p ∈ h, p.1.isPunctual id p.2

instance (h : History) : Decidable (h.Punctual id) :=
  inferInstanceAs (Decidable (∀ p ∈ h, _))

theorem isForward_of_isPunctual (h : w.isPunctual id a) : a.isForward w.now := by
  cases a with
  | pass time now => exact (Bool.and_eq_true_iff.mp h).1
  | _ => rfl

theorem History.Punctual.forward {h : History} (hp : h.Punctual id) : h.Forward :=
  fun p hin => isForward_of_isPunctual (hp p hin)

/-- The clock stops at the next tick. -/
theorem now_le_of_punctual {k : Keepalive} (hp : w.isPunctual id a) (ha : w.apply a = some w')
    (hc : w.connections[id]? = some c) (hlive : w.isCancelled c = false)
    (hk : c.watch = .ticking k) (hnow : w.now ≤ k.due.nextMilli) : w'.now ≤ k.due.nextMilli := by
  by_cases hpass : ∃ time now, a = .pass time now
  · obtain ⟨time, now, rfl⟩ := hpass
    cases ha
    have h := (Bool.and_eq_true_iff.mp hp).2
    simpa [hc, hlive, hk] using h
  · rw [now_of_apply (fun _ _ he => hpass ⟨_, _, he⟩) ha]
    exact hnow

/-- A run, cut where the timer of a connection has looked for the first time: what has happened before,
the world in which it looked, and what has happened since. -/
structure History.Looked (h : History) (id : Nat) (earlier : History) (look : World) (later : History) :
    Prop where
  eq : h = earlier ++ (look, .step (.watch id)) :: later
  first : ∀ p ∈ earlier, p.2 ≠ .step (.watch id)

instance (t : Task) : (a : Act) → Decidable (a = .step t)
  | .step t' => decidable_of_iff (t' = t) (by rw [Act.step.injEq])
  | .establish _ _ _ | .close _ | .order _ | .offer _ _ | .joinLine _ | .offerInLine _ _
  | .leaveLine _ | .instruct _ | .change _ | .peerWrite _ _ | .peerTake _ | .dropPeer _
  | .pass _ _ => .isFalse nofun

variable {h earlier later : History} {look : World}

theorem History.Looked.snoc (hl : h.Looked id earlier look later) (p : World × Act) :
    History.Looked (h ++ [p]) id earlier look (later ++ [p]) where
  eq := by rw [hl.eq, List.append_assoc, List.cons_append]
  first := hl.first

theorem History.Looked.mem (hl : h.Looked id earlier look later) : (look, .step (.watch id)) ∈ h := by
  rw [hl.eq]
  exact List.mem_append_right _ List.mem_cons_self

/-- A run is cut in one way only. -/
theorem History.Looked.unique {earlier' later' : History} {look' : World}
    (hl : h.Looked id earlier look later) (hl' : h.Looked id earlier' look' later') :
    look = look' ∧ later = later' := by
  have heq := hl.eq.symm.trans hl'.eq
  have hfirst := hl.first
  have hfirst' := hl'.first
  clear hl hl'
  -- along what has happened before the first look, in which there is no other
  induction earlier generalizing earlier' with
  | nil =>
    cases earlier' with
    | nil => simpa using heq
    | cons p rest =>
      obtain ⟨hp, -⟩ := List.cons.inj heq
      exact absurd (congrArg Prod.snd hp).symm (hfirst' p List.mem_cons_self)
  | cons p rest ih =>
    cases earlier' with
    | nil =>
      obtain ⟨hp, -⟩ := List.cons.inj heq
      exact absurd (congrArg Prod.snd hp) (hfirst p List.mem_cons_self)
    | cons q rest' =>
      obtain ⟨-, hrest⟩ := List.cons.inj heq
      exact ih hrest (fun p hp => hfirst p (List.mem_cons_of_mem _ hp))
        fun p hp => hfirst' p (List.mem_cons_of_mem _ hp)

/-- The reader takes nothing in a step of the timer. -/
theorem hearing_step_watch (w : World) (id : Nat) (c : Connection) :
    c.hearing (w.moveOf id c (.step (.watch id))) = none := by
  simp only [moveOf, site, if_true, moveAt]
  rfl

theorem History.Looked.arrivals (hl : h.Looked id earlier look later) :
    h.arrivals id = earlier.arrivals id ++ later.arrivals id := by
  rw [hl.eq, History.arrivals, History.instants, List.filterMap_append, List.filterMap_cons]
  cases hc : look.connections[id]? <;>
    simp only [hc, Option.bind_none, Option.bind_some, hearing_step_watch, Option.map_none] <;> rfl

variable {config : Config} {start : Span} {before : Nat} {sent times : List Span}

/-- The timer of a connection, which has looked once, has taken so many ticks since. -/
structure InRhythm (w : World) (config : Config) (start : Span) (h : History) (id : Nat) (k : Keepalive)
    (earlier : History) (look : World) (later : History) (taken noticed : Nat) : Prop where
  looked : h.Looked id earlier look later
  since : start ≤ look.now
  past : ∀ t ∈ earlier.arrivals id, t ≤ look.now
  beat : OnBeat look.now config.keepaliveInterval config.keepaliveTimeout (earlier.arrivals id).length
    (later.arrivals id) w.now k taken noticed

/-- The timer of a connection keeps its rhythm once it has looked, for as long as the connection has not
shut down. -/
structure KeepsTime (w : World) (config : Config) (start : Span) (h : History) (id : Nat)
    (c : Connection) : Prop where
  ahead : c.watch = .starting → ∀ p ∈ h, p.2 ≠ .step (.watch id)
  rhythm : w.isCancelled c = false → ∀ k, c.watch = .ticking k →
    ∃ earlier look later taken noticed,
      w.InRhythm config start h id k earlier look later taken noticed

/-- A step of the timer is its first look, or a tick that keeps the rhythm. -/
theorem KeepsTime.watch (hk : KeepsTime w config start h id c)
    (hatt : Attends w config start before sent (h.arrivals id) c) (hc : w.connections[id]? = some c)
    (hnow : w'.now = w.now) (hs : c.WatchStep w.now (w.isCancelled c) c') :
    KeepsTime w' config start (h ++ [(w, .step (.watch id))]) id c' := by
  have hsame (later : History) :
      History.arrivals (later ++ [(w, .step (.watch id))]) id = later.arrivals id := by
    rw [History.arrivals, History.instants_snoc later _ hc, hearing_step_watch]
    exact List.append_nil _
  cases hs with
  | stop | giveUp | leave => exact ⟨fun he => (by cases he), fun _ _ hk' => by cases hk'⟩
  | begin hw =>
    refine ⟨fun he => (by cases he), fun _ k hk' => ?_⟩
    cases hk'
    refine ⟨h, w, [], 0, 0, ⟨rfl, hk.ahead hw⟩, hatt.notes.since, hatt.notes.past, ?_⟩
    rw [hatt.interval, hatt.notes.counted, hnow]
    exact .first _ _ _ _
  | @goOn k k' hw hlive hd ht =>
    refine ⟨fun he => (by cases he), fun _ k₁ hk₁ => ?_⟩
    cases hk₁
    obtain ⟨earlier, look, later, taken, noticed, hin⟩ := hk.rhythm hlive k hw
    have harrivals := hin.looked.arrivals
    rw [hatt.interval, hatt.timeout, hatt.notes.counted, harrivals, List.length_append] at ht
    obtain ⟨noticed', hb⟩ := hin.beat.tick hd
      (fun t hmem => hatt.notes.past t (harrivals ▸ List.mem_append_right _ hmem)) ht
    refine ⟨earlier, look, _, taken + 1, noticed', hin.looked.snoc _, hin.since, hin.past, ?_⟩
    rw [hsame, hnow]
    exact hb

/-- Every act keeps the rhythm. -/
theorem KeepsTime.apply (hk : KeepsTime w config start h id c)
    (hatt : Attends w config start before sent (h.arrivals id) c) (hp : w.isPunctual id a)
    (ha : w.apply a = some w') (hc : w.connections[id]? = some c)
    (hm : c.after (w.moveOf id c a) = some c') (hc' : w'.connections[id]? = some c') :
    KeepsTime w' config start (h ++ [(w, a)]) id c' := by
  by_cases hwatch : a = .step (.watch id)
  · subst hwatch
    have hmove : w.moveOf id c (.step (.watch id)) = .watch w.now (w.isCancelled c) := by
      simp only [moveOf, site, if_true, moveAt]
    have hs : c.WatchStep w.now (w.isCancelled c) c' :=
      Connection.stepWatch_cases (by rw [hmove] at hm; exact hm)
    exact hk.watch hatt hc (now_of_apply (by simp) ha) hs
  · have hmove : ∀ now cancelled, w.moveOf id c a ≠ .watch now cancelled :=
      fun _ _ he => hwatch (moveOf_eq_watch he).1
    have hl := Connection.after_leavesWatch hmove hm
    refine ⟨fun hw p hmem => ?_, fun hlive' k hw => ?_⟩
    · rcases List.mem_append.mp hmem with hmem | hmem
      · exact hk.ahead (hl.watch ▸ hw) p hmem
      · obtain rfl := List.mem_singleton.mp hmem
        exact hwatch
    · have hlive : w.isCancelled c = false := by
        cases hcan : w.isCancelled c with
        | false => rfl
        | true => simp [isCancelled_of_apply ha hc hc' hcan] at hlive'
      have hw : c.watch = .ticking k := hl.watch ▸ hw
      obtain ⟨earlier, look, later, taken, noticed, hin⟩ := hk.rhythm hlive k hw
      have hnow := now_le_of_punctual hp ha hc hlive hw (hin.beat.due ▸ hin.beat.ahead)
      refine ⟨earlier, look, _, taken, noticed, hin.looked.snoc _, hin.since, hin.past, ?_⟩
      have harrivals : History.arrivals (later ++ [(w, a)]) id =
          later.arrivals id ++ ((c.hearing (w.moveOf id c a)).map fun _ => w.now).toList :=
        History.instants_snoc later _ hc
      rw [harrivals]
      exact (hin.beat.hear (by simp)).later (now_le_of_apply (isForward_of_isPunctual hp) ha) hnow

/-- So does every run. -/
theorem Run.keepsTime {w₀ : World} {c₀ : Connection} (hr : w₀.Run h w) (hp : h.Punctual id)
    (hc₀ : w₀.connections[id]? = some c₀) (h₀ : Attends w₀ config start before [] [] c₀)
    (hk₀ : KeepsTime w₀ config start [] id c₀) (hc : w.connections[id]? = some c) :
    KeepsTime w config start h id c := by
  induction hr generalizing c with
  -- induction on the run, which grows at its end
  | start =>
    obtain rfl : c₀ = c := Option.some.inj (hc₀.symm.trans hc)
    exact hk₀
  | @act h w w' a hr ha ih =>
    have hp' : h.Punctual id := fun p hin => hp p (List.mem_append_left _ hin)
    obtain ⟨c₁, hc₁, hatt⟩ := hr.attends hp'.forward hc₀ h₀
    obtain ⟨c₂, hm, hc₂⟩ := apply_connection ha hc₁
    obtain rfl : c₂ = c := Option.some.inj (hc₂.symm.trans hc)
    have hpa : w.isPunctual id a := hp (w, a) (List.mem_append_right _ List.mem_cons_self)
    exact (ih hp' hc₁).apply hatt hpa ha hc₁ hm hc₂

/-- A timer that has not looked has no rhythm yet. -/
theorem establish_keepsTime {w₀ : World} {parent : Option Nat} {link : Memory}
    (he : w₀.establish config parent link = .ok w)
    (hc : w.connections[w₀.connections.length]? = some c) :
    KeepsTime w config w₀.now [] w₀.connections.length c := by
  obtain ⟨link', device, -, -, rfl⟩ := establish_eq_ok he
  simp only [List.getElem?_concat_length, Option.some.injEq] at hc
  subst hc
  refine ⟨fun _ _ hmem => absurd hmem List.not_mem_nil, fun _ k hk => ?_⟩
  rcases Connection.start_watch config parent ⟨.running, none, 0, 1⟩ link' with ⟨-, hs⟩ | hs <;>
    cases hs.symm.trans hk

/-- **When a silent peer is given up**, in every run from the start of a connection whose clock waits for
the ticks.  The timer can look for the first time at once, whenever it does.  A text that has been taken
by then is noticed then, and the last text that is taken later at the first tick after it; the connection
lasts no longer than until the first tick that comes as late after that as the peer may be silent, and
the timer gives it up no sooner.  Where the ticks are multiples of the interval, either of the two is up
to one interval late. -/
theorem silence_bounded {w₀ w₁ w : World} {config : Config} {parent : Option Nat} {link : Memory}
    {h : History} {c : Connection} {limit : Span} (hz : config.keepaliveInterval.isZero = false)
    (ht : config.keepaliveTimeout = some limit) (hl : link.toPeer = .new memoryCapacity)
    (he : w₀.establish config parent link = .ok w₁) (hr : w₁.Run h w)
    (hp : h.Punctual w₀.connections.length) (hc : w.connections[w₀.connections.length]? = some c)
    (hlive : w.isCancelled c = false) :
    let id := w₀.connections.length
    ((∀ p ∈ h, p.2 ≠ .step (.watch id)) ∧ (w.next (.watch id)).isSome) ∨
    ∃ earlier look later, h.Looked id earlier look later ∧ w₀.now ≤ look.now ∧
      (∀ t ∈ earlier.arrivals id, t ≤ look.now) ∧
      let tick := tickTime look.now config.keepaliveInterval
      let last := (later.arrivals id).getLast?
      ∃ n m, Notices look.now config.keepaliveInterval n last ∧
        Expires look.now config.keepaliveInterval limit n m ∧ w.now ≤ tick m ∧
        (∀ w' c', w.next (.watch id) = some w' → w'.connections[id]? = some c' → w'.isCancelled c' →
          w.now = tick m) ∧
        ((∀ j, (tick j).nanos = look.now.nanos + j * config.keepaliveInterval.nanos) →
          last.getD look.now ≤ tick n ∧ tick n ≤ last.getD look.now + config.keepaliveInterval ∧
            tick m ≤ tick n + limit + config.keepaliveInterval) := by
  intro id
  obtain ⟨c₀, hc₀, h₀⟩ := establish_attends hl he
  obtain ⟨c₁, hc₁, hatt⟩ := hr.attends hp.forward hc₀ h₀
  obtain rfl : c₁ = c := Option.some.inj (hc₁.symm.trans hc)
  have hkeeps := hr.keepsTime hp hc₀ h₀ (establish_keepsTime he hc₀) hc
  rcases hatt.watch_cases hz hlive with hk | ⟨k, hk⟩
  · exact .inl ⟨hkeeps.ahead hk, by simp [next, id, hc, Connection.stepWatch, hk, hlive]⟩
  obtain ⟨earlier, look, later, taken, noticed, hlooked, hsince, hearlier, hb⟩ :=
    hkeeps.rhythm hlive k hk
  refine .inr ⟨earlier, look, later, hlooked, hsince, hearlier, ?_⟩
  intro tick last
  have harrivals : h.arrivals id = earlier.arrivals id ++ later.arrivals id := hlooked.arrivals
  obtain ⟨n, hn, hwhich⟩ := hb.exists_notices fun t hmem =>
    hatt.notes.past t (harrivals ▸ List.mem_append_right _ hmem)
  obtain ⟨m, hm⟩ := Keepalive.exists_expires hz look.now limit n
  have hlt : taken < m := hb.lt_of_expires ht (hwhich.imp And.right And.right) hm
  have htick : tick (taken + 1) ≤ tick m := Keepalive.tickTime_mono _ _ hlt
  refine ⟨n, m, hn, hm, Nat.le_trans hb.ahead htick, fun w' c' hw' hc' hcan => ?_, fun hmult => ?_⟩
  · cases hatt.ticks hlive hc hw' hc' with
    | looks hk₁ => cases hk.symm.trans hk₁
    | goesOn _ _ _ _ hn => simp [hcan] at hn
    | @givesUp k₁ limit' hk₁ hd hs ht' hle _ _ =>
      obtain rfl : k₁ = k := Watch.ticking.inj (hk₁.symm.trans hk)
      obtain rfl : limit' = limit := Option.some.inj ((hatt.timeout ▸ ht').symm.trans ht)
      have hseen : (earlier.arrivals id).length + (later.arrivals id).length = k₁.seen := by
        rw [← List.length_append, ← harrivals, ← hatt.notes.counted, hs]
      obtain ⟨-, rfl⟩ : _ ∧ n = noticed := hwhich.resolve_right fun hw => Nat.ne_of_gt hw.1 hseen
      -- the tick that is due comes late enough, so it is the first that does
      have hnow := hb.now_eq hd
      rw [hb.lastInbound, hnow] at hle
      have hle' : m ≤ taken + 1 := Nat.le_of_not_lt fun hlt' =>
        Nat.not_lt_of_le hle (hm.first _ (Nat.lt_succ_of_le hb.noticed_le) hlt')
      rw [hnow, Nat.le_antisymm hle' hlt]
  · exact ⟨(hn.le hmult).1, (hn.le hmult).2, hm.le hmult⟩

/-- A world whose only connection has just been made. -/
def attended : World := (standard.establish Config.brisk none freshLink).toOption.getD standard

/-- The first look comes at three milliseconds, the second text is noticed at twenty-three, and fifteen
later the next tick is at forty-three. -/
theorem silence_bounded_twoTexts :
    let tick := tickTime (.ofMillis 3) (.ofMillis 10)
    ∃ w look later n m, standard.establish Config.brisk none freshLink = .ok attended ∧
      attended.play twoTexts = some w ∧ (attended.chronicle twoTexts).Punctual 0 ∧
      (attended.chronicle twoTexts).arrivals 0 = [.zero, .ofMillis 15] ∧
      (attended.chronicle twoTexts).Looked 0 ((attended.chronicle twoTexts).take 3) look later ∧
      look.now = .ofMillis 3 ∧ w.now = .ofMillis 43 ∧
      Notices (.ofMillis 3) (.ofMillis 10) n (some (.ofMillis 15)) ∧
      Expires (.ofMillis 3) (.ofMillis 10) (.ofMillis 15) n m ∧ .ofMillis 43 = tick m ∧
      tick m ≤ tick n + .ofMillis 15 + .ofMillis 10 := by
  intro tick
  let h := attended.chronicle twoTexts
  let look' := (h[3]?.map Prod.fst).getD attended
  have hlooked' : h.Looked 0 (h.take 3) look' (h.drop 4) := ⟨rfl, by decide⟩
  have hlast : (History.arrivals (h.drop 4) 0).getLast? = some (.ofMillis 15) := rfl
  have hpunctual : h.Punctual 0 := by decide
  have hbounded := @silence_bounded standard attended _ Config.brisk none freshLink _ _ (.ofMillis 15)
    rfl rfl rfl rfl (@run_of_play _ _ twoTexts rfl) hpunctual rfl rfl
  rcases hbounded with ⟨hno, -⟩ | ⟨earlier, look, later, hlooked, -, -, n, m, hn, hm, -, hgone, hle⟩
  · exact absurd rfl (hno _ hlooked'.mem)
  obtain ⟨rfl, rfl⟩ := hlooked.unique hlooked'
  have hn : Notices (.ofMillis 3) (.ofMillis 10) n (some (.ofMillis 15)) := hn
  have hnow : Span.ofMillis 43 = tick m := hgone _ _ rfl rfl rfl
  have hmult (j : Nat) : (tick j).nanos = (Span.ofMillis 3).nanos + j * (Span.ofMillis 10).nanos := by
    rw [show tick j = .ofMillis (3 + j * 10) from Keepalive.tickTime_of_whole (by decide) j]
    simp only [Span.ofMillis, Span.perMilli]
    omega
  exact ⟨_, look', _, n, m, rfl, rfl, hpunctual, rfl, hlooked', rfl, rfl, hn, hm, hnow,
    (hle hmult).2.2⟩

/-- A peer sends one text well before the first tick, and nothing more. -/
def earlyText : List Act :=
  [.step (.watch 0), .pass standard.time (.ofMillis 1), .peerWrite 0 "3", .step (.reader 0)] ++
    tickAt 10 ++ tickAt 20 ++ [.pass standard.time (.ofMillis 29)]

/-- **A silent peer is given up later than one interval after the timeout**: its last text has come at one
millisecond, it may be silent for fifteen, and with a tick every ten milliseconds it is given up at
thirty. -/
theorem silence_overdue :
    ∃ w₁ w c w₂ c₂, standard.establish Config.brisk none freshLink = .ok w₁ ∧
      w₁.play earlyText = some w ∧ (w₁.chronicle earlyText).Punctual 0 ∧
      (w₁.chronicle earlyText).arrivals 0 = [.ofMillis 1] ∧ w.connections[0]? = some c ∧
      w.isCancelled c = false ∧ Span.ofMillis 1 + .ofMillis 15 + .ofMillis 10 < w.now ∧
      w.play (tickAt 30) = some w₂ ∧ w₂.connections[0]? = some c₂ ∧ w₂.isCancelled c₂ :=
  ⟨_, _, _, _, _, rfl, rfl, by decide, rfl, rfl, rfl, by decide, rfl, rfl, rfl⟩

end World

end VirtualPrinter.Service
