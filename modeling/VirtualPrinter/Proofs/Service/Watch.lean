import VirtualPrinter.Proofs.Link.Pipe
import VirtualPrinter.Proofs.Time.Span
import VirtualPrinter.Service.Connection

/-!
# The timer

What the timer of a connection can do in one step.  Its first step is a look: what has come in so far
counts as seen, and the ticks come at the interval from then on.

## Main definitions

* `Pipe.offer`: a queue after somebody who does not wait has offered an item.
* `Connection.WatchStep`: what the timer can do.

## Main results

* `Keepalive.tick_eq_some`, `Keepalive.tick_eq_none_iff`: what is known after a tick.
* `Connection.stepWatch_cases`: a step of the timer is one of these.
* `Connection.isSome_stepWatch_live`: when the timer can take a step.
-/

namespace VirtualPrinter.Link.Pipe

/-- A pipe that lets items in, after somebody who does not wait has offered one. -/
def offer {α : Type} (p : Pipe α) (x : α) : Pipe α :=
  if p.isFull then p else { p with items := p.items ++ [x] }

end VirtualPrinter.Link.Pipe

namespace VirtualPrinter.Service

open Link (Pipe)
open Time (Span)
open Wire (Frame)

namespace Keepalive

variable {k k' : Keepalive} {interval now : Span} {timeout : Option Span} {framesIn : Nat}

theorem tick_eq_none_iff :
    k.tick interval timeout now framesIn = none ↔
      framesIn = k.seen ∧ ∃ limit, timeout = some limit ∧ limit ≤ now - k.lastInbound := by
  unfold tick
  by_cases hs : framesIn = k.seen
  · simp [hs, Option.any_eq_true]
  · simp [hs]

/-- What is known after a tick: something new has come in, or nothing, but not for too long. -/
theorem tick_eq_some (h : k.tick interval timeout now framesIn = some k') :
    (framesIn ≠ k.seen ∧ k' = ⟨framesIn, now, nextTick interval k.due now⟩) ∨
      (framesIn = k.seen ∧ k' = { k with due := nextTick interval k.due now } ∧
        ∀ limit, timeout = some limit → now - k.lastInbound < limit) := by
  unfold tick at h
  by_cases hs : framesIn = k.seen
  · simp only [hs, ne_eq, not_true_eq_false, if_false] at h
    split at h
    · cases h
    · next hn =>
      refine .inr ⟨hs, (Option.some.inj h).symm, fun limit hl => ?_⟩
      simpa [hl, Span.le_def, Span.lt_def] using hn
  · simp only [ne_eq, hs, not_false_eq_true, if_true] at h
    exact .inl ⟨hs, (Option.some.inj h).symm⟩

end Keepalive

theorem Station.tryEnqueue_of_receiving {s : Station} (f : Frame) (h : s.queue.receiving) :
    s.tryEnqueue f = .ok (!s.queue.isFull, { s with queue := s.queue.offer f }) := by
  cases hf : s.queue.isFull with
  | true =>
    simp only [tryEnqueue, Pipe.put_eq_full_iff.mpr ⟨h, hf⟩, Pipe.offer, hf, if_true, Bool.not_true]
  | false =>
    simp [tryEnqueue, Pipe.put_eq_entered_iff.mpr ⟨h, hf, rfl⟩, Pipe.offer, hf]

theorem Station.tryEnqueue_of_closed {s : Station} (f : Frame) (h : s.queue.receiving = false) :
    s.tryEnqueue f = .error .queueClosed := by
  simp only [tryEnqueue, Pipe.put_eq_refused_iff.mpr h]

namespace Connection

variable {c c' : Connection} {now : Span} {cancelled : Bool}

/-- What the timer can do. -/
inductive WatchStep (c : Connection) (now : Span) (cancelled : Bool) : Connection → Prop
  /-- The connection has shut down. -/
  | stop (hk : c.watch ≠ .done) (hc : cancelled) :
    WatchStep c now cancelled { c with watch := .done }
  /-- The first look. -/
  | begin (hk : c.watch = .starting) (hc : cancelled = false) :
    WatchStep c now cancelled
      { c with watch := .ticking (.start c.keepaliveInterval now c.session.framesIn) }
  /-- The peer has been silent for too long. -/
  | giveUp {k limit} (hk : c.watch = .ticking k) (hc : cancelled = false)
    (hd : k.due.nextMilli ≤ now) (hs : c.session.framesIn = k.seen)
    (ht : c.keepaliveTimeout = some limit) (hl : limit ≤ now - k.lastInbound) :
    WatchStep c now cancelled { c.cancel with watch := .done }
  /-- The send queue has been closed. -/
  | leave {k} (hk : c.watch = .ticking k) (hc : cancelled = false)
    (hq : c.station.queue.receiving = false) :
    WatchStep c now cancelled { c with watch := .done }
  | goOn {k k'} (hk : c.watch = .ticking k) (hc : cancelled = false) (hd : k.due.nextMilli ≤ now)
    (ht : k.tick c.keepaliveInterval c.keepaliveTimeout now c.session.framesIn = some k')
    (hq : c.station.queue.receiving) :
    WatchStep c now cancelled
      { c.withQueue (c.station.queue.offer keepaliveFrame) with watch := .ticking k' }

theorem stepWatch_cases (h : c.stepWatch now cancelled = some c') : c.WatchStep now cancelled c' := by
  cases cancelled with
  -- after a shutdown the timer ends, whatever it has been waiting for
  | true =>
    cases hk : c.watch with
    | done => simp [stepWatch, hk] at h
    | starting | ticking =>
      simp only [stepWatch, hk, if_true, Option.some.injEq] at h
      subst h
      exact .stop (by simp [hk]) rfl
  | false =>
    cases hk : c.watch with
    | done => simp [stepWatch, hk] at h
    | starting =>
      simp only [stepWatch, hk, Bool.false_eq_true, if_false, Option.some.injEq] at h
      subst h
      exact .begin hk rfl
    | ticking k =>
      simp only [stepWatch, hk, Bool.false_eq_true, if_false] at h
      split at h
      · cases h
      · next hd =>
        have hd : k.due.nextMilli ≤ now := Nat.le_of_not_lt hd
        cases ht : k.tick c.keepaliveInterval c.keepaliveTimeout now c.session.framesIn with
        | none =>
          obtain ⟨hs, limit, hl, hle⟩ := Keepalive.tick_eq_none_iff.mp ht
          simp only [ht, Option.some.injEq] at h
          subst h
          exact .giveUp hk rfl hd hs hl hle
        | some k' =>
          cases hq : c.station.queue.receiving with
          | true =>
            simp only [ht, Station.tryEnqueue_of_receiving keepaliveFrame hq,
              Option.some.injEq] at h
            subst h
            exact .goOn hk rfl hd ht hq
          | false =>
            simp only [ht, Station.tryEnqueue_of_closed keepaliveFrame hq, Option.some.injEq] at h
            subst h
            exact .leave hk rfl hq

/-- The timer takes its step when the tick is due, whether or not the send queue has room. -/
theorem isSome_stepWatch_live {k : Keepalive} (hk : c.watch = .ticking k) (now : Span) :
    (c.stepWatch now false).isSome ↔ k.due.nextMilli ≤ now := by
  simp only [stepWatch, hk, Bool.false_eq_true, if_false]
  by_cases hd : now < k.due.nextMilli
  · simp only [hd, if_true, Option.isSome_none, Bool.false_eq_true, false_iff]
    exact Nat.not_le_of_lt hd
  · have hd' : k.due.nextMilli ≤ now := Nat.le_of_not_lt hd
    simp only [hd, if_false, hd', iff_true]
    split
    · rfl
    · split <;> rfl

/-- The timer itself hears nothing, and keeps to its rhythm. -/
theorem WatchStep.session (h : c.WatchStep now cancelled c') :
    c'.session = c.session ∧ c'.keepaliveInterval = c.keepaliveInterval ∧
      c'.keepaliveTimeout = c.keepaliveTimeout := by
  cases h <;> exact ⟨rfl, rfl, rfl⟩

end Connection

end VirtualPrinter.Service
