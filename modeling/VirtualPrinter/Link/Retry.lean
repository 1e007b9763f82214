import VirtualPrinter.Link.Error
import VirtualPrinter.Time.Span

/-!
# Repeated attempts to connect

After a failure that may pass, the next attempt is made after a wait; the waits double from one
attempt to the next up to a longest one.  Any other failure ends the attempts at once.  An order to
stop breaks off a wait, and is looked for before every attempt, but not while one is under way.

## Main definitions

* `Link.RetryPolicy`: how often and how patiently to try.
* `RetryPolicy.delayFor`: the wait after a failed attempt.
* `RetryPolicy.afterFailure`: the end, or the wait before the next attempt.
* `Link.Progress`, and `Progress.step`: one step of a series of attempts.
* `Link.Order`: when a series is told to stop.
* `RetryPolicy.dialUntil`: all attempts to connect under a clock, and what they come to.
-/

namespace VirtualPrinter.Link

open Time (Span)

/-- How often and how patiently to try to connect. -/
structure RetryPolicy where
  maxAttempts : Nat
  base : Span
  max : Span
deriving DecidableEq

namespace RetryPolicy

/-- Three attempts, with waits from a tenth of a second up to five seconds. -/
def standard : RetryPolicy := ⟨3, .ofMillis 100, .ofMillis 5000⟩

/-- A single attempt. -/
def once : RetryPolicy := { standard with maxAttempts := 1 }

/-- A policy with another number of attempts; one is always made. -/
def withMaxAttempts (p : RetryPolicy) (attempts : Nat) : RetryPolicy :=
  { p with maxAttempts := Nat.max attempts 1 }

/-- The number of attempts; one is always made. -/
def attempts (p : RetryPolicy) : Nat := Nat.max p.maxAttempts 1

/-- The wait after a failed attempt, counted from one: the base wait, doubled with every attempt
after the first and at most thirty times, up to the longest wait. -/
def delayFor (p : RetryPolicy) (attempt : UInt32) : Span :=
  if attempt = 0 then .zero
  else (p.base.scaledBy (Nat.pow 2 (min (attempt.toNat - 1) 30))).atMost p.max

/-- What follows the failure of an attempt, counted from one: the end, or a wait and another
attempt. -/
def afterFailure (p : RetryPolicy) (attempt : Nat) (e : Error) : Except Error Span :=
  if !e.isRetryable then .error e
  else if p.attempts ≤ attempt then .error (.retriesExhausted p.attempts)
  else .ok (p.delayFor attempt.toUInt32)

end RetryPolicy

/-- How far a series of attempts has come. -/
inductive Progress (α : Type) where
  /-- An attempt is under way, after so many that have failed. -/
  | dialling (failures : Nat)
  /-- The next attempt is made after a wait. -/
  | pausing (failures : Nat) (wake : Span)
  | made (link : α)
  | failed (e : Error)
deriving DecidableEq

namespace Progress

variable {α : Type}

/-- Before every attempt the series looks whether it has been told to stop. -/
def look (stopped : Bool) (failures : Nat) : Progress α :=
  if stopped then .failed .cancelled else .dialling failures

/-- What follows what an attempt comes to, after so many that have failed.  An alarm set at an instant
for a wait rings at the instant that `alarm` gives. -/
def answer (p : RetryPolicy) (alarm : Span → Span → Span) (now : Span) (failures : Nat) :
    Except Error α → Progress α
  | .ok link => .made link
  | .error e =>
    match p.afterFailure (failures + 1) e with
    | .error e => .failed e
    | .ok wait => .pausing (failures + 1) (alarm now wait)

/-- One step of a series, if it can take one: `stopped` tells whether it has been told to stop, and
`outcome` what the attempt under way comes to.  A wait lasts until its alarm rings or the series is told
to stop, and either way the series looks then. -/
def step (p : RetryPolicy) (alarm : Span → Span → Span) (stopped : Bool) (now : Span)
    (outcome : Except Error α) : Progress α → Option (Progress α)
  | .dialling failures => some (answer p alarm now failures outcome)
  | .pausing failures wake => if !stopped && now < wake then none else some (look stopped failures)
  | .made _ | .failed _ => none

end Progress

/-! ### Under a clock -/

/-- An order to stop, at an instant.  Of the attempts that would begin at that very instant, the order
comes behind those that are numbered below `behind`; attempts are counted from zero. -/
structure Order where
  instant : Span
  behind : Nat
deriving DecidableEq

/-- The order has come when an attempt is about to begin. -/
def Order.hasCome (o : Order) (attempt : Nat) (now : Span) : Bool :=
  o.instant < now || o.instant == now && o.behind ≤ attempt

/-- The instant at which a wait ends that is begun now: its alarm rings, or an order to stop breaks it
off before that.  An order that has come during the attempt does so as the wait begins. -/
def endOfWait (cancel : Option Order) (now wake : Span) : Span :=
  match cancel.filter (·.instant < wake) with
  | some o => if o.instant ≤ now then now else o.instant
  | none => wake

/-- An attempt to connect: what it comes to, and how long it takes. -/
structure Attempt (α : Type) where
  result : Except Error α
  took : Span

/-- What a series of attempts comes to: the result, the number of attempts, the waits that were
begun, and the instant of the end. -/
structure Dialled (α : Type) where
  result : Except Error α
  attempts : Nat
  waits : List Span
  finish : Span

namespace RetryPolicy

variable {α : Type}

/-- A series goes on to its end, for at most so many steps, when some attempts have been made. -/
def dialFrom (p : RetryPolicy) (alarm : Span → Span → Span) (cancel : Option Order)
    (attempt : Nat → Attempt α) : (steps : Nat) → Progress α → (made : Nat) → (now : Span) → Dialled α
  | _, .made link, made, now => ⟨.ok link, made, [], now⟩
  | _, .failed e, made, now => ⟨.error e, made, [], now⟩
  | 0, _, made, now => ⟨.error (.retriesExhausted p.attempts), made, [], now⟩
  | steps + 1, .dialling failures, made, now =>
    let now := now + (attempt failures).took
    let next := Progress.answer p alarm now failures (attempt failures).result
    p.dialFrom alarm cancel attempt steps next (made + 1) now
  | steps + 1, .pausing failures wake, made, now =>
    let stopped := cancel.any (·.hasCome failures wake)
    let rest :=
      p.dialFrom alarm cancel attempt steps (.look stopped failures) made (endOfWait cancel now wake)
    { rest with waits := p.delayFor failures.toUInt32 :: rest.waits }

/-- Attempts to connect until one succeeds, fails for good or is the last, or until the order to stop has
come.  An attempt and the wait behind it take a step each. -/
def dialUntil (p : RetryPolicy) (alarm : Span → Span → Span) (cancel : Option Order)
    (attempt : Nat → Attempt α) (now : Span) : Dialled α :=
  let stopped := cancel.any (·.hasCome 0 now)
  p.dialFrom alarm cancel attempt (2 * p.attempts) (.look stopped 0) 0 now

/-- Attempts to connect with an order to stop that is set for an instant.  It has come before all of
them if that is not later than the start, and comes behind whatever begins at its instant otherwise. -/
def dial (p : RetryPolicy) (alarm : Span → Span → Span) (cancel : Option Span)
    (attempt : Nat → Attempt α) (now : Span) : Dialled α :=
  let order (instant : Span) : Order := ⟨instant, if instant ≤ now then 0 else p.attempts⟩
  p.dialUntil alarm (cancel.map order) attempt now

end RetryPolicy

end VirtualPrinter.Link
