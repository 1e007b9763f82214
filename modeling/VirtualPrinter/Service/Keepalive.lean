import VirtualPrinter.Service.Streamer

/-!
# Signs of life

At an interval, a connection sends a sign of life of its own, and looks whether anything has come in
since it last looked.  When nothing has come in for too long the connection is given up; that is
noticed at a tick, so up to one interval late.  It looks for the first time when it starts, which may
be after the connection has been made and frames have come in.

## Main definitions

* `Service.Keepalive`, and `Keepalive.tick`.
-/

namespace VirtualPrinter.Service

open Time (Span)

/-- What is known at a tick: the frames counted so far, when something new was last seen, and the
instant of the next tick. -/
structure Keepalive where
  seen : Nat
  lastInbound : Span
  due : Span
deriving DecidableEq

namespace Keepalive

/-- The first look: what has come in so far counts as seen now, and the first tick comes one interval
later. -/
def start (interval now : Span) (framesIn : Nat) : Keepalive := ⟨framesIn, now, now + interval⟩

/-- A tick: none if the peer has been silent for too long. -/
def tick (k : Keepalive) (interval : Span) (timeout : Option Span) (now : Span) (framesIn : Nat) :
    Option Keepalive :=
  let due := nextTick interval k.due now
  if framesIn ≠ k.seen then some ⟨framesIn, now, due⟩
  else if timeout.any fun limit => limit ≤ now - k.lastInbound then none
  else some { k with due := due }

end Keepalive

end VirtualPrinter.Service
