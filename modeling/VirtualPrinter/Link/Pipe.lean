/-!
# Bounded pipes

A pipe carries items from its senders to one taker, in order, and holds so many of them at most.
Either side may leave for good.  Once the taker has stopped receiving nothing enters any more, but
what is inside can still be taken; once the senders have left, the pipe ends where it is empty.

A sender that finds no room may get in line.  The room that is made is kept for the line, so that
whoever only looks in passing does not get ahead of those who wait.

## Main definitions

* `Link.Pipe`, with `Pipe.put` and `Pipe.take`.
* `Pipe.joinLine`, `Pipe.putInLine`, `Pipe.leaveLine`: how a sender waits for room.
* `Pipe.stopReceiving`, `Pipe.dropTaker`, `Pipe.stopSending`: how either side leaves.

## Main results

* `items_put`, `items_putInLine`, `items_take`: what enters goes to the end, and what is taken comes
  from the front.
-/

namespace VirtualPrinter.Link

/-- A bounded pipe. -/
structure Pipe (α : Type) where
  capacity : Nat
  items : List α
  /-- Somebody can still put items in. -/
  sending : Bool
  /-- Items are still let in. -/
  receiving : Bool
  /-- The number of senders in line. -/
  waiting : Nat
deriving DecidableEq

/-- What becomes of an item that is offered to a pipe. -/
inductive Put (α : Type) where
  | entered (p : Pipe α)
  | full
  | refused

/-- What a pipe gives. -/
inductive Take (α : Type) where
  | item (x : α) (p : Pipe α)
  | waiting
  | ended

namespace Pipe

variable {α : Type}

/-- An empty pipe; it holds one item at least. -/
def new (capacity : Nat) : Pipe α := ⟨max capacity 1, [], true, true, 0⟩

/-- All room is taken, or kept for those in line. -/
def isFull (p : Pipe α) : Bool := p.capacity ≤ p.items.length + p.waiting

/-- Offers an item.  A pipe that lets nothing in says so even when it is full. -/
@[inline] def put (p : Pipe α) (x : α) : Put α :=
  if !p.receiving then .refused
  else if p.isFull then .full
  else .entered { p with items := p.items ++ [x] }

/-- A sender gets in line. -/
def joinLine (p : Pipe α) : Pipe α := { p with waiting := p.waiting + 1 }

/-- A sender in line gives up. -/
def leaveLine (p : Pipe α) : Pipe α := { p with waiting := p.waiting - 1 }

/-- Offers the item of a sender in line, who leaves the line when it enters. -/
def putInLine (p : Pipe α) (x : α) : Put α :=
  if !p.receiving then .refused
  else if p.capacity ≤ p.items.length then .full
  else .entered { p.leaveLine with items := p.items ++ [x] }

/-- Takes the oldest item. -/
def take (p : Pipe α) : Take α :=
  match p.items with
  | x :: rest => .item x { p with items := rest }
  | [] => if p.sending then .waiting else .ended

/-- Lets nothing more in; what is inside stays. -/
def stopReceiving (p : Pipe α) : Pipe α := { p with receiving := false }

/-- The taker leaves, and what is inside is lost. -/
def dropTaker (p : Pipe α) : Pipe α := { p with receiving := false, items := [] }

/-- The senders leave; what is inside stays. -/
def stopSending (p : Pipe α) : Pipe α := { p with sending := false }

/-- An item that enters goes to the end. -/
theorem items_put {p q : Pipe α} {x : α} (h : p.put x = .entered q) : q.items = p.items ++ [x] := by
  unfold put at h
  split at h
  · cases h
  · split at h
    · cases h
    · cases h; rfl

/-- An item that enters from the line goes to the end too. -/
theorem items_putInLine {p q : Pipe α} {x : α} (h : p.putInLine x = .entered q) :
    q.items = p.items ++ [x] := by
  unfold putInLine at h
  split at h
  · cases h
  · split at h
    · cases h
    · cases h; rfl

/-- An item that is taken comes from the front. -/
theorem items_take {p q : Pipe α} {x : α} (h : p.take = .item x q) : p.items = x :: q.items := by
  unfold take at h
  split at h
  · next heq => cases h; exact heq
  · split at h <;> cases h

end Pipe

end VirtualPrinter.Link
