import VirtualPrinter.Link.Memory

/-!
# What pipes and links let through

When a pipe lets an item in, when it gives one, and what its two sides can do to it; when a text is
written to a link in memory.

## Main definitions

* `Pipe.Fed`, `Pipe.Drawn`: a pipe after something that its senders or its taker have done.
* `Pipe.Fits`: there is room for so many items.

## Main results

* `Pipe.put_eq_entered_iff` and its kind: when an item is let in.
* `Memory.write_eq_done_iff` and its kind: when a text is written.
-/

namespace VirtualPrinter.Link

namespace Pipe

variable {α : Type} {p q : Pipe α} {x : α}

/-- What a pipe is after something that its senders have done: an item may have entered. -/
structure Fed (p q : Pipe α) (x : Option α) : Prop where
  items : q.items = p.items ++ x.toList
  capacity : q.capacity = p.capacity
  sending : q.sending = p.sending
  receiving : q.receiving = p.receiving
  entered : x.isSome → p.receiving

/-- What a pipe is after something that its taker has done: an item may have been taken, or the taker
has left. -/
inductive Drawn (p q : Pipe α) : Option α → Bool → Prop
  | nothing (h : q = p) : Drawn p q none false
  | item {y} (hy : p.items = y :: q.items) (hq : q = { p with items := q.items }) :
    Drawn p q (some y) false
  | left (h : q = p.dropTaker) : Drawn p q none true

/-- There is room for so many items besides those of the senders in line. -/
def Fits (p : Pipe α) (n : Nat) : Prop := p.items.length + p.waiting + n ≤ p.capacity

theorem Fed.refl (p : Pipe α) : p.Fed p none :=
  ⟨(List.append_nil _).symm, rfl, rfl, rfl, nofun⟩

theorem Fed.unchanged {x : Option α} (h : x = none) : p.Fed p x := by
  subst h
  exact .refl p

theorem put_eq_entered_iff :
    p.put x = .entered q ↔
      p.receiving ∧ p.isFull = false ∧ q = { p with items := p.items ++ [x] } := by
  unfold put
  cases p.receiving <;> cases p.isFull <;> simp [eq_comm]

theorem put_eq_full_iff : p.put x = .full ↔ p.receiving ∧ p.isFull := by
  unfold put
  cases p.receiving <;> cases p.isFull <;> simp

theorem put_eq_refused_iff : p.put x = .refused ↔ p.receiving = false := by
  unfold put
  cases p.receiving <;> cases p.isFull <;> simp

theorem putInLine_eq_entered_iff :
    p.putInLine x = .entered q ↔
      p.receiving ∧ p.items.length < p.capacity ∧
        q = { p.leaveLine with items := p.items ++ [x] } := by
  unfold putInLine
  cases p.receiving
  · simp
  · by_cases h : p.capacity ≤ p.items.length
    · simp [h, Nat.not_lt_of_le h]
    · simp [h, Nat.lt_of_not_le h, eq_comm]

theorem putInLine_eq_full_iff :
    p.putInLine x = .full ↔ p.receiving ∧ p.capacity ≤ p.items.length := by
  unfold putInLine
  cases p.receiving
  · simp
  · by_cases h : p.capacity ≤ p.items.length <;> simp [h]

theorem putInLine_eq_refused_iff : p.putInLine x = .refused ↔ p.receiving = false := by
  unfold putInLine
  cases p.receiving
  · simp
  · by_cases h : p.capacity ≤ p.items.length <;> simp [h]

theorem put_fed (h : p.put x = .entered q) : p.Fed q (some x) := by
  obtain ⟨hr, -, rfl⟩ := put_eq_entered_iff.mp h
  exact ⟨rfl, rfl, rfl, rfl, fun _ => hr⟩

theorem putInLine_fed (h : p.putInLine x = .entered q) : p.Fed q (some x) := by
  obtain ⟨hr, -, rfl⟩ := putInLine_eq_entered_iff.mp h
  exact ⟨rfl, rfl, rfl, rfl, fun _ => hr⟩

theorem joinLine_fed (p : Pipe α) : p.Fed p.joinLine none :=
  ⟨(List.append_nil _).symm, rfl, rfl, rfl, nofun⟩

theorem leaveLine_fed (p : Pipe α) : p.Fed p.leaveLine none :=
  ⟨(List.append_nil _).symm, rfl, rfl, rfl, nofun⟩

theorem take_eq_item_iff :
    p.take = .item x q ↔ p.items = x :: q.items ∧ q = { p with items := q.items } := by
  unfold take
  cases hp : p.items with
  | nil => cases p.sending <;> simp
  | cons y rest =>
    simp only [Take.item.injEq, List.cons.injEq]
    constructor
    · rintro ⟨rfl, rfl⟩
      exact ⟨⟨rfl, rfl⟩, rfl⟩
    · rintro ⟨⟨rfl, hr⟩, hq⟩
      exact ⟨rfl, by rw [hq, hr]⟩

theorem take_drawn (h : p.take = .item x q) : p.Drawn q (some x) false := by
  obtain ⟨hx, hq⟩ := take_eq_item_iff.mp h
  exact .item hx hq

section Drawn

variable {y : Option α} {gone : Bool}

theorem Drawn.capacity (h : p.Drawn q y gone) : q.capacity = p.capacity := by
  cases h with
  | nothing h => rw [h]
  | item hy hq => rw [hq]
  | left h => rw [h, dropTaker]

theorem Drawn.sending (h : p.Drawn q y gone) : q.sending = p.sending := by
  cases h with
  | nothing h => rw [h]
  | item hy hq => rw [hq]
  | left h => rw [h, dropTaker]

theorem Drawn.waiting (h : p.Drawn q y gone) : q.waiting = p.waiting := by
  cases h with
  | nothing h => rw [h]
  | item hy hq => rw [hq]
  | left h => rw [h, dropTaker]

/-- A taker that has left does not come back. -/
theorem Drawn.receiving (h : p.Drawn q y gone) (hp : p.receiving = false) : q.receiving = false := by
  cases h with
  | nothing h => rw [h, hp]
  | item hy hq => rw [hq, hp]
  | left h => rw [h, dropTaker]

theorem Drawn.receiving_of (h : p.Drawn q y gone) (hq : q.receiving) : p.receiving := by
  cases hp : p.receiving with
  | true => rfl
  | false => simp [h.receiving hp] at hq

/-- What is inside is lost when the taker leaves. -/
theorem Drawn.items_eq_nil (h : p.Drawn q y gone) (hp : p.receiving = false → p.items = [])
    (hq : q.receiving = false) : q.items = [] := by
  cases h with
  | nothing h => rw [h] at hq ⊢; exact hp hq
  | item hy h =>
    rw [h] at hq
    simp [hp hq] at hy
  | left h => rw [h, dropTaker]

end Drawn

theorem items_eq_nil_of_take (h : ∀ x q, p.take ≠ .item x q) : p.items = [] := by
  unfold take at h
  cases hp : p.items with
  | nil => rfl
  | cons x rest => exact absurd (by simp only [hp]) (h x { p with items := rest })

theorem sending_eq_false_of_take (h : p.take = .ended) : p.sending = false := by
  unfold take at h
  split at h
  · cases h
  · cases hs : p.sending
    · rfl
    · simp [hs] at h

end Pipe

namespace Memory

variable {m link : Memory} {text : String}

theorem write_eq_done_iff :
    m.write text = .done link ↔
      m.toPeer.sending ∧ m.toPeer.receiving ∧ m.toPeer.isFull = false ∧
        link = { m with toPeer := { m.toPeer with items := m.toPeer.items ++ [text] } } := by
  unfold write
  cases m.toPeer.sending
  · simp
  · cases hp : m.toPeer.put text with
    | entered pipe =>
      obtain ⟨hr, hf, rfl⟩ := Pipe.put_eq_entered_iff.mp hp
      simp [hr, hf, eq_comm]
    | full => simp [(Pipe.put_eq_full_iff.mp hp).2]
    | refused => simp [Pipe.put_eq_refused_iff.mp hp]

theorem write_eq_waiting_iff :
    m.write text = .waiting ↔ m.toPeer.sending ∧ m.toPeer.receiving ∧ m.toPeer.isFull := by
  unfold write
  cases m.toPeer.sending
  · simp
  · cases hp : m.toPeer.put text with
    | entered pipe => simp [(Pipe.put_eq_entered_iff.mp hp).2.1]
    | full => simp [Pipe.put_eq_full_iff.mp hp]
    | refused => simp [Pipe.put_eq_refused_iff.mp hp]

/-- A write fails only for a side that has left. -/
theorem left_of_write_eq_failed {e : Error} (h : m.write text = .failed e) :
    m.toPeer.sending = false ∨ m.toPeer.receiving = false := by
  unfold write at h
  cases hs : m.toPeer.sending
  · exact .inl rfl
  · cases hp : m.toPeer.put text with
    | entered pipe => simp [hs, hp] at h
    | full => simp [hs, hp] at h
    | refused => exact .inr (Pipe.put_eq_refused_iff.mp hp)

end Memory

end VirtualPrinter.Link
