import VirtualPrinter.Proofs.Service.Outbound
import VirtualPrinter.Proofs.Service.Run

/-!
# Left in peace

The reader of a connection is left in peace as long as nobody else changes the printer, apart from its
reports, or shuts the connection down.  Quiet acts leave it in peace: whatever the peer does, the
frames of the application, and the time that passes.

## Main definitions

* `World.Spares`: an act has left the printer alone and has not shut the connection down.
* `World.History.Undisturbed`: the reader has been left in peace.

## Main results

* `World.moveOf_eq_read`, `World.moveOf_eq_write`: which acts move the reader and the writer.
* `World.undisturbed_chronicle`: quiet acts leave the reader in peace.
-/

namespace VirtualPrinter.Service

/-- An act that has nothing to do with the printer or with a shutdown. -/
def Act.isQuiet : Act → Bool
  | .offer _ _ | .joinLine _ | .offerInLine _ _ | .leaveLine _ | .peerWrite _ _ | .peerTake _
  | .dropPeer _ | .pass _ _ => true
  | .step _ | .establish _ _ _ | .close _ | .order _ | .instruct _ | .change _ => false

namespace World

variable {w w' : World} {id : Nat} {c c' : Connection} {a : Act}

/-- The reader of a connection moves by its own steps. -/
theorem moveOf_eq_read {here : Surroundings} {cancelled : Bool} {d : Device}
    (h : w.moveOf id c a = .read here cancelled d) :
    a = .step (.reader id) ∧ here = w.here ∧ cancelled = w.isCancelled c ∧ d = w.device := by
  unfold moveOf at h
  split at h
  · next hs =>
    unfold moveAt at h
    split at h <;> try cases h
    · cases hs
      exact ⟨rfl, rfl, rfl, rfl⟩
    · split at h
      · cases h
      · split at h <;> cases h
  · cases h

/-- The consumer of a connection moves by its own steps. -/
theorem moveOf_eq_consume {here : Surroundings} {cancelled : Bool} {d : Device}
    (h : w.moveOf id c a = .consume here cancelled d) :
    a = .step (.consumer id) ∧ here = w.here ∧ cancelled = w.isCancelled c ∧ d = w.device := by
  unfold moveOf at h
  split at h
  · next hs =>
    unfold moveAt at h
    split at h <;> try cases h
    · cases hs
      exact ⟨rfl, rfl, rfl, rfl⟩
    · split at h
      · cases h
      · split at h <;> cases h
  · cases h

/-- The writer of a connection looks for its shutdown. -/
theorem moveOf_eq_write {cancelled : Bool} (h : w.moveOf id c a = .write cancelled) :
    cancelled = w.isCancelled c := by
  unfold moveOf at h
  split at h
  · unfold moveAt at h
    split at h <;> try cases h
    · rfl
    · split at h
      · cases h
      · split at h <;> cases h
  · cases h

/-- An act has left the printer alone, apart from its reports, and has not shut the connection
down.  When the connection has been shut down the printer may be set free. -/
structure Spares (w w' : World) (id : Nat) : Prop where
  state : w'.device.state = w.device.state
  closed : w'.isClosed id = w.isClosed id
  device : w.isClosed id = false → w'.device.Alike w.device

/-- Nobody but the reader of a connection changes the printer or shuts the connection down. -/
def History.Undisturbed (h : History) (id : Nat) : Prop :=
  ∀ p ∈ h, p.2 ≠ .step (.reader id) → ∀ w', p.1.apply p.2 = some w' → p.1.Spares w' id

theorem isClosed_eq (hc : w.connections[id]? = some c) : w.isClosed id = w.isCancelled c := by
  simp [isClosed, hc]

/-- A quiet act moves a connection without shutting it down. -/
theorem after_of_isQuiet (hq : a.isQuiet) (hm : c.after (w.moveOf id c a) = some c') :
    c'.station.cancelled = c.station.cancelled ∧ c'.parent = c.parent := by
  unfold moveOf at hm
  split at hm
  · cases a with
    | offer i f =>
      simp only [moveAt, Connection.after] at hm
      split at hm
      · next ht =>
        cases hm
        rw [(Station.tryEnqueue_fed ht).1]
        exact ⟨rfl, rfl⟩
      · cases hm
        exact ⟨rfl, rfl⟩
    | joinLine i | offerInLine i f | peerWrite i text | peerTake i =>
      simp only [moveAt, Connection.after] at hm
      split at hm <;> cases hm
      exact ⟨rfl, rfl⟩
    | leaveLine i | dropPeer i | pass time now =>
      cases hm
      exact ⟨rfl, rfl⟩
    | step t | establish config parent link | close i | order parent | instruct line | change d =>
      cases hq
  · cases hm
    exact ⟨rfl, rfl⟩

/-- A quiet act changes neither the printer nor the orders to shut down. -/
theorem apply_of_isQuiet (hq : a.isQuiet) (ha : w.apply a = some w') :
    w'.device = w.device ∧ w'.ordered = w.ordered := by
  cases a with
  | offer i f =>
    simp only [apply, enqueue] at ha
    cases hi : w.connections[i]? with
    | none =>
      simp only [hi, Option.some.injEq] at ha
      subst ha
      exact ⟨rfl, rfl⟩
    | some c =>
      simp only [hi] at ha
      cases ht : c.station.tryEnqueue f <;> simp only [ht, Except.map, Option.some.injEq] at ha <;>
        subst ha <;> exact ⟨rfl, rfl⟩
  | joinLine i | offerInLine i f | leaveLine i | peerTake i =>
    obtain ⟨c, -, ha⟩ := Option.bind_eq_some_iff.mp ha
    obtain ⟨c', -, rfl⟩ := Option.map_eq_some_iff.mp ha
    exact ⟨rfl, rfl⟩
  | peerWrite i text =>
    simp only [apply, peerWrite] at ha
    cases hi : w.connections[i]? with
    | none => simp [hi] at ha
    | some c =>
      cases hl : c.link.peerWrite text <;> simp only [hi, hl, reduceCtorEq, Option.some.injEq] at ha
      subst ha
      exact ⟨rfl, rfl⟩
  | dropPeer i =>
    cases ha
    unfold dropPeer
    split <;> exact ⟨rfl, rfl⟩
  | pass time now =>
    cases ha
    exact ⟨rfl, rfl⟩
  | step t | establish config parent link | close i | order parent | instruct line | change d =>
    cases hq

theorem spares_of_isQuiet (hq : a.isQuiet) (ha : w.apply a = some w')
    (hc : w.connections[id]? = some c) : w.Spares w' id := by
  obtain ⟨c', hm, hc'⟩ := apply_connection ha hc
  obtain ⟨hd, ho⟩ := apply_of_isQuiet hq ha
  obtain ⟨hcancelled, hparent⟩ := after_of_isQuiet hq hm
  refine ⟨by rw [hd], ?_, fun _ => hd ▸ .refl _⟩
  rw [isClosed_eq hc', isClosed_eq hc, isCancelled, isCancelled, hcancelled, hparent, ho]

/-- What the peer does, the frames of the application and the time that passes disturb no reader. -/
theorem undisturbed_chronicle {acts : List Act}
    (h : ∀ a ∈ acts, a = .step (.reader id) ∨ a.isQuiet) (hc : w.connections[id]? = some c) :
    (w.chronicle acts).Undisturbed id := by
  induction acts generalizing w c with
  | nil =>
    intro p hp
    cases hp
  | cons a rest ih =>
    cases ha : w.apply a with
    | none =>
      simp only [chronicle, ha]
      intro p hp
      cases hp
    | some w' =>
      simp only [chronicle, ha]
      obtain ⟨c', -, hc'⟩ := apply_connection ha hc
      intro p hp hn v hv
      -- the first act finds the connection as it is, the others as it has become
      rcases List.mem_cons.mp hp with rfl | hp
      · exact spares_of_isQuiet ((h a List.mem_cons_self).resolve_left hn) hv hc
      · exact ih (fun b hb => h b (List.mem_cons_of_mem _ hb)) hc' p hp hn v hv

end World

end VirtualPrinter.Service
