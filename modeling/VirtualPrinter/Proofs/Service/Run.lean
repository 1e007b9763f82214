import VirtualPrinter.Proofs.Outcome
import VirtualPrinter.Proofs.Service.Instruction
import VirtualPrinter.Proofs.Service.Move
import VirtualPrinter.Service.World

/-!
# Runs of a world

Tasks, the application and the peers act on a world one at a time, in any order.  A run is such an
order, with the world that each act was done to.  What it does to one connection is a run of moves of
that connection: an act done to another connection is an idle move of this one.

## Main definitions

* `Service.Act`, and `World.apply`: the world after an act, if it can be done.
* `World.Run`, `Connection.Run`: runs of a world and of a connection.
* `World.moveOf`: what an act is to a connection.
* `World.play`, `World.chronicle`: a run that a list of acts leads through.
* `World.standard`: a world to look at.

## Main results

* `World.apply_connection`: an act makes its move of every connection.
* `World.run_of_play`: a list of acts that can be done leads through a run.
* `World.Run.moves`: a run makes a run of every connection.
-/

namespace VirtualPrinter.Service

open Link (Memory)
open Outcome (bind_eq_ok_iff)
open Time (Span)
open Wire (Frame)

/-- Something that is done to a world. -/
inductive Act where
  /-- A task takes a step. -/
  | step (t : Task)
  | establish (config : Config) (parent : Option Nat) (link : Memory)
  | close (id : Nat)
  | order (parent : Nat)
  | offer (id : Nat) (f : Frame)
  | joinLine (id : Nat)
  | offerInLine (id : Nat) (f : Frame)
  | leaveLine (id : Nat)
  | instruct (line : List Char)
  /-- The application changes the printer. -/
  | change (d : Device)
  | peerWrite (id : Nat) (text : String)
  | peerTake (id : Nat)
  | dropPeer (id : Nat)
  /-- The clocks are set. -/
  | pass (time : Time.Timestamp) (now : Span)

namespace World

/-- The world after a connection has made a move. -/
def moved (w : World) (id : Nat) (m : Move) : Option World :=
  w.connections[id]?.bind fun c => (c.after m).map (w.update id)

/-- The world after an act, if it can be done. -/
def apply (w : World) : Act → Option World
  | .step t => w.next t
  | .establish config parent link => (w.establish config parent link).toOption
  | .close id => some (w.close id)
  | .order parent => some (w.order parent)
  | .offer id f =>
    match w.enqueue id f with
    | .ok (_, w) => some w
    | .error _ => some w
  | .joinLine id => w.moved id .joinLine
  | .offerInLine id f => w.moved id (.offerInLine f)
  | .leaveLine id => w.moved id .leaveLine
  | .instruct line => some (w.instruct line).1
  | .change d => some { w with device := d }
  | .peerWrite id text =>
    match w.peerWrite id text with
    | .done w => some w
    | .waiting | .failed _ => none
  | .peerTake id => w.moved id .deliver
  | .dropPeer id => some (w.dropPeer id)
  | .pass time now => some { w with time := time, now := now }

/-! ### What an act is to a connection -/

/-- The connection that an act is done to, if it is done to one. -/
def site (w : World) : Act → Option Nat
  | .step (.consumer id) | .step (.writer id) | .step (.reader id) | .step (.watch id)
  | .step (.supervisor id) => some id
  | .step (.stream generation) => (w.device.streamer.stream? generation).map (·.connection)
  | .close id | .offer id _ | .joinLine id | .offerInLine id _ | .leaveLine id | .peerWrite id _
  | .peerTake id | .dropPeer id => some id
  | .establish _ _ _ | .order _ | .instruct _ | .change _ | .pass _ _ => none

/-- The move that an act makes of the connection it is done to. -/
def moveAt (w : World) (c : Connection) : Act → Move
  | .step (.consumer _) => .consume w.here (w.isCancelled c) w.device
  | .step (.writer _) => .write (w.isCancelled c)
  | .step (.reader _) => .read w.here (w.isCancelled c) w.device
  | .step (.watch _) => .watch w.now (w.isCancelled c)
  | .step (.supervisor _) => .supervise
  | .step (.stream generation) =>
    match w.device.streamer.stream? generation with
    | none => .idle
    | some s =>
      if s.stopped || w.isCancelled c || w.now < s.due.nextMilli then .idle
      else .offer (sample w.device)
  | .close _ => .cancel
  | .offer _ f => .offer f
  | .joinLine _ => .joinLine
  | .offerInLine _ f => .offerInLine f
  | .leaveLine _ => .leaveLine
  | .peerWrite _ text => .hear text
  | .peerTake _ => .deliver
  | .dropPeer _ => .hangUp
  | .establish _ _ _ | .order _ | .instruct _ | .change _ | .pass _ _ => .idle

/-- The move that an act makes of a connection. -/
def moveOf (w : World) (id : Nat) (c : Connection) (a : Act) : Move :=
  if w.site a = some id then w.moveAt c a else .idle

end World

/-! ### Runs -/

/-- What has happened to a connection: the moves, and the connection that each of them found. -/
abbrev Connection.History := List (Connection × Move)

/-- What has happened to a world: the acts, and the world that each of them found. -/
abbrev World.History := List (World × Act)

/-- The connection has come from another one by the moves of a history. -/
inductive Connection.Run (c₀ : Connection) : Connection.History → Connection → Prop
  | start : Run c₀ [] c₀
  | move {h c c' m} : Run c₀ h c → c.after m = some c' → Run c₀ (h ++ [(c, m)]) c'

/-- The world has come from another one by the acts of a history. -/
inductive World.Run (w₀ : World) : World.History → World → Prop
  | start : Run w₀ [] w₀
  | act {h w w' a} : Run w₀ h w → w.apply a = some w' → Run w₀ (h ++ [(w, a)]) w'

/-- The world after a list of acts, if they can be done one after the other. -/
def World.play (w : World) (acts : List Act) : Option World :=
  acts.foldlM World.apply w

/-- The history of a list of acts, as far as they can be done. -/
def World.chronicle (w : World) : List Act → World.History
  | [] => []
  | a :: rest =>
    match w.apply a with
    | none => []
    | some w' => (w, a) :: w'.chronicle rest

/-- A world with a new printer of the standard size. -/
def World.standard : World := .new ⟨1704164645, 0⟩ .standard

/-- A link in memory that a client has just taken. -/
def freshLink : Memory := { Memory.new with taken := true }

/-- The moves of a connection in a history. -/
def World.History.moves (h : World.History) (id : Nat) : Connection.History :=
  h.filterMap fun (w, a) => w.connections[id]?.map fun c => (c, w.moveOf id c a)

namespace Connection.History

/-- The frames that have entered the send queue, as their producers are told. -/
def accepted (h : History) : List Frame := h.filterMap fun (c, m) => c.accepted m

/-- The texts that the writer has got to the link. -/
def written (h : History) : List String := h.filterMap fun (c, m) => c.written m

/-- The link has failed under the writer. -/
def breaks (h : History) : Bool := h.any fun (c, m) => c.breaks m

/-- The texts that the peer has taken. -/
def received (h : History) : List String := h.filterMap fun (c, m) => c.received m

/-- The texts that the peer has sent. -/
def heardTexts (h : History) : List String := h.filterMap fun (c, m) => c.heardText m

variable (h k : History) (c : Connection) (m : Move)

@[simp] theorem accepted_append : accepted (h ++ k) = h.accepted ++ k.accepted :=
  List.filterMap_append

@[simp] theorem written_append : written (h ++ k) = h.written ++ k.written :=
  List.filterMap_append

@[simp] theorem breaks_append : breaks (h ++ k) = (h.breaks || k.breaks) :=
  List.any_append

@[simp] theorem received_append : received (h ++ k) = h.received ++ k.received :=
  List.filterMap_append

@[simp] theorem heardTexts_append : heardTexts (h ++ k) = h.heardTexts ++ k.heardTexts :=
  List.filterMap_append

@[simp] theorem accepted_singleton : accepted [(c, m)] = (c.accepted m).toList := by
  simp [accepted, List.filterMap_cons]
  cases c.accepted m <;> rfl

@[simp] theorem written_singleton : written [(c, m)] = (c.written m).toList := by
  simp [written, List.filterMap_cons]
  cases c.written m <;> rfl

@[simp] theorem breaks_singleton : breaks [(c, m)] = c.breaks m := by
  simp [breaks]

@[simp] theorem received_singleton : received [(c, m)] = (c.received m).toList := by
  simp [received, List.filterMap_cons]
  cases c.received m <;> rfl

@[simp] theorem heardTexts_singleton : heardTexts [(c, m)] = (c.heardText m).toList := by
  simp [heardTexts, List.filterMap_cons]
  cases c.heardText m <;> rfl

end Connection.History

/-! ### Acts one after the other -/

namespace World

variable {w w₁ w₂ : World} {h k : World.History}

theorem Run.trans (hr : w.Run h w₁) (hk : w₁.Run k w₂) : w.Run (h ++ k) w₂ := by
  -- induction on the second run, which grows at its end
  induction hk with
  | start => rwa [List.append_nil]
  | act _ ha ih =>
    rw [← List.append_assoc]
    exact ih.act ha

/-- A list of acts leads through a run. -/
theorem run_of_play {acts : List Act} (hp : w.play acts = some w₁) :
    w.Run (w.chronicle acts) w₁ := by
  -- induction on the acts that are still to be done
  induction acts generalizing w with
  | nil =>
    cases hp
    exact .start
  | cons a rest ih =>
    rw [play, List.foldlM_cons] at hp
    obtain ⟨w', ha, hp⟩ := Option.bind_eq_some_iff.mp hp
    simp only [chronicle, ha]
    exact Run.trans (.act .start ha) (ih hp)

end World

/-! ### What a run is to a connection -/

namespace World

variable {w w' : World} {id : Nat} {c c' : Connection} {a : Act}

@[simp] theorem connections_update :
    (w.update id c).connections = w.connections.set id c := rfl

theorem set_connection_self (h : w.connections[id]? = some c) :
    w.connections.set id c = w.connections := by
  obtain ⟨hi, rfl⟩ := List.getElem?_eq_some_iff.mp h
  exact List.set_getElem_self hi

/-- What an act can do to the connections: it makes its move of the one it is done to, or there is no
such connection, or it may make a new one. -/
inductive Acts (w w' : World) (a : Act) : Prop
  | elsewhere (hs : w.site a = none) (hc : w.connections <+: w'.connections)
  | nowhere {i} (hs : w.site a = some i) (hi : w.connections[i]? = none)
      (hc : w'.connections = w.connections)
  | there {i c c'} (hs : w.site a = some i) (hi : w.connections[i]? = some c)
      (hm : c.after (w.moveAt c a) = some c') (hc : w'.connections = w.connections.set i c')

theorem moved_acts {i : Nat} {m : Move} (hs : w.site a = some i) (hm : ∀ c, w.moveAt c a = m)
    (h : w.moved i m = some w') : Acts w w' a := by
  obtain ⟨c, hi, h⟩ := Option.bind_eq_some_iff.mp h
  obtain ⟨c', hc', rfl⟩ := Option.map_eq_some_iff.mp h
  exact .there hs hi (by rw [hm, hc']) rfl

theorem stepStream_acts {generation : Nat} (h : w.stepStream generation = some w') :
    Acts w w' (.step (.stream generation)) := by
  unfold stepStream at h
  cases hs : w.device.streamer.stream? generation with
  | none => simp [hs] at h
  | some s =>
    have hsite : w.site (.step (.stream generation)) = some s.connection := by simp [site, hs]
    simp only [hs] at h
    cases hc : w.connections[s.connection]? with
    | none =>
      simp only [hc, Option.some.injEq] at h
      subst h
      exact .nowhere hsite hc rfl
    | some c =>
      simp only [hc] at h
      split at h
      · next hend =>
        -- the stream ends without a report
        cases h
        refine .there hsite hc ?_ (set_connection_self hc).symm
        simp only [moveAt, hs, hend, Bool.true_or, if_true]
        rfl
      · next hgo =>
        split at h
        · cases h
        · next hdue =>
          cases h
          have hm : w.moveAt c (.step (.stream generation)) = .offer (sample w.device) := by
            simp [moveAt, hs, hdue, Bool.not_eq_true _ ▸ hgo]
          unfold report
          -- the report enters or is dropped, or the stream ends with the send queue
          cases ht : c.station.tryEnqueue (sample w.device) with
          | ok r => exact .there hsite hc (by simp [hm, Connection.after, ht]) rfl
          | error e =>
            refine .there hsite hc ?_ (set_connection_self hc).symm
            simp [hm, Connection.after, ht]

theorem next_acts {t : Task} (h : w.next t = some w') : Acts w w' (.step t) := by
  cases t with
  | stream generation => exact stepStream_acts h
  | consumer id =>
    obtain ⟨c, hi, h⟩ := Option.bind_eq_some_iff.mp h
    obtain ⟨⟨station, d⟩, hc, rfl⟩ := Option.map_eq_some_iff.mp h
    exact .there rfl hi (by simp [moveAt, Connection.after, hc]) rfl
  | writer id =>
    obtain ⟨c, hi, h⟩ := Option.bind_eq_some_iff.mp h
    obtain ⟨c', hc, rfl⟩ := Option.map_eq_some_iff.mp h
    exact .there rfl hi hc rfl
  | reader id =>
    obtain ⟨c, hi, h⟩ := Option.bind_eq_some_iff.mp h
    obtain ⟨⟨c', d⟩, hc, rfl⟩ := Option.map_eq_some_iff.mp h
    exact .there rfl hi (by simp [moveAt, Connection.after, hc]) rfl
  | watch id =>
    obtain ⟨c, hi, h⟩ := Option.bind_eq_some_iff.mp h
    obtain ⟨c', hc, rfl⟩ := Option.map_eq_some_iff.mp h
    exact .there rfl hi hc rfl
  | supervisor id =>
    obtain ⟨c, hi, h⟩ := Option.bind_eq_some_iff.mp h
    unfold stepSupervisor at h
    split at h
    · cases h
      exact .there rfl hi rfl rfl
    · cases h

theorem Establishment.toOption_eq_some_iff {x : Establishment} : x.toOption = some w ↔ x = .ok w := by
  cases x <;> simp [toOption]

/-- A connection that has been made has its opening frame on the link, and the printer is bound to
it. -/
theorem establish_eq_ok {config : Config} {parent : Option Nat} {link : Memory}
    (h : w.establish config parent link = .ok w') :
    ∃ link' device, link.write (String.ofList Frame.opening.encode) = .done link' ∧
      w.device.attach w.connections.length = .ok device ∧
      w' = { w with
        device := device
        connections := w.connections ++
          [Connection.start config parent ⟨.running, none, 0, 1⟩ link'] } := by
  unfold establish at h
  split at h
  · cases h
  · cases h
  · next link' hl =>
    split at h
    · cases h
    · cases h
    · next session device hs hd =>
      cases hs
      cases h
      exact ⟨link', device, hl, hd, rfl⟩

theorem apply_acts (h : w.apply a = some w') : Acts w w' a := by
  cases a with
  | step t => exact next_acts h
  | establish config parent link =>
    obtain ⟨link', device, -, -, rfl⟩ := establish_eq_ok (Establishment.toOption_eq_some_iff.mp h)
    exact .elsewhere rfl (List.prefix_append _ _)
  | close id =>
    cases h
    unfold close
    cases hi : w.connections[id]? with
    | none => exact .nowhere rfl hi rfl
    | some c => exact .there rfl hi rfl rfl
  | order parent => cases h; exact .elsewhere rfl (List.prefix_refl _)
  | offer id f =>
    simp only [apply, enqueue] at h
    cases hi : w.connections[id]? with
    | none =>
      simp only [hi, Option.some.injEq] at h
      subst h
      exact .nowhere rfl hi rfl
    | some c =>
      cases ht : c.station.tryEnqueue f with
      | ok r =>
        simp only [hi, ht, Except.map, Option.some.injEq] at h
        subst h
        exact .there rfl hi (by simp [moveAt, Connection.after, ht]) rfl
      | error e =>
        simp only [hi, ht, Except.map, Option.some.injEq] at h
        subst h
        exact .there rfl hi (by simp [moveAt, Connection.after, ht])
          (set_connection_self hi).symm
  | joinLine id => exact moved_acts rfl (fun _ => rfl) h
  | offerInLine id f => exact moved_acts rfl (fun _ => rfl) h
  | leaveLine id => exact moved_acts rfl (fun _ => rfl) h
  | instruct line => cases h; exact .elsewhere rfl (List.prefix_refl _)
  | change d => cases h; exact .elsewhere rfl (List.prefix_refl _)
  | peerWrite id text =>
    simp only [apply, peerWrite] at h
    cases hi : w.connections[id]? with
    | none => simp [hi] at h
    | some c =>
      cases hl : c.link.peerWrite text with
      | done link =>
        simp only [hi, hl, Option.some.injEq] at h
        subst h
        exact .there rfl hi (by simp [moveAt, Connection.after, hl]) rfl
      | waiting => simp [hi, hl] at h
      | failed e => simp [hi, hl] at h
  | peerTake id => exact moved_acts rfl (fun _ => rfl) h
  | dropPeer id =>
    cases h
    unfold dropPeer
    cases hi : w.connections[id]? with
    | none => exact .nowhere rfl hi rfl
    | some c => exact .there rfl hi rfl rfl
  | pass time now => cases h; exact .elsewhere rfl (List.prefix_refl _)

/-- An act makes its move of every connection. -/
theorem apply_connection (h : w.apply a = some w') (hc : w.connections[id]? = some c) :
    ∃ c', c.after (w.moveOf id c a) = some c' ∧ w'.connections[id]? = some c' := by
  cases apply_acts h with
  | elsewhere hs hw =>
    obtain ⟨extra, hw⟩ := hw
    obtain ⟨hi, -⟩ := List.getElem?_eq_some_iff.mp hc
    exact ⟨c, by simp [moveOf, hs, Connection.after], by rw [← hw, List.getElem?_append_left hi, hc]⟩
  | @nowhere i hs hi hw =>
    -- the act is done to a connection that has never been, so not to this one
    have hne : i ≠ id := fun he => by simp [he, hc] at hi
    exact ⟨c, by simp [moveOf, hs, hne, Connection.after], by rw [hw, hc]⟩
  | @there i d d' hs hi hm hw =>
    by_cases hne : i = id
    · subst hne
      obtain rfl : d = c := Option.some.inj (hi.symm.trans hc)
      refine ⟨d', by simp [moveOf, hs, hm], ?_⟩
      obtain ⟨hlt, -⟩ := List.getElem?_eq_some_iff.mp hi
      simp [hw, hlt]
    · refine ⟨c, by simp [moveOf, hs, hne, Connection.after], ?_⟩
      -- another connection has moved
      rw [hw, List.getElem?_set_ne hne, hc]

theorem History.moves_snoc (h : World.History) (hc : w.connections[id]? = some c) :
    World.History.moves (h ++ [(w, a)]) id = h.moves id ++ [(c, w.moveOf id c a)] := by
  simp [History.moves, hc]

/-- A run makes a run of every connection. -/
theorem Run.moves {h : World.History} (hr : w.Run h w') (hc : w.connections[id]? = some c) :
    ∃ c', w'.connections[id]? = some c' ∧ c.Run (h.moves id) c' := by
  induction hr with
  | start => exact ⟨c, hc, .start⟩
  | act hr ha ih =>
    obtain ⟨c₁, hc₁, hr₁⟩ := ih
    obtain ⟨c₂, hm, hc₂⟩ := apply_connection ha hc₁
    refine ⟨c₂, hc₂, ?_⟩
    rw [History.moves_snoc _ hc₁]
    exact hr₁.move hm

end World

end VirtualPrinter.Service
