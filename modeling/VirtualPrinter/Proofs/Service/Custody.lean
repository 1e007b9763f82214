import VirtualPrinter.Proofs.Service.Consumer
import VirtualPrinter.Proofs.Service.Streaming

/-!
# Whose printer it is

A printer is bound to one connection at most, and its reports belong to that connection.  Three
hands can set it free: the application that closes the connection, the application that lets go of
it, and the supervisor of the connection.  They may all come for the same connection, and any of
them may come when another connection is bound already.  Calls to connect go on beside all that, a
step at a time.

The invariant that carries this is that a connection which has not been told to shut down is the one
that is bound, and that the signal of the streamer is for a stream on the bound connection.

## Main definitions

* `Device.Tends`, `World.Turns`: what an instruction and an act can do to the binding and the
  streamer.
* `World.Kept`: the invariant.
* `Service.Exchange`: a printer in its world, and the calls to connect it.
* `Exchange.apply`, `Exchange.Run`: what can happen, in any order.

## Main results

* `World.turns_of_apply`, `World.stepCall_cases`: what an act and a step of a call can do.
* `Kept.turns`, `Kept.establish`: what keeps the invariant.
* `Exchange.custody`: whose printer it is, in every run.
-/

namespace VirtualPrinter.Service

open Link (Memory Progress)
open Machine (State)
open Outcome (map_eq_ok_iff)
open Time (Span)
open Wire (Frame)

/-! ### What becomes of the streamer -/

/-- What an instruction can do to the streamer of a printer. -/
inductive Device.Tends (d d' : Device) : Prop
  | keeps (hs : d'.streamer = d.streamer)
  | stops (hs : d'.streamer = d.streamer.stop)
  /-- Reports are asked for, on the connection that is bound. -/
  | asks {connection runsTasks now interval started} (hc : d.binding = some connection)
    (hs : d.streamer.request runsTasks now interval connection = .ok (started, d'.streamer))

namespace Device

variable {d d' : Device} {here : Surroundings}

theorem tends_startTelemetry {interval : Span} (h : d.startTelemetry here interval = .ok d') :
    d'.binding = d.binding ∧ d.Tends d' := by
  unfold startTelemetry at h
  split at h
  · cases h
  · next connection hc =>
    obtain ⟨⟨started, streamer⟩, hs, rfl⟩ := map_eq_ok_iff.mp h
    exact ⟨rfl, .asks hc hs⟩

theorem tends_perform (d : Device) (here : Surroundings) (c : Gcode.Command) :
    d.Tends (d.perform here c).1 := by
  unfold perform
  split
  · split
    · exact .stops rfl
    · split
      · next h => exact (tends_startTelemetry h).2
      · exact .keeps rfl
  · split <;> exact .keeps rfl

theorem tends_execute (d : Device) (here : Surroundings) (line : List Char) :
    d.Tends (d.execute here line).1 := by
  unfold execute
  dsimp only
  split
  · exact .keeps rfl
  · split
    · exact tends_perform d here _
    · exact .keeps rfl

theorem release_of_bound {id : Nat} (h : d.binding = some id) :
    d.release id = { d with binding := none, streamer := d.streamer.stop } := by
  rw [release, if_pos h, detach, if_pos h]
  rfl

theorem release_of_ne {id : Nat} (h : d.binding ≠ some id) : d.release id = d := by
  rw [release, if_neg h]

end Device

namespace Connection

variable {c c' : Connection} {here : Surroundings} {cancelled : Bool} {d d' : Device} {s : Station}

/-- The consumer changes the printer by the lines that it executes. -/
theorem ConsumerStep.device {r : Option Wire.CommandRequest} {x : Option (List Char)}
    {f : Option Frame} (h : c.ConsumerStep here cancelled d s d' r x f) :
    d' = d ∨ ∃ line, d' = (d.execute here line).1 := by
  cases h with
  | execute => exact .inr ⟨_, rfl⟩
  | stop | start | finish | fail | enter | join => exact .inl rfl

/-- The reader changes the printer by the lines that it executes. -/
theorem ReaderStep.device {f : Option Frame} {x : Option Surroundings}
    (h : c.ReaderStep here cancelled d c' d' f x) :
    d' = d ∨ ∃ line, d' = (d.execute here line).1 := by
  cases h with
  | execute => exact .inr ⟨_, rfl⟩
  | stop | hear | finish | fail | enter | join => exact .inl rfl

end Connection

/-- Something that is done to a world as it goes on by itself: connections are made by calls, and the
printer is changed by those that hold it. -/
def Act.isOrdinary : Act → Bool
  | .establish _ _ _ | .change _ => false
  | _ => true

namespace World

variable {w w' : World} {id : Nat} {c : Connection} {a : Act}

/-- What an act can do to the binding and the streamer of the printer. -/
inductive Turns (w w' : World) : Prop
  | tended (hb : w'.device.binding = w.device.binding) (hd : w.device.Tends w'.device)
  /-- A connection that shuts down sets the printer free. -/
  | released {i : Nat} (hc : w'.isClosed i) (hd : w'.device = w.device.release i)
  | reported {generation x now} (hb : w'.device.binding = w.device.binding)
    (hx : w.device.streamer.stream? generation = some x)
    (hs : w'.device.streamer = w.device.streamer.update (x.afterTick now))
  | ended {generation} (hb : w'.device.binding = w.device.binding)
    (hs : w'.device.streamer = w.device.streamer.finish generation)

theorem turns_of_device (h : w'.device = w.device) : Turns w w' :=
  .tended (by rw [h]) (.keeps (by rw [h]))

theorem turns_execute {here : Surroundings} {line : List Char}
    (h : w'.device = (w.device.execute here line).1) : Turns w w' :=
  .tended (by rw [h, Device.execute_binding]) (h ▸ Device.tends_execute _ _ _)

theorem isClosed_update (hi : id < w.connections.length) (h : w.isCancelled c) (d : Device) :
    isClosed { w.update id c with device := d } id := by
  simp only [isClosed, connections_update, List.getElem?_set_self hi, Option.all_some]
  exact h

theorem turns_of_next {t : Task} (h : w.next t = some w') : Turns w w' := by
  cases t with
  | stream generation =>
    simp only [next, stepStream] at h
    split at h
    · cases h
    · next x hx =>
      split at h
      · cases h
        exact .ended rfl rfl
      · split at h
        · cases h
          exact .ended rfl rfl
        · split at h <;> cases h
          unfold report
          split
          · exact .reported rfl hx rfl
          · exact .ended rfl rfl
  | supervisor i =>
    obtain ⟨c, hi, h⟩ := Option.bind_eq_some_iff.mp h
    obtain ⟨hlt, -⟩ := List.getElem?_eq_some_iff.mp hi
    unfold stepSupervisor at h
    split at h <;> cases h
    next hc =>
      have hcan : w.isCancelled c := (Bool.and_eq_true_iff.mp hc).2
      refine .released (isClosed_update hlt ?_ _) rfl
      exact hcan
  | consumer i =>
    obtain ⟨c, -, h⟩ := Option.bind_eq_some_iff.mp h
    obtain ⟨⟨station, d⟩, hc, rfl⟩ := Option.map_eq_some_iff.mp h
    rcases (Connection.stepConsumer_cases hc).device with rfl | ⟨line, rfl⟩
    · exact turns_of_device rfl
    · exact turns_execute rfl
  | reader i =>
    obtain ⟨c, -, h⟩ := Option.bind_eq_some_iff.mp h
    obtain ⟨⟨c', d⟩, hc, rfl⟩ := Option.map_eq_some_iff.mp h
    rcases (Connection.stepReader_cases hc).device with rfl | ⟨line, rfl⟩
    · exact turns_of_device rfl
    · exact turns_execute rfl
  | writer i | watch i =>
    obtain ⟨c, -, h⟩ := Option.bind_eq_some_iff.mp h
    obtain ⟨c', -, rfl⟩ := Option.map_eq_some_iff.mp h
    exact turns_of_device rfl

theorem close_of_some (hi : w.connections[id]? = some c) :
    w.close id = { w.update id c.cancel with device := w.device.release id } := by
  simp only [close, hi]

/-- **What an act can do to the binding and the streamer.** -/
theorem turns_of_apply (ho : a.isOrdinary) (ha : w.apply a = some w') : Turns w w' := by
  cases hq : a.isQuiet with
  | true => exact turns_of_device (apply_of_isQuiet hq ha).1
  | false =>
    cases a with
    | step t => exact turns_of_next ha
    | close i =>
      cases ha
      cases hi : w.connections[i]? with
      | none => exact turns_of_device (by simp only [close, hi])
      | some c =>
        obtain ⟨hlt, -⟩ := List.getElem?_eq_some_iff.mp hi
        rw [close_of_some hi]
        refine .released (isClosed_update hlt ?_ _) rfl
        simp [isCancelled, Connection.cancel]
    | order parent =>
      cases ha
      exact turns_of_device rfl
    | instruct line =>
      cases ha
      exact turns_execute rfl
    | establish | change => cases ho
    | offer | joinLine | offerInLine | leaveLine | peerWrite | peerTake | dropPeer | pass => cases hq

/-- No act but the making of a connection makes one. -/
theorem length_of_apply (ho : a.isOrdinary) (ha : w.apply a = some w') :
    w'.connections.length = w.connections.length := by
  cases apply_acts ha with
  | nowhere _ _ hc => rw [hc]
  | there _ _ _ hc => rw [hc, List.length_set]
  | elsewhere hs hc =>
    cases a with
    | order | instruct | pass =>
      cases ha
      rfl
    | establish | change => cases ho
    | step t =>
      cases t with
      | stream generation =>
        simp only [apply, next, stepStream] at ha
        simp only [site, Option.map_eq_none_iff] at hs
        simp only [hs] at ha
        cases ha
      | _ => cases hs
    | _ => cases hs

/-- A connection that has not shut down has not shut down before. -/
theorem isClosed_of_apply (ho : a.isOrdinary) (ha : w.apply a = some w')
    (h : w'.isClosed id = false) : w.isClosed id = false := by
  cases hc : w.connections[id]? with
  | none =>
    have : w'.connections[id]? = none := by
      rw [List.getElem?_eq_none_iff] at hc ⊢
      rwa [length_of_apply ho ha]
    simp [isClosed, this] at h
  | some c =>
    obtain ⟨c', -, hc'⟩ := apply_connection ha hc
    rw [isClosed_eq hc'] at h
    rw [isClosed_eq hc]
    cases hcan : w.isCancelled c with
    | false => rfl
    | true =>
      rw [isCancelled_of_apply ha hc hc' hcan] at h
      cases h

/-! ### The invariant -/

/-- The printer is bound to the connection that has not shut down, if there is one, and reports on no
other. -/
structure Kept (w : World) : Prop where
  tidy : w.device.streamer.Tidy
  made : ∀ id, w.device.binding = some id → id < w.connections.length
  holder : ∀ id, w.isClosed id = false → w.device.binding = some id
  signal : ∀ s, w.device.streamer.signal = some s → w.device.binding = some s.connection

theorem Kept.new (time : Time.Timestamp) (state : State) : Kept (.new time (.ofState state)) where
  tidy := .new
  made := fun _ h => by cases h
  holder := fun _ h => by cases h
  signal := fun _ h => by cases h

/-- A printer that is bound to none does not report. -/
theorem Kept.isRunning_of_free (h : w.Kept) (hfree : w.device.binding = none) :
    w.device.streamer.isRunning = false := by
  cases hs : w.device.streamer.signal with
  | none => simp [Streamer.isRunning, hs]
  | some s =>
    have := h.signal s hs
    rw [hfree] at this
    cases this

/-- A streamer that is stopped has no signal any more, and one that is asked for reports has the one
it had or one for the connection that is bound. -/
theorem Kept.tended (h : w.Kept) {d : Device} (hb : d.binding = w.device.binding)
    (hd : w.device.Tends d) :
    d.streamer.Tidy ∧ ∀ s, d.streamer.signal = some s → d.binding = some s.connection := by
  rw [hb]
  cases hd with
  | keeps hs =>
    rw [hs]
    exact ⟨h.tidy, h.signal⟩
  | stops hs =>
    rw [hs]
    exact ⟨h.tidy.stop, fun s hsignal => by cases hsignal⟩
  | @asks connection runsTasks now interval _ hc hs =>
    refine ⟨h.tidy.request hs, fun s hsignal => ?_⟩
    rcases w.device.streamer.request_cases runsTasks now interval connection with
      ⟨-, he⟩ | ⟨hidle, -, he⟩ | ⟨-, -, he⟩ <;> rw [he] at hs
    · obtain ⟨-, hs⟩ := Prod.mk.inj (Except.ok.inj hs)
      rw [← hs] at hsignal
      exact h.signal s hsignal
    · obtain ⟨-, hs⟩ := Prod.mk.inj (Except.ok.inj hs)
      rw [← hs, Streamer.start, if_neg (by simp [hidle])] at hsignal
      cases hsignal
      exact hc
    · cases hs

/-- A turn of the printer keeps the invariant, unless a connection is made. -/
theorem Kept.turns (h : w.Kept) (ht : Turns w w')
    (hlength : w'.connections.length = w.connections.length)
    (hclosed : ∀ id, w'.isClosed id = false → w.isClosed id = false) : w'.Kept := by
  -- what keeps the binding keeps all that is said of it alone
  have hmade (hb : w'.device.binding = w.device.binding) :
      ∀ id, w'.device.binding = some id → id < w'.connections.length := by
    rw [hb, hlength]
    exact h.made
  have hholder (hb : w'.device.binding = w.device.binding) :
      ∀ id, w'.isClosed id = false → w'.device.binding = some id := by
    rw [hb]
    exact fun id hid => h.holder id (hclosed id hid)
  cases ht with
  | tended hb hd =>
    obtain ⟨htidy, hsignal⟩ := h.tended hb hd
    exact ⟨htidy, hmade hb, hholder hb, hsignal⟩
  | @released id hc hd =>
    by_cases hbound : w.device.binding = some id
    · rw [Device.release_of_bound hbound] at hd
      refine ⟨hd ▸ h.tidy.stop, ?_, fun i hi => ?_, ?_⟩
      · rw [hd]
        exact nofun
      · -- the connection that had not shut down was the one that has now
        have : some id = some i := hbound.symm.trans (h.holder i (hclosed i hi))
        rw [← Option.some.inj this, hc] at hi
        cases hi
      · rw [hd]
        exact fun s hsignal => by cases hsignal
    · rw [Device.release_of_ne hbound] at hd
      have hb : w'.device.binding = w.device.binding := by rw [hd]
      exact ⟨hd ▸ h.tidy, hmade hb, hholder hb, hd ▸ h.signal⟩
  | @reported generation x now hb hx hs =>
    refine ⟨hs ▸ h.tidy.update hx now, hmade hb, hholder hb, ?_⟩
    rw [hb, hs]
    exact h.signal
  | @ended generation hb hs =>
    refine ⟨hs ▸ h.tidy.finish generation, hmade hb, hholder hb, fun s hsignal => ?_⟩
    rw [hs, Streamer.finish] at hsignal
    split at hsignal
    · cases hsignal
    · rw [hb]
      exact h.signal s hsignal

/-! ### Connecting -/

/-- A connection is made for a printer that is bound to none, and changes the binding alone. -/
theorem establish_device {config : Config} {parent : Option Nat} {link : Memory}
    (h : w.establish config parent link = .ok w') :
    w.device.binding = none ∧
      w'.device = { w.device with binding := some w.connections.length } := by
  obtain ⟨link', device, -, hd, rfl⟩ := establish_eq_ok h
  unfold Device.attach at hd
  split at hd
  · cases hd
  · next hfree =>
    cases hd
    exact ⟨by simpa [Device.isConnected] using hfree, rfl⟩

/-- A connection can be made if the printer is bound to none and the link takes the opening frame. -/
theorem establish_of_free {link link' : Memory}
    (hl : link.write (String.ofList Frame.opening.encode) = .done link')
    (hfree : w.device.binding = none) (config : Config) (parent : Option Nat) :
    ∃ w', w.establish config parent link = .ok w' := by
  simp only [establish, hl, Device.attach, Device.isConnected, hfree]
  exact ⟨_, rfl⟩

theorem isClosed_of_establish {config : Config} {parent : Option Nat} {link : Memory}
    (h : w.establish config parent link = .ok w') (hid : id ≠ w.connections.length) :
    w'.isClosed id = w.isClosed id := by
  obtain ⟨link', device, -, -, rfl⟩ := establish_eq_ok h
  have : ∀ c, (w.connections ++ [c])[id]? = w.connections[id]? := fun c => by
    rcases Nat.lt_or_gt_of_ne hid with hlt | hgt
    · exact List.getElem?_append_left hlt
    · rw [List.getElem?_eq_none (by simp; omega), List.getElem?_eq_none (by omega)]
  simp only [isClosed, this]
  rfl

theorem Kept.establish (h : w.Kept) {config : Config} {parent : Option Nat} {link : Memory}
    (he : w.establish config parent link = .ok w') : w'.Kept := by
  obtain ⟨hfree, hd⟩ := establish_device he
  have hlength : w'.connections.length = w.connections.length + 1 := by
    obtain ⟨link', device, -, -, rfl⟩ := establish_eq_ok he
    simp
  refine ⟨hd ▸ h.tidy, fun id hid => ?_, fun id hid => ?_, fun s hsignal => ?_⟩
  · rw [hd] at hid
    cases hid
    omega
  · by_cases hnew : id = w.connections.length
    · rw [hd, hnew]
    · -- all others have shut down, as the printer was bound to none
      rw [isClosed_of_establish he hnew] at hid
      have := h.holder id hid
      rw [hfree] at this
      cases this
  · rw [hd] at hsignal
    have := h.signal s hsignal
    rw [hfree] at this
    cases this

/-- A step of a call changes nothing, unless it is the one that connects. -/
theorem stepCall_cases {config : Config} {parent : Option Nat}
    {outcome : Except Link.Error Memory} {call call' : Call}
    (h : w.stepCall config parent outcome call = some (w', call')) :
    (∃ link, call = .trying (.made link) ∧ w.establish config parent link = .ok w' ∧
      call' = .connected w.connections.length) ∨
    (w' = w ∧ ∀ id, call' ≠ .connected id) := by
  cases call with
  | fresh =>
    simp only [stepCall] at h
    split at h <;> cases h <;> exact .inr ⟨rfl, nofun⟩
  | trying attempts =>
    cases attempts with
    | dialling | pausing =>
      simp only [stepCall] at h
      obtain ⟨next, -, h⟩ := Option.map_eq_some_iff.mp h
      cases h
      exact .inr ⟨rfl, nofun⟩
    | made link =>
      simp only [stepCall] at h
      split at h <;> cases h
      · next he => exact .inl ⟨link, rfl, he, rfl⟩
      · exact .inr ⟨rfl, nofun⟩
    | failed e =>
      cases h
      exact .inr ⟨rfl, nofun⟩
  | connected | refused => cases h

end World

/-! ### Exchanges -/

/-- A call to connect, with what its client is set up with. -/
structure Caller where
  config : Config
  parent : Option Nat
  call : Call

/-- A printer in its world, and the calls to connect it. -/
structure Exchange where
  world : World
  calls : List Caller

/-- Something that happens to a printer or to a call. -/
inductive Deed where
  | act (a : Act)
  /-- The application changes the state of the printer. -/
  | edit (state : State)
  | startTelemetry (interval : Span)
  | stopTelemetry
  /-- A client begins to call. -/
  | place (config : Config) (parent : Option Nat)
  /-- A call takes a step; `outcome` is what an attempt that is under way comes to. -/
  | advance (call : Nat) (outcome : Except Link.Error Memory)

namespace Exchange

/-- A new printer, which nobody has called. -/
def new (time : Time.Timestamp) (state : State) : Exchange := ⟨.new time (.ofState state), []⟩

/-- The exchange with another printer in its place. -/
def withDevice (x : Exchange) (d : Device) : Exchange :=
  { x with world := { x.world with device := d } }

/-- What becomes of an exchange, if the deed can be done. -/
def apply (x : Exchange) : Deed → Option Exchange
  | .act a =>
    if a.isOrdinary then (x.world.apply a).map fun world => { x with world := world } else none
  | .edit state => some (x.withDevice { x.world.device with state := state })
  | .startTelemetry interval =>
    match x.world.device.startTelemetry x.world.here interval with
    | .ok d => some (x.withDevice d)
    | .error _ => some x
  | .stopTelemetry => some (x.withDevice x.world.device.stopTelemetry)
  | .place config parent => some { x with calls := x.calls ++ [⟨config, parent, .fresh⟩] }
  | .advance n outcome =>
    x.calls[n]?.bind fun caller =>
      (x.world.stepCall caller.config caller.parent outcome caller.call).map fun (world, call) =>
        ⟨world, x.calls.set n { caller with call := call }⟩

/-- The exchange has come from another state by some deeds. -/
inductive Run (x₀ : Exchange) : List Deed → Exchange → Prop
  | start : Run x₀ [] x₀
  | deed {h x x' a} : Run x₀ h x → x.apply a = some x' → Run x₀ (h ++ [a]) x'

/-- The exchange after a list of deeds, if they can be done one after the other. -/
def play (x : Exchange) (deeds : List Deed) : Option Exchange := deeds.foldlM apply x

theorem Run.trans {x₀ x y : Exchange} {h k : List Deed} (hr : x₀.Run h x) (hk : x.Run k y) :
    x₀.Run (h ++ k) y := by
  -- induction on the second run, which grows at its end
  induction hk with
  | start => rwa [List.append_nil]
  | deed _ ha ih =>
    rw [← List.append_assoc]
    exact ih.deed ha

theorem run_of_play {x y : Exchange} {deeds : List Deed} (hp : x.play deeds = some y) :
    x.Run deeds y := by
  -- induction on the deeds that are still to be done
  induction deeds generalizing x with
  | nil =>
    cases hp
    exact .start
  | cons a rest ih =>
    rw [play, List.foldlM_cons] at hp
    obtain ⟨x', ha, hp⟩ := Option.bind_eq_some_iff.mp hp
    exact Run.trans (.deed .start ha) (ih hp)

/-- The connection that the printer is bound to. -/
def bound (x : Exchange) : Option Nat := x.world.device.binding

variable {x x' y : Exchange} {a : Deed} {h : List Deed} {id : Nat}

/-! ### What a deed keeps -/

/-- What a deed does to the world: a turn of the printer, a connection that is made, or nothing. -/
theorem turns_or_establish (ha : x.apply a = some x') :
    (x.world.Turns x'.world ∧ x'.world.connections.length = x.world.connections.length ∧
      ∀ id, x'.world.isClosed id = false → x.world.isClosed id = false) ∨
    ∃ config parent link, x.world.establish config parent link = .ok x'.world := by
  cases a with
  | act a =>
    simp only [apply] at ha
    split at ha
    · next ho =>
      obtain ⟨w, hw, rfl⟩ := Option.map_eq_some_iff.mp ha
      exact .inl ⟨World.turns_of_apply ho hw, World.length_of_apply ho hw,
        fun _ => World.isClosed_of_apply ho hw⟩
    · cases ha
  | edit state =>
    cases ha
    exact .inl ⟨.tended rfl (.keeps rfl), rfl, fun _ => id⟩
  | startTelemetry interval =>
    simp only [apply] at ha
    split at ha <;> cases ha
    · next hd =>
      obtain ⟨hb, ht⟩ := Device.tends_startTelemetry hd
      exact .inl ⟨.tended hb ht, rfl, fun _ => id⟩
    · exact .inl ⟨World.turns_of_device rfl, rfl, fun _ => id⟩
  | stopTelemetry =>
    cases ha
    exact .inl ⟨.tended rfl (.stops rfl), rfl, fun _ => id⟩
  | place config parent =>
    cases ha
    exact .inl ⟨World.turns_of_device rfl, rfl, fun _ => id⟩
  | advance n outcome =>
    obtain ⟨caller, -, ha⟩ := Option.bind_eq_some_iff.mp ha
    obtain ⟨⟨w, call⟩, hw, rfl⟩ := Option.map_eq_some_iff.mp ha
    rcases World.stepCall_cases hw with ⟨link, -, he, -⟩ | ⟨rfl, -⟩
    · exact .inr ⟨_, _, link, he⟩
    · exact .inl ⟨World.turns_of_device rfl, rfl, fun _ => id⟩

theorem kept_apply (hx : x.world.Kept) (ha : x.apply a = some x') : x'.world.Kept := by
  rcases turns_or_establish ha with ⟨ht, hlength, hclosed⟩ | ⟨_, _, _, he⟩
  · exact hx.turns ht hlength hclosed
  · exact hx.establish he

theorem Run.kept {x₀ : Exchange} (hr : x₀.Run h x) (h₀ : x₀.world.Kept) : x.world.Kept := by
  induction hr with
  | start => exact h₀
  | deed _ ha ih => exact kept_apply ih ha

/-- A connection has been let go of: it has been made, and the printer is not bound to it. -/
def Past (x : Exchange) (id : Nat) : Prop := id < x.world.connections.length ∧ x.bound ≠ some id

/-- A connection that has been let go of is never bound again. -/
theorem past_apply (hp : x.Past id) (ha : x.apply a = some x') : x'.Past id := by
  obtain ⟨hmade, hfree⟩ := hp
  unfold bound at hfree
  unfold Past bound
  rcases turns_or_establish ha with ⟨ht, hlength, -⟩ | ⟨config, parent, link, he⟩
  · refine ⟨hlength ▸ hmade, ?_⟩
    cases ht with
    | tended hb | reported hb | ended hb => rwa [hb]
    | @released i hc hd =>
      rw [hd]
      by_cases hi : x.world.device.binding = some i
      · rw [Device.release_of_bound hi]
        exact nofun
      · rwa [Device.release_of_ne hi]
  · obtain ⟨-, hd⟩ := World.establish_device he
    rw [hd]
    obtain ⟨link', device, -, -, hw⟩ := World.establish_eq_ok he
    rw [hw]
    refine ⟨by simp; omega, fun hb => ?_⟩
    -- the connection that is made is a new one
    have := Option.some.inj hb
    omega

theorem Run.past {later : List Deed} (hr : x.Run later y) (hp : x.Past id) : y.Past id := by
  induction hr with
  | start => exact hp
  | deed _ ha ih => exact past_apply ih ha

/-- Nobody who comes for a connection that has been let go of touches the printer. -/
theorem Past.device_close (hp : x.Past id) : (x.world.close id).device = x.world.device := by
  unfold World.close
  split
  · rfl
  · exact Device.release_of_ne hp.2

theorem Past.device_supervisor (hp : x.Past id) {w : World}
    (h : x.world.next (.supervisor id) = some w) : w.device = x.world.device := by
  obtain ⟨c, -, h⟩ := Option.bind_eq_some_iff.mp h
  unfold World.stepSupervisor at h
  split at h <;> cases h
  exact Device.release_of_ne hp.2

/-- A close sets the printer free, unless it is bound to another connection. -/
theorem device_close (hx : x.world.Kept) (hb : ∀ i, x.bound = some i → i = id) :
    (x.world.close id).device = { x.world.device with
      binding := none, streamer := x.world.device.streamer.stop } := by
  cases hbound : x.bound with
  | some i =>
    obtain rfl := hb i hbound
    have hi := List.getElem?_eq_getElem (hx.made i hbound)
    rw [World.close_of_some hi]
    exact Device.release_of_bound hbound
  | none =>
    have hfree : x.world.device.binding = none := hbound
    have hsame : (x.world.close id).device = x.world.device := by
      unfold World.close
      split
      · rfl
      · exact Device.release_of_ne (by simp [hfree])
    -- it does not report either, so that nothing is left to stop
    rw [hsame, hx.tidy.stop_of_idle (hx.isRunning_of_free hfree), ← hfree]

/-! ### Calls -/

/-- A step of a call connects a printer that is bound to none, or changes nothing but the call. -/
theorem advance_cases {n : Nat} {outcome : Except Link.Error Memory}
    (ha : x.apply (.advance n outcome) = some x') :
    (∃ caller, x'.calls[n]? = some caller ∧
      caller.call = .connected x.world.connections.length ∧ x.bound = none ∧
      x'.world.device =
        { x.world.device with binding := some x.world.connections.length }) ∨
    (x'.world = x.world ∧
      ∀ caller, x'.calls[n]? = some caller → ∀ id, caller.call ≠ .connected id) := by
  obtain ⟨caller, hn, ha⟩ := Option.bind_eq_some_iff.mp ha
  obtain ⟨⟨w, call⟩, hw, rfl⟩ := Option.map_eq_some_iff.mp ha
  obtain ⟨hlt, -⟩ := List.getElem?_eq_some_iff.mp hn
  have hset : (x.calls.set n { caller with call := call })[n]? = some { caller with call := call } :=
    List.getElem?_set_self hlt
  rcases World.stepCall_cases hw with ⟨link, -, he, rfl⟩ | ⟨rfl, hcall⟩
  · obtain ⟨hfree, hd⟩ := World.establish_device he
    exact .inl ⟨_, hset, rfl, hfree, hd⟩
  · refine .inr ⟨rfl, fun caller' hcaller => ?_⟩
    cases hset.symm.trans hcaller
    exact hcall

/-- The last call that was placed takes a step. -/
theorem advance_last {w w' : World} {calls : List Caller} {config : Config} {parent : Option Nat}
    {call call' : Call} {outcome : Except Link.Error Memory}
    (h : w.stepCall config parent outcome call = some (w', call')) :
    apply ⟨w, calls ++ [⟨config, parent, call⟩]⟩ (.advance calls.length outcome) =
      some ⟨w', calls ++ [⟨config, parent, call'⟩]⟩ := by
  simp [apply, h]

/-- The deeds by which a client connects at the first attempt. -/
def connecting (x : Exchange) (config : Config) (parent : Option Nat) (link : Memory) : List Deed :=
  let n := x.calls.length
  [.place config parent, .advance n (.ok link), .advance n (.ok link), .advance n (.ok link)]

/-- A printer that is bound to none can be connected at once. -/
theorem play_connecting {config : Config} {parent : Option Nat} {link link' : Memory}
    (hfree : x.bound = none) (hp : parent.any x.world.ordered.contains = false)
    (hl : link.write (String.ofList Frame.opening.encode) = .done link') :
    ∃ z, x.play (x.connecting config parent link) = some z ∧
      z.calls = x.calls ++ [⟨config, parent, .connected x.world.connections.length⟩] ∧
      z.bound = some x.world.connections.length := by
  obtain ⟨w, he⟩ := World.establish_of_free hl hfree config parent
  have hfresh : x.world.stepCall config parent (.ok link) .fresh =
      some (x.world, .trying (.dialling 0)) := by
    have : x.world.device.isConnected = false := by
      rw [Device.isConnected, show x.world.device.binding = none from hfree]
      rfl
    simp only [World.stepCall, this, hp, Progress.look, Bool.false_eq_true, if_false]
  have hdialling : x.world.stepCall config parent (.ok link) (.trying (.dialling 0)) =
      some (x.world, .trying (.made link)) := rfl
  have hmade : x.world.stepCall config parent (.ok link) (.trying (.made link)) =
      some (w, .connected x.world.connections.length) := by
    simp only [World.stepCall, he]
  refine ⟨⟨w, x.calls ++ [⟨config, parent, .connected x.world.connections.length⟩]⟩, ?_, rfl, ?_⟩
  · -- one deed after the other
    simp only [play, connecting, List.foldlM_cons, List.foldlM_nil]
    rw [show x.apply (.place config parent) =
      some { x with calls := x.calls ++ [⟨config, parent, .fresh⟩] } from rfl]
    simp only [Option.bind_eq_bind, Option.bind_some, advance_last hfresh, advance_last hdialling,
      advance_last hmade]
    rfl
  · exact congrArg Device.binding (World.establish_device he).2

/-! ### Custody -/

/-- **Whose printer it is**, whatever calls, closes, shutdowns and instructions have come in any order:
the printer is bound to the connection that has not shut down, if there is one; a call connects only
a printer that is bound to none, and changes nothing otherwise; whoever comes for a connection that
has been let go of, however late, touches neither the binding nor the reports; a close of the bound
connection leaves a printer that can be connected at once; and reports go to the bound connection
alone. -/
theorem custody {time : Time.Timestamp} {state : State} {deeds : List Deed}
    (hr : (new time state).Run deeds x) :
    ((∀ id, x.bound = some id → id < x.world.connections.length) ∧
      ∀ id, x.world.isClosed id = false → x.bound = some id) ∧
    (∀ n outcome x', x.apply (.advance n outcome) = some x' →
      (∃ caller, x'.calls[n]? = some caller ∧
        caller.call = .connected x.world.connections.length ∧ x.bound = none ∧
        x'.world.device = { x.world.device with binding := some x.world.connections.length }) ∨
      (x'.world = x.world ∧
        ∀ caller, x'.calls[n]? = some caller → ∀ id, caller.call ≠ .connected id)) ∧
    (∀ id later y, x.Past id → x.Run later y → y.bound ≠ some id ∧
      (y.world.close id).device = y.world.device ∧
      ∀ w, y.world.next (.supervisor id) = some w → w.device = y.world.device) ∧
    (∀ id, (∀ i, x.bound = some i → i = id) →
      ∃ y, x.apply (.act (.close id)) = some y ∧
        y.world.device = { x.world.device with
          binding := none, streamer := x.world.device.streamer.stop } ∧
        ∀ config parent link link', parent.any y.world.ordered.contains = false →
          link.write (String.ofList Frame.opening.encode) = .done link' →
          ∃ z, y.play (y.connecting config parent link) = some z ∧
            z.calls = y.calls ++ [⟨config, parent, .connected y.world.connections.length⟩] ∧
            z.bound = some y.world.connections.length) ∧
    (∀ s, x.world.device.streamer.signal = some s → x.bound = some s.connection) ∧
    (∀ stream ∈ x.world.device.streamer.streams, stream.stopped = false →
      x.world.device.streamer.signal = some ⟨stream.generation, stream.connection⟩) ∧
    (x.bound = none → x.world.device.streamer.isRunning = false) := by
  have hx : x.world.Kept := hr.kept (.new time state)
  refine ⟨⟨hx.made, hx.holder⟩, fun _ _ _ => advance_cases, fun id later y hp hlater => ?_,
    fun id hb => ?_, hx.signal, fun stream hs hgo => (hx.tidy.running stream hs hgo).1,
    hx.isRunning_of_free⟩
  · have hp' := hlater.past hp
    exact ⟨hp'.2, hp'.device_close, fun _ => hp'.device_supervisor⟩
  · have hd := device_close hx hb
    have hfree : (x.world.close id).device.binding = none := by rw [hd]
    exact ⟨{ x with world := x.world.close id }, rfl, hd, fun _ _ _ _ => play_connecting hfree⟩

/-- Reports go on while a shutdown from outside comes, are started again before the supervisor has
noticed it, and once more on the next connection. -/
def handover : List Deed :=
  [.place .standard (some 7), .advance 0 (.ok freshLink), .advance 0 (.ok freshLink),
    .advance 0 (.ok freshLink), .startTelemetry (.ofSeconds 5), .act (.order 7), .stopTelemetry,
    .startTelemetry (.ofSeconds 1), .act (.step (.supervisor 0)), .place .standard none,
    .advance 1 (.ok freshLink), .advance 1 (.ok freshLink), .advance 1 (.ok freshLink),
    .startTelemetry (.ofSeconds 2)]

/-- The first connection is closed late, while the second one reports. -/
theorem custody_handover :
    ∃ x, (new ⟨1704164645, 0⟩ Device.standard.state).Run handover x ∧
      x.Past 0 ∧ x.bound = some 1 ∧ x.world.device.streamer.isRunning ∧
      (x.world.close 0).device = x.world.device := by
  obtain ⟨x, hp, hpast, hbound, hrun⟩ : ∃ x,
      (new ⟨1704164645, 0⟩ Device.standard.state).play handover = some x ∧
        (0 < x.world.connections.length ∧ x.bound ≠ some 0) ∧ x.bound = some 1 ∧
        x.world.device.streamer.isRunning :=
    ⟨_, rfl, by decide, rfl, rfl⟩
  have hr := run_of_play hp
  exact ⟨x, hr, hpast, hbound, hrun, ((custody hr).2.2.1 0 [] x hpast .start).2.1⟩

end Exchange

end VirtualPrinter.Service
