import VirtualPrinter.Proofs.Service.Custody
import VirtualPrinter.Proofs.Service.Instruction
import VirtualPrinter.Proofs.Service.Streaming

/-!
# One lock after the other

The binding of a printer and its streamer are guarded by a lock each.  Whoever leaves a connection takes
the one lock to unbind it, and then the other to end the reports; whoever asks for reports takes the one
to look at the binding, and then the other to start a stream.  Where several threads work on a printer,
others may come in between.

A connection that is left is unbound before its reports are ended.  In between another connection may be
bound, and reports started on it: then it is these that are ended.  Nothing else is in their way, apart
from a stream on an old connection that has been started late.

## Main definitions

* `Service.Shared`: a printer that several threads work on, and those of them that are between two locks.
* `Shared.apply`, `Shared.Run`: what a thread does while it holds a lock, in any order.
* `Shared.Kept`: what the binding says about the streamer.

## Main results

* `Shared.release_sections`, `Shared.request_sections`: one lock right after the other.
* `Shared.Run.kept`: what holds in every order.
* `Shared.release_spares`: what a release can do to the reports on another connection.
* `Shared.release_strikes`: what it does.
-/

namespace VirtualPrinter.Service

open Time (Span)
open Machine (State)

/-! ### Streams and their signal -/

namespace Streamer

variable {s : Streamer} {signal : StopSignal}

/-- The stream that runs is the one that the signal is for. -/
def Faithful (s : Streamer) : Prop :=
  ∀ signal, s.signal = some signal → ∀ x ∈ s.streams, x.generation = signal.generation →
    x.stopped = false ∧ x.connection = signal.connection

theorem Faithful.of_signal_eq_none (h : s.signal = none) : s.Faithful := fun signal hs => by
  rw [h] at hs
  cases hs

theorem Faithful.request (h : s.Faithful) (ht : s.Tidy) {runsTasks started : Bool}
    {now interval : Span} {connection : Nat} {t : Streamer}
    (hr : s.request runsTasks now interval connection = .ok (started, t)) : t.Faithful := by
  rcases s.request_cases runsTasks now interval connection with
    ⟨-, hs⟩ | ⟨hidle, -, hs⟩ | ⟨-, -, hs⟩ <;> rw [hs] at hr <;> cases hr
  · exact h
  · rw [start, if_neg (by simp [hidle])]
    intro signal hsignal x hx hg
    cases hsignal
    rcases List.mem_append.mp hx with hx | hx
    -- the streams before it have other numbers
    · exact absurd hg (Nat.ne_of_lt (Nat.lt_succ_of_le (ht.started x hx)))
    · split at hx
      · cases hx
      · rw [List.mem_singleton.mp hx]
        exact ⟨rfl, rfl⟩

theorem Faithful.update (h : s.Faithful) {generation : Nat} {x : Stream}
    (hx : s.stream? generation = some x) (now : Span) : (s.update (x.afterTick now)).Faithful := by
  intro signal hsignal y hy hg
  obtain ⟨z, hz, rfl⟩ := List.mem_map.mp hy
  by_cases he : z.generation = (x.afterTick now).generation
  · rw [if_pos he] at hg ⊢
    simpa using h signal hsignal x (stream?_eq_some hx).1 (by simpa using hg)
  · rw [if_neg he] at hg ⊢
    exact h signal hsignal z hz hg

theorem Faithful.finish (h : s.Faithful) (generation : Nat) : (s.finish generation).Faithful := by
  unfold Streamer.finish
  split
  · exact .of_signal_eq_none rfl
  · exact fun signal hsignal x hx hg => h signal hsignal x (List.mem_filter.mp hx).1 hg

end Streamer

namespace Streaming

variable {s s' : Streaming} {a : Act} {h : List Act}

theorem faithful_apply (hs : s.streamer.Faithful) (ht : s.streamer.Tidy) (ha : s.apply a = some s') :
    s'.streamer.Faithful := by
  cases a with
  | start runsTasks now interval connection =>
    simp only [apply] at ha
    split at ha <;> cases ha
    · next hr => exact hs.request ht hr
    · exact hs
  | stop =>
    cases ha
    exact .of_signal_eq_none rfl
  | cancel connection | close connection =>
    cases ha
    exact hs
  | report generation now =>
    obtain ⟨x, hx, ha⟩ := Option.bind_eq_some_iff.mp ha
    split at ha <;> cases ha
    exact hs.update hx now
  | finish generation =>
    obtain ⟨x, -, ha⟩ := Option.bind_eq_some_iff.mp ha
    split at ha <;> cases ha
    exact hs.finish generation

/-- What an act can do to the number of the streams and the signal of the one that runs. -/
inductive Signals (s s' : Streaming) (a : Act) : Prop
  | keeps (hg : s'.streamer.generation = s.streamer.generation)
    (hs : ∀ signal, s'.streamer.signal = some signal → s.streamer.signal = some signal)
  /-- A stream is started, with a number of its own. -/
  | starts {runsTasks : Bool} {now interval : Span} {connection : Nat}
    (ha : a = .start runsTasks now interval connection)
    (hg : s'.streamer.generation = s.streamer.generation + 1)
    (hs : s'.streamer.signal = some ⟨s.streamer.generation + 1, connection⟩)

theorem signals_apply (ha : s.apply a = some s') : Signals s s' a := by
  cases a with
  | start runsTasks now interval connection =>
    simp only [apply] at ha
    rcases s.streamer.request_cases runsTasks now interval connection with
      ⟨-, hr⟩ | ⟨hidle, -, hr⟩ | ⟨-, -, hr⟩ <;> rw [hr] at ha <;> cases ha
    · exact .keeps rfl fun _ h => h
    · refine .starts rfl ?_ ?_ <;> rw [Streamer.start, if_neg (by simp [hidle])]
    · exact .keeps rfl fun _ h => h
  | stop =>
    cases ha
    exact .keeps rfl fun _ h => by cases h
  | cancel connection | close connection =>
    cases ha
    exact .keeps rfl fun _ h => h
  | report generation now =>
    obtain ⟨x, -, ha⟩ := Option.bind_eq_some_iff.mp ha
    split at ha <;> cases ha
    exact .keeps rfl fun _ h => h
  | finish generation =>
    obtain ⟨x, -, ha⟩ := Option.bind_eq_some_iff.mp ha
    split at ha <;> cases ha
    unfold Streamer.finish
    split
    · exact .keeps rfl fun _ h => by cases h
    · exact .keeps rfl fun _ h => h

/-- The numbers have grown, and a signal that is new comes with a new number. -/
structure Numbered (s s' : Streaming) : Prop where
  le : s.streamer.generation ≤ s'.streamer.generation
  signal : s'.streamer.generation = s.streamer.generation → ∀ signal,
    s'.streamer.signal = some signal → s.streamer.signal = some signal

theorem Numbered.refl (s : Streaming) : Numbered s s := ⟨Nat.le_refl _, fun _ _ hs => hs⟩

theorem Numbered.trans {s'' : Streaming} (h : Numbered s s') (h' : Numbered s' s'') :
    Numbered s s'' := by
  refine ⟨Nat.le_trans h.le h'.le, fun he signal hs => ?_⟩
  have hsame := Nat.le_antisymm (he ▸ h'.le) h.le
  exact h.signal hsame signal (h'.signal (he.trans hsame.symm) signal hs)

theorem Signals.numbered (h : Signals s s' a) : Numbered s s' := by
  cases h with
  | keeps hg hs => exact ⟨Nat.le_of_eq hg.symm, fun _ => hs⟩
  | starts _ hg _ => exact ⟨Nat.le_of_lt (hg ▸ Nat.lt_succ_self _), fun he => by omega⟩

/-- The stream that runs ends only when it has lost its connection. -/
theorem mayEnd_of_signal {x : Stream} {signal : StopSignal} (hf : s.streamer.Faithful)
    (hsignal : s.streamer.signal = some signal)
    (hx : s.streamer.stream? signal.generation = some x) (he : s.mayEnd x) :
    signal.connection ∈ s.cancelled ∨ signal.connection ∈ s.closed := by
  obtain ⟨hmem, hg⟩ := Streamer.stream?_eq_some hx
  obtain ⟨hgo, hc⟩ := hf signal hsignal x hmem hg
  simpa [mayEnd, hgo, hc] using he

end Streaming

/-! ### A printer that several threads work on -/

/-- A printer that several threads work on. -/
structure Shared where
  device : Device
  /-- The number of connections so far, which numbers the next one. -/
  made : Nat
  /-- The connections that have been told to shut down. -/
  cancelled : List Nat
  /-- The connections whose send queue is closed. -/
  closed : List Nat
  /-- The connections that have been unbound, and whose reports are to be ended next. -/
  leaving : List Nat
  /-- The connections that somebody has found bound, to start a stream on next. -/
  found : List Nat

namespace Shared

/-- What a thread does while it holds a lock, or what happens to a connection or a stream. -/
inductive Act where
  /-- Another connection is to be bound. -/
  | attach
  | cancel (connection : Nat)
  | close (connection : Nat)
  /-- A connection that has been told to shut down is unbound. -/
  | detach (connection : Nat)
  /-- The reports of a connection that has been unbound are ended. -/
  | endReports (connection : Nat)
  /-- Somebody who wants reports looks for the connection. -/
  | look
  /-- A stream is started on a connection that has been found. -/
  | start (connection : Nat) (runsTasks : Bool) (now interval : Span)
  /-- The reports are ended on request. -/
  | stop
  | report (generation : Nat) (now : Span)
  | finish (generation : Nat)
deriving DecidableEq

/-- A printer that has never been connected. -/
def new (state : State) : Shared := ⟨.ofState state, 0, [], [], [], []⟩

/-- The streamer among the connections. -/
def streaming (s : Shared) : Streaming := ⟨s.device.streamer, s.cancelled, s.closed⟩

/-- The printer with another state of its streamer. -/
def withStreamer (s : Shared) (streamer : Streamer) : Shared :=
  { s with device := { s.device with streamer := streamer } }

/-- A connection that does not shut down. -/
def IsLive (s : Shared) (connection : Nat) : Prop :=
  connection ∉ s.cancelled ∧ connection ∉ s.closed

instance (s : Shared) (connection : Nat) : Decidable (s.IsLive connection) :=
  inferInstanceAs (Decidable (_ ∧ _))

/-- What becomes of the printer, if the act can take place. -/
def apply (s : Shared) : Act → Option Shared
  | .attach =>
    match s.device.attach s.made with
    | .ok d => some { s with device := d, made := s.made + 1 }
    | .error _ => some { s with made := s.made + 1 }
  | .cancel c => some { s with cancelled := c :: s.cancelled }
  | .close c => some { s with closed := c :: s.closed }
  | .detach c =>
    if c ∈ s.cancelled then
      some { s with
        device := s.device.detach c
        leaving := if s.device.binding = some c then c :: s.leaving else s.leaving }
    else none
  | .endReports c =>
    if c ∈ s.leaving then
      some { s with device := s.device.stopTelemetry, leaving := s.leaving.erase c }
    else none
  | .look => some { s with found := s.device.binding.toList ++ s.found }
  | .start c runsTasks now interval =>
    if c ∈ s.found then
      match s.device.streamer.request runsTasks now interval c with
      | .ok (_, streamer) => some { s.withStreamer streamer with found := s.found.erase c }
      | .error _ => some { s with found := s.found.erase c }
    else none
  | .stop => some { s with device := s.device.stopTelemetry }
  | .report generation now =>
    (s.streaming.apply (.report generation now)).map fun t => s.withStreamer t.streamer
  | .finish generation =>
    (s.streaming.apply (.finish generation)).map fun t => s.withStreamer t.streamer

/-- The printer has come from another state by some acts. -/
inductive Run (s₀ : Shared) : List Act → Shared → Prop
  | start : Run s₀ [] s₀
  | act {h s s' a} : Run s₀ h s → s.apply a = some s' → Run s₀ (h ++ [a]) s'

/-- The printer after a list of acts, if they can take place one after the other. -/
def play (s : Shared) (acts : List Act) : Option Shared := acts.foldlM apply s

variable {s s' s₁ s₂ : Shared} {a : Act} {h : List Act} {c : Nat}

theorem Run.trans {k : List Act} (hr : s.Run h s₁) (hk : s₁.Run k s₂) : s.Run (h ++ k) s₂ := by
  -- induction on the second run, which grows at its end
  induction hk with
  | start => rwa [List.append_nil]
  | act _ ha ih =>
    rw [← List.append_assoc]
    exact ih.act ha

theorem run_of_play {acts : List Act} (hp : s.play acts = some s') : s.Run acts s' := by
  -- induction on the acts that are still to take place
  induction acts generalizing s with
  | nil =>
    cases hp
    exact .start
  | cons a rest ih =>
    rw [play, List.foldlM_cons] at hp
    obtain ⟨s₁, ha, hp⟩ := Option.bind_eq_some_iff.mp hp
    exact Run.trans (.act .start ha) (ih hp)

/-! ### One lock right after the other -/

/-- A connection that is left with nobody in between is released. -/
theorem release_sections (hc : c ∈ s.cancelled) (hb : s.device.binding = some c) :
    s.play [.detach c, .endReports c] = some { s with device := s.device.release c } := by
  simp [play, apply, hc, hb, Device.release]

/-- A connection that is not bound is left alone. -/
theorem detach_of_ne (hc : c ∈ s.cancelled) (hb : s.device.binding ≠ some c) :
    s.apply (.detach c) = some s := by
  simp [apply, hc, hb, Device.detach]

/-- Reports that are asked for with nobody in between are started on the connection that is bound. -/
theorem request_sections (hb : s.device.binding = some c) (here : Surroundings) (interval : Span) :
    s.play [.look, .start c here.runsTasks here.now interval] =
      some { s with device := (s.device.startTelemetry here interval).toOption.getD s.device } := by
  simp only [play, List.foldlM_cons, List.foldlM_nil, apply, hb, Device.startTelemetry]
  cases hr : s.device.streamer.request here.runsTasks here.now interval c with
  | ok r => simp [hr, hb, withStreamer, Except.map, Except.toOption]
  | error e => simp [hr, Except.map, Except.toOption]

/-! ### What an act can do -/

/-- What an act is to the streamer among its connections. -/
def Act.toStreaming : Act → Option Streaming.Act
  | .start c runsTasks now interval => some (.start runsTasks now interval c)
  | .stop | .endReports _ => some .stop
  | .cancel c => some (.cancel c)
  | .close c => some (.close c)
  | .report generation now => some (.report generation now)
  | .finish generation => some (.finish generation)
  | .attach | .detach _ | .look => none

theorem streaming_apply (ha : s.apply a = some s') :
    match a.toStreaming with
    | some b => s.streaming.apply b = some s'.streaming
    | none => s'.streaming = s.streaming := by
  cases a with
  | attach =>
    simp only [apply, Device.attach] at ha
    split at ha <;> cases ha
    · next hd =>
      split at hd <;> cases hd
      rfl
    · rfl
  | detach c =>
    simp only [apply] at ha
    split at ha <;> cases ha
    simp only [Act.toStreaming, streaming, Device.detach]
    split <;> rfl
  | look =>
    cases ha
    rfl
  | start c runsTasks now interval =>
    simp only [apply] at ha
    split at ha
    · simp only [Act.toStreaming, Streaming.apply, streaming]
      cases hr : s.device.streamer.request runsTasks now interval c <;>
        simp only [hr, Option.some.injEq] at ha ⊢ <;> subst ha <;> rfl
    · cases ha
  | endReports c =>
    simp only [apply] at ha
    split at ha <;> cases ha
    rfl
  | stop | cancel c | close c =>
    cases ha
    rfl
  | report generation now | finish generation =>
    obtain ⟨t, ht, rfl⟩ := Option.map_eq_some_iff.mp ha
    obtain ⟨x, -, hx⟩ := Option.bind_eq_some_iff.mp ht
    simp only [Act.toStreaming, ht]
    split at hx <;> cases hx
    rfl

/-- What holds of the streamer, and keeps holding whatever becomes of it, still holds. -/
theorem streaming_induct {P : Streaming → Prop} (h : P s.streaming)
    (hstep : ∀ b t, s.streaming.apply b = some t → P t) (ha : s.apply a = some s') :
    P s'.streaming := by
  have hstreaming := streaming_apply ha
  split at hstreaming
  · exact hstep _ _ hstreaming
  · exact hstreaming ▸ h

/-- What an act can do to the binding, and to those that have unbound a connection. -/
inductive Binds (s s' : Shared) : Prop
  | keeps (hb : s'.device.binding = s.device.binding) (hl : s'.leaving ⊆ s.leaving)
  /-- A connection is bound to a printer that is bound to none. -/
  | binds (hb : s.device.binding = none)
  /-- A connection is unbound that has been told to shut down. -/
  | unbinds {d : Nat} (hd : d ∈ s.cancelled) (hb : s.device.binding = some d)

theorem binds_apply (ha : s.apply a = some s') : Binds s s' := by
  cases a with
  | attach =>
    simp only [apply, Device.attach] at ha
    split at ha <;> cases ha
    · next hd =>
      split at hd
      · cases hd
      · next hn => exact .binds (by simpa [Device.isConnected] using hn)
    · exact .keeps rfl (List.Subset.refl _)
  | detach c =>
    simp only [apply] at ha
    split at ha
    · next hc =>
      by_cases hb : s.device.binding = some c
      · exact .unbinds hc hb
      · cases ha
        refine .keeps ?_ ?_
        · rw [Device.detach, if_neg hb]
        · rw [if_neg hb]
          exact List.Subset.refl _
    · cases ha
  | endReports c =>
    simp only [apply] at ha
    split at ha <;> cases ha
    exact .keeps rfl List.erase_subset
  | start c runsTasks now interval =>
    simp only [apply] at ha
    split at ha
    · split at ha <;> cases ha <;> exact .keeps rfl (List.Subset.refl _)
    · cases ha
  | look | stop | cancel | close =>
    cases ha
    exact .keeps rfl (List.Subset.refl _)
  | report generation now | finish generation =>
    obtain ⟨t, -, rfl⟩ := Option.map_eq_some_iff.mp ha
    exact .keeps rfl (List.Subset.refl _)

/-- A connection that shuts down goes on to do so. -/
theorem shutdown_apply (ha : s.apply a = some s') :
    s.cancelled ⊆ s'.cancelled ∧ s.closed ⊆ s'.closed := by
  cases a with
  | cancel c =>
    cases ha
    exact ⟨List.subset_cons_self _ _, List.Subset.refl _⟩
  | close c =>
    cases ha
    exact ⟨List.Subset.refl _, List.subset_cons_self _ _⟩
  | attach | detach | endReports | start | look | stop =>
    simp only [apply] at ha
    repeat' split at ha
    all_goals cases ha
    all_goals exact ⟨List.Subset.refl _, List.Subset.refl _⟩
  | report generation now | finish generation =>
    obtain ⟨t, -, rfl⟩ := Option.map_eq_some_iff.mp ha
    exact ⟨List.Subset.refl _, List.Subset.refl _⟩

theorem isLive_of_apply (ha : s.apply a = some s') (hc : s'.IsLive c) : s.IsLive c :=
  ⟨fun h => hc.1 ((shutdown_apply ha).1 h), fun h => hc.2 ((shutdown_apply ha).2 h)⟩

/-- The connection is bound, or it has been told to shut down. -/
def IsKnown (s : Shared) (c : Nat) : Prop := s.device.binding = some c ∨ c ∈ s.cancelled

theorem IsKnown.apply (hc : s.IsKnown c) (ha : s.apply a = some s') : s'.IsKnown c := by
  have hsub := (shutdown_apply ha).1
  rcases hc with hb | hc
  · cases binds_apply ha with
    | keeps hb' => exact .inl (hb'.trans hb)
    | binds hn => simp [hn] at hb
    | unbinds hd hd' =>
      obtain rfl := Option.some.inj (hd'.symm.trans hb)
      exact .inr (hsub hd)
  · exact .inr (hsub hc)

/-- A connection that has been found was bound. -/
theorem found_apply (ha : s.apply a = some s') (hc : c ∈ s'.found) :
    c ∈ s.found ∨ s.device.binding = some c := by
  cases a with
  | look =>
    cases ha
    rcases List.mem_append.mp hc with hc | hc
    · exact .inr (Option.mem_toList.mp hc)
    · exact .inl hc
  | start d runsTasks now interval =>
    left
    simp only [apply] at ha
    split at ha
    · split at ha <;> cases ha <;> exact List.mem_of_mem_erase hc
    · cases ha
  | attach | detach | endReports | stop | cancel | close =>
    left
    simp only [apply] at ha
    repeat' split at ha
    all_goals cases ha
    all_goals exact hc
  | report generation now | finish generation =>
    obtain ⟨t, -, rfl⟩ := Option.map_eq_some_iff.mp ha
    exact .inl hc

/-- A stream is started on a connection that has been found. -/
theorem mem_found_of_start {runsTasks : Bool} {now interval : Span}
    (hb : a.toStreaming = some (.start runsTasks now interval c)) (ha : s.apply a = some s') :
    c ∈ s.found := by
  cases a with
  | start d _ _ _ =>
    cases hb
    simp only [apply] at ha
    split at ha
    · next hc => exact hc
    · cases ha
  | _ => cases hb

theorem signal_apply {signal : StopSignal} (ha : s.apply a = some s')
    (hs : s'.device.streamer.signal = some signal) :
    s.device.streamer.signal = some signal ∨ signal.connection ∈ s.found := by
  have hstreaming := streaming_apply ha
  split at hstreaming
  · next b hb =>
    cases Streaming.signals_apply hstreaming with
    | keeps _ hkeep => exact .inl (hkeep signal hs)
    | starts hstart _ hs' =>
      subst hstart
      obtain rfl := Option.some.inj (hs'.symm.trans hs)
      exact .inr (mem_found_of_start hb ha)
  · exact .inl (congrArg (·.streamer.signal) hstreaming ▸ hs)

/-! ### What holds in every order -/

/-- What the binding says about the streamer: streams run on connections that are bound or have been told
to shut down. -/
structure Kept (s : Shared) : Prop where
  tidy : s.device.streamer.Tidy
  faithful : s.device.streamer.Faithful
  found : ∀ c ∈ s.found, s.IsKnown c
  signal : ∀ signal, s.device.streamer.signal = some signal → s.IsKnown signal.connection

theorem Kept.new (state : State) : (new state).Kept where
  tidy := .new
  faithful := .of_signal_eq_none rfl
  found := nofun
  signal := fun _ hs => by cases hs

theorem Kept.apply (h : s.Kept) (ha : s.apply a = some s') : s'.Kept where
  tidy := streaming_induct (P := fun t => t.streamer.Tidy) h.tidy
    (fun _ _ => Streaming.tidy_apply h.tidy) ha
  faithful := streaming_induct (P := fun t => t.streamer.Faithful) h.faithful
    (fun _ _ => Streaming.faithful_apply h.faithful h.tidy) ha
  found := fun c hc => by
    rcases found_apply ha hc with hc | hb
    · exact (h.found c hc).apply ha
    · exact IsKnown.apply (.inl hb) ha
  signal := fun signal hs => by
    rcases signal_apply ha hs with hs | hc
    · exact (h.signal signal hs).apply ha
    · exact (h.found _ hc).apply ha

theorem Run.kept (hr : s.Run h s') (h₀ : s.Kept) : s'.Kept := by
  induction hr with
  | start => exact h₀
  | act _ ha ih => exact ih.apply ha

theorem Run.shutdown (hr : s.Run h s') : s.cancelled ⊆ s'.cancelled ∧ s.closed ⊆ s'.closed := by
  induction hr with
  | start => exact ⟨List.Subset.refl _, List.Subset.refl _⟩
  | act _ ha ih =>
    exact ⟨List.Subset.trans ih.1 (shutdown_apply ha).1,
      List.Subset.trans ih.2 (shutdown_apply ha).2⟩

/-- A known connection that does not shut down is the one that is bound. -/
theorem IsKnown.bound (hc : s.IsKnown c) (hlive : s.IsLive c) : s.device.binding = some c :=
  hc.resolve_right hlive.1

/-- Whatever has been started since has a number of its own. -/
theorem Run.numbered (hr : s.Run h s') : Streaming.Numbered s.streaming s'.streaming := by
  induction hr with
  | start => exact .refl _
  | act _ ha ih =>
    exact ih.trans (streaming_induct (.refl _)
      (fun _ _ hb => (Streaming.signals_apply hb).numbered) ha)

/-- As long as a connection that is bound does not shut down it stays bound, and nobody else unbinds
one. -/
theorem Run.stays_bound (hr : s.Run h s') (hb : s.device.binding = some c) (hlive : s'.IsLive c) :
    s'.device.binding = some c ∧ s'.leaving ⊆ s.leaving ∧
      ∀ d, .endReports d ∈ h → d ∈ s.leaving := by
  induction hr with
  | start => exact ⟨hb, List.Subset.refl _, nofun⟩
  | @act h s₁ s₂ a _ ha ih =>
    have hlive₁ := isLive_of_apply ha hlive
    obtain ⟨hb₁, hleaving, hends⟩ := ih hlive₁
    -- whoever unbinds the connection has found it told to shut down
    have hstep : s₂.device.binding = some c ∧ s₂.leaving ⊆ s₁.leaving := by
      cases binds_apply ha with
      | keeps hb' hl => exact ⟨hb'.trans hb₁, hl⟩
      | binds hn => simp [hn] at hb₁
      | unbinds hd hd' =>
        obtain rfl := Option.some.inj (hd'.symm.trans hb₁)
        exact absurd hd hlive₁.1
    refine ⟨hstep.1, List.Subset.trans hstep.2 hleaving, fun d hd => ?_⟩
    rcases List.mem_append.mp hd with hd | hd
    · exact hends d hd
    · obtain rfl := List.mem_singleton.mp hd
      simp only [apply] at ha
      split at ha
      · next hin => exact hleaving hin
      · cases ha

/-- A stream on a connection that does not shut down goes on until reports are ended. -/
theorem Run.keeps_stream {signal : StopSignal} (hr : s.Run h s') (h₀ : s.Kept)
    (hs : s.device.streamer.signal = some signal) (hlive : s'.IsLive signal.connection)
    (hends : ∀ a ∈ h, a.toStreaming ≠ some .stop) : Streaming.SameStream s.streaming s'.streaming := by
  induction hr with
  | start => exact ⟨rfl, rfl, rfl, rfl⟩
  | @act h s₁ s₂ a hr ha ih =>
    rw [List.forall_mem_append, List.forall_mem_singleton] at hends
    have hlive₁ := isLive_of_apply ha hlive
    have hsame := ih hlive₁ hends.1
    have hstreaming := streaming_apply ha
    split at hstreaming
    · next b hb =>
      have hs₁ : s₁.streaming.streamer.signal = some signal := hsame.signal.trans hs
      have hrun : s₁.streaming.streamer.isRunning := by rw [Streamer.isRunning, hs₁]; rfl
      have hgeneration := (hr.kept h₀).tidy.newest signal hs₁
      have hb' : b.ends s₁.streaming.streamer.generation = false := by
        cases b with
        | stop => exact absurd hb hends.2
        | finish generation =>
          -- the stream itself has no reason to end
          simp only [Streaming.Act.ends, beq_eq_false_iff_ne]
          rintro rfl
          obtain ⟨x, hx, hend⟩ := Option.bind_eq_some_iff.mp hstreaming
          split at hend
          · next he =>
            have hx' : s₁.streaming.streamer.stream? signal.generation = some x := by
              rw [hgeneration]
              exact hx
            rcases Streaming.mayEnd_of_signal (hr.kept h₀).faithful hs₁ hx' he with hc | hc
            · exact absurd hc hlive₁.1
            · exact absurd hc hlive₁.2
          · cases hend
        | _ => rfl
      exact hsame.trans (Streaming.sameStream_apply hrun hb' hstreaming)
    · rw [hstreaming]
      exact hsame

/-- A request for reports on a connection that does not shut down finds it bound.  When it is granted a
stream runs: on that connection, or one on a connection that shuts down, which has not ended yet. -/
theorem Kept.granted {runsTasks : Bool} {now interval : Span} {answer : Bool × Streamer}
    (h : s.Kept) (hlive : s.IsLive c)
    (hr : s.device.streamer.request runsTasks now interval c = .ok answer)
    (ha : s.apply (.start c runsTasks now interval) = some s') :
    s'.device.binding = some c ∧ ∃ signal, s'.device.streamer.signal = some signal ∧
      (signal.connection = c ∨ ¬s'.IsLive signal.connection) := by
  simp only [Shared.apply, hr] at ha
  split at ha <;> cases ha
  next hc =>
  have hb : s.device.binding = some c := (h.found c hc).bound hlive
  refine ⟨hb, ?_⟩
  rcases s.device.streamer.request_cases runsTasks now interval c with
    ⟨hrun, hr'⟩ | ⟨hidle, -, hr'⟩ | ⟨-, -, hr'⟩ <;> rw [hr'] at hr <;> cases hr
  · obtain ⟨signal, hs⟩ := Option.isSome_iff_exists.mp hrun
    refine ⟨signal, hs, ?_⟩
    -- the stream that ran before runs on a known connection, of which one is bound at most
    by_cases hl : s.IsLive signal.connection
    · exact .inl (Option.some.inj (((h.signal signal hs).bound hl).symm.trans hb))
    · exact .inr hl
  · refine ⟨⟨s.device.streamer.generation + 1, c⟩, ?_, .inl rfl⟩
    simp only [withStreamer, Streamer.start, hidle, Bool.false_eq_true, if_false]

/-- **What a release can do to the reports on another connection**, in every order of what the threads do
under the locks.  The reports that it ends are those of a connection that shuts down, unless they have
been started since it unbound its own.  A request that is granted on a connection that does not shut down
leaves a stream running: on that connection, or one on a connection that shuts down, which has not ended
yet.  A stream on a connection that does not shut down goes on until the reports are ended on request, or
by a release that was under way before. -/
theorem release_spares {state : State} (hr : (new state).Run h s) :
    (∀ d s₁ later s₂ signal, s.device.binding = some d → s.apply (.detach d) = some s₁ →
      s₁.Run later s₂ → s₂.device.streamer.signal = some signal → s₂.IsLive signal.connection →
        s₁.device.streamer.generation < s₂.device.streamer.generation) ∧
    (∀ c runsTasks now interval answer s', s.IsLive c →
      s.device.streamer.request runsTasks now interval c = .ok answer →
      s.apply (.start c runsTasks now interval) = some s' →
        s'.device.binding = some c ∧ ∃ signal, s'.device.streamer.signal = some signal ∧
          (signal.connection = c ∨ ¬s'.IsLive signal.connection)) ∧
    ∀ signal later s', s.device.streamer.signal = some signal → s.Run later s' →
      s'.IsLive signal.connection → .stop ∉ later →
        s'.device.binding = some signal.connection ∧
          (Streaming.SameStream s.streaming s'.streaming ∨
            ∃ d ∈ s.leaving, .endReports d ∈ later) := by
  have hkept : s.Kept := hr.kept (.new state)
  refine ⟨fun d s₁ later s₂ signal hb ha hlater hs hlive => ?_, fun c runsTasks now interval answer s'
    hlive hreq ha => hkept.granted hlive hreq ha, fun signal later s' hs hlater hlive hstop => ?_⟩
  · refine Nat.lt_of_le_of_ne hlater.numbered.le fun he => ?_
    -- otherwise the stream ran when the connection had just been unbound, and none was bound
    have hknown := (hkept.apply ha).signal signal (hlater.numbered.signal he.symm signal hs)
    have hb₁ : s₁.device.binding = none := by
      simp only [apply] at ha
      split at ha <;> cases ha
      rw [Device.detach, if_pos hb]
    rcases hknown with hk | hk
    · simp [hb₁] at hk
    · exact hlive.1 (hlater.shutdown.1 hk)
  · have hlive₀ : s.IsLive signal.connection :=
      ⟨fun hc => hlive.1 (hlater.shutdown.1 hc), fun hc => hlive.2 (hlater.shutdown.2 hc)⟩
    obtain ⟨hb, -, hends⟩ := hlater.stays_bound ((hkept.signal signal hs).bound hlive₀) hlive
    refine ⟨hb, ?_⟩
    by_cases hex : ∃ d, .endReports d ∈ later
    · obtain ⟨d, hd⟩ := hex
      exact .inr ⟨d, hends d hd, hd⟩
    · refine .inl (hlater.keeps_stream hkept hs hlive fun a ha he => ?_)
      cases a with
      | stop => exact hstop ha
      | endReports d => exact hex ⟨d, ha⟩
      | attach | detach | look | start | cancel | close | report | finish => cases he

/-- A connection is left, and another one bound, on which reports are started. -/
def handover : List Act :=
  [.attach, .cancel 0, .detach 0, .endReports 0, .attach, .look, .start 1 true .zero (.ofSeconds 1)]

theorem release_spares_handover :
    ∃ s s', (new Device.standard.state).Run handover s ∧ s.leaving = [] ∧
      s.device.streamer.signal = some ⟨1, 1⟩ ∧ s.Run [.report 1 .zero, .detach 0] s' ∧
      s'.device.binding = some 1 ∧ Streaming.SameStream s.streaming s'.streaming := by
  have hr := @run_of_play (new Device.standard.state) _ handover rfl
  obtain ⟨hb, hsame⟩ := (release_spares hr).2.2 ⟨1, 1⟩ _ _ rfl
    (@run_of_play _ _ [.report 1 .zero, .detach 0] rfl) (by decide) (by decide)
  refine ⟨_, _, hr, rfl, rfl, run_of_play rfl, hb, hsame.resolve_right ?_⟩
  rintro ⟨d, hd, -⟩
  cases hd

/-- Another connection is bound, and reports are started on it, before those of the one that is left are
ended. -/
def overlap : List Act :=
  [.attach, .cancel 0, .detach 0, .attach, .look, .start 1 true .zero (.ofSeconds 1)]

/-- **A release ends the reports on another connection**, though they have been granted and nobody has
asked for their end.  Besides, a request for an interval too short to be told from none is granted
without a stream. -/
theorem release_strikes :
    (∃ s s', (new Device.standard.state).Run overlap s ∧ s.device.binding = some 1 ∧ s.IsLive 1 ∧
      s.device.streamer.signal = some ⟨1, 1⟩ ∧ s.apply (.endReports 0) = some s' ∧
      s'.device.binding = some 1 ∧ s'.IsLive 1 ∧ s'.device.streamer.isRunning = false) ∧
    let d : Device := { Device.standard with binding := some 1 }
    let here : Surroundings := ⟨⟨0, 0⟩, .zero, true⟩
    (d.execute here "M155 S0.0000000001".toList).2 = Machine.okay ∧
      (d.execute here "M155 S0.0000000001".toList).1.streamer.isRunning = false := by
  refine ⟨⟨_, _, run_of_play rfl, rfl, by decide, rfl, rfl, rfl, by decide, rfl⟩, ?_⟩
  decide +kernel

end Shared

end VirtualPrinter.Service
