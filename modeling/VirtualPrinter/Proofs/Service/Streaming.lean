import VirtualPrinter.Service.Streamer

/-!
# One stream at a time

A stream ends when it notices that it may: it has been told to stop, its connection shuts down, or
the send queue it reports to is closed.  Until then it goes on beside later streams, however many
starts and stops lie between.  What it does to its streamer when it ends is guarded by its number
alone, and the number of the last stream that was started is the only one that counts.

The invariant that carries this is that a stream which has not been told to stop is the one whose
signal the streamer holds.

## Main definitions

* `Streamer.Tidy`: the invariant.
* `Service.Streaming`: a streamer, and what has become of the connections that its streams serve.
* `Streaming.apply`, `Streaming.Run`: what can happen to them, in any order.
* `Streaming.live`: the streams that go on.

## Main results

* `Tidy.request`, `Tidy.stop`, `Tidy.update`, `Tidy.finish`: what keeps the invariant.
* `Run.keeps_stream`: a stream that runs goes on until it ends or is stopped itself.
* `single_stream`: one stream at a time.
-/

namespace VirtualPrinter.Service

open Time (Span)

/-! ### The invariant -/

/-- What a streamer knows of the stream that runs belongs together, and every stream that has not been
told to stop is that stream. -/
structure Streamer.Tidy (s : Streamer) : Prop where
  interval : s.interval.isSome = s.signal.isSome
  task : s.task = s.signal.map (·.generation)
  newest : ∀ signal, s.signal = some signal → signal.generation = s.generation
  distinct : (s.streams.map (·.generation)).Nodup
  started : ∀ x ∈ s.streams, x.generation ≤ s.generation
  running : ∀ x ∈ s.streams, x.stopped = false →
    s.signal = some ⟨x.generation, x.connection⟩ ∧ s.interval = some x.interval

namespace Streamer

variable {s : Streamer}

theorem Tidy.generation_eq (h : s.Tidy) {x : Stream} (hx : x ∈ s.streams)
    (hgo : x.stopped = false) : x.generation = s.generation :=
  h.newest _ (h.running x hx hgo).1

/-- Nothing goes on under a streamer that does not run. -/
theorem Tidy.stopped_of_idle (h : s.Tidy) (hs : s.isRunning = false) {x : Stream}
    (hx : x ∈ s.streams) : x.stopped = true := by
  cases hgo : x.stopped with
  | true => rfl
  | false =>
    have hsignal := (h.running x hx hgo).1
    simp [isRunning, hsignal] at hs

theorem Tidy.new : Streamer.new.Tidy where
  interval := rfl
  task := rfl
  newest := fun _ hs => by cases hs
  distinct := List.nodup_nil
  started := fun _ hx => absurd hx List.not_mem_nil
  running := fun _ hx => absurd hx List.not_mem_nil

theorem Tidy.start (h : s.Tidy) (now interval : Span) (connection : Nat) :
    (s.start now interval connection).Tidy := by
  unfold Streamer.start
  split
  · exact h
  · next hs =>
    have hidle : s.isRunning = false := Bool.not_eq_true _ ▸ hs
    -- the new stream, if the clock can run, is the only one that has not been told to stop
    have hbegun : ∀ x ∈ (if interval.isZero then [] else
        [(⟨s.generation + 1, connection, interval, false, now⟩ : Stream)]),
        x = ⟨s.generation + 1, connection, interval, false, now⟩ := by
      split
      · exact fun _ hx => absurd hx List.not_mem_nil
      · exact fun _ hx => List.mem_singleton.mp hx
    constructor
    · rfl
    · rfl
    · intro signal hsignal
      cases hsignal
      rfl
    · rw [List.map_append, List.nodup_append]
      refine ⟨h.distinct, by split <;> simp, ?_⟩
      intro g hg g' hg'
      obtain ⟨x, hx, rfl⟩ := List.mem_map.mp hg
      obtain ⟨y, hy, rfl⟩ := List.mem_map.mp hg'
      have := h.started x hx
      rw [hbegun y hy]
      exact Nat.ne_of_lt (Nat.lt_succ_of_le this)
    · intro x hx
      rcases List.mem_append.mp hx with hx | hx
      · exact Nat.le_succ_of_le (h.started x hx)
      · exact Nat.le_of_eq (congrArg Stream.generation (hbegun x hx))
    · intro x hx hgo
      rcases List.mem_append.mp hx with hx | hx
      · rw [h.stopped_of_idle hidle hx] at hgo
        cases hgo
      · rw [hbegun x hx]
        exact ⟨rfl, rfl⟩

theorem Tidy.request (h : s.Tidy) {runsTasks started : Bool} {now interval : Span}
    {connection : Nat} {t : Streamer}
    (hr : s.request runsTasks now interval connection = .ok (started, t)) : t.Tidy := by
  rcases s.request_cases runsTasks now interval connection with
    ⟨-, hs⟩ | ⟨-, -, hs⟩ | ⟨-, -, hs⟩ <;> rw [hs] at hr <;> cases hr
  · exact h
  · exact h.start now interval connection

/-- A signal is for one stream, and leaves its number alone. -/
theorem mem_give {streams : List Stream} {signal : StopSignal} {x : Stream}
    (hx : x ∈ give streams signal) : ∃ y ∈ streams, x.generation = y.generation ∧
      (x.stopped = false → x = y ∧ x.generation ≠ signal.generation) := by
  obtain ⟨y, hy, rfl⟩ := List.mem_map.mp hx
  refine ⟨y, hy, ?_⟩
  split
  · exact ⟨rfl, fun hgo => absurd hgo (by simp)⟩
  · next hne => exact ⟨rfl, fun _ => ⟨rfl, hne⟩⟩

theorem map_generation_give (streams : List Stream) (signal : StopSignal) :
    (give streams signal).map (·.generation) = streams.map (·.generation) := by
  rw [give, List.map_map]
  refine List.map_congr_left fun x _ => ?_
  simp only [Function.comp_apply]
  split <;> rfl

theorem Tidy.stop (h : s.Tidy) : s.stop.Tidy := by
  -- every stream that is left has been told to stop, now or before
  have hstopped : ∀ x ∈ s.stop.streams, x.stopped = true := by
    intro x hx
    cases hs : s.signal with
    | none =>
      rw [Streamer.stop, hs] at hx
      exact h.stopped_of_idle (by simp [isRunning, hs]) hx
    | some signal =>
      rw [Streamer.stop, hs] at hx
      obtain ⟨y, hy, -, hkept⟩ := mem_give hx
      cases hgo : x.stopped with
      | true => rfl
      | false =>
        obtain ⟨rfl, hne⟩ := hkept hgo
        have hsignal := (h.running x hy hgo).1
        rw [hs, Option.some.injEq] at hsignal
        exact absurd (by rw [hsignal]) hne
  constructor
  · rfl
  · rfl
  · intro signal hsignal
    cases hsignal
  · cases hs : s.signal with
    | none => simpa [Streamer.stop, hs] using h.distinct
    | some signal => simpa [Streamer.stop, hs, map_generation_give] using h.distinct
  · intro x hx
    cases hs : s.signal with
    | none =>
      rw [Streamer.stop, hs] at hx
      exact h.started x hx
    | some signal =>
      rw [Streamer.stop, hs] at hx
      obtain ⟨y, hy, he, -⟩ := mem_give hx
      rw [he]
      exact h.started y hy
  · intro x hx hgo
    rw [hstopped x hx] at hgo
    cases hgo

theorem stream?_eq_some {generation : Nat} {x : Stream} (h : s.stream? generation = some x) :
    x ∈ s.streams ∧ x.generation = generation :=
  ⟨List.mem_of_find?_eq_some h, by simpa using List.find?_some h⟩

/-- A report moves the clock of its stream, and nothing else. -/
theorem Tidy.update (h : s.Tidy) {generation : Nat} {x : Stream}
    (hx : s.stream? generation = some x) (now : Span) : (s.update (x.afterTick now)).Tidy := by
  obtain ⟨hmem, -⟩ := stream?_eq_some hx
  -- whatever stands in the list now agrees with a stream that stood there before
  have hold : ∀ y ∈ (s.update (x.afterTick now)).streams, ∃ z ∈ s.streams,
      y.generation = z.generation ∧ y.connection = z.connection ∧ y.interval = z.interval ∧
        y.stopped = z.stopped := by
    intro y hy
    obtain ⟨z, hz, rfl⟩ := List.mem_map.mp hy
    split
    · exact ⟨x, hmem, by simp⟩
    · exact ⟨z, hz, rfl, rfl, rfl, rfl⟩
  refine ⟨h.interval, h.task, h.newest, ?_, ?_, ?_⟩
  · -- the numbers are the same, in the same order
    have hmap : (s.update (x.afterTick now)).streams.map (·.generation) =
        s.streams.map (·.generation) := by
      rw [Streamer.update, List.map_map]
      refine List.map_congr_left fun y _ => ?_
      simp only [Function.comp_apply]
      split
      · next he => exact he.symm
      · rfl
    rw [hmap]
    exact h.distinct
  · intro y hy
    obtain ⟨z, hz, hg, -⟩ := hold y hy
    rw [hg]
    exact h.started z hz
  · intro y hy hgo
    obtain ⟨z, hz, hg, hc, hi, hs⟩ := hold y hy
    rw [hg, hc, hi]
    exact h.running z hz (hs ▸ hgo)

/-- The end of another stream than the last one that was started. -/
theorem finish_of_ne {generation : Nat} (hne : generation ≠ s.generation) :
    s.finish generation =
      { s with streams := s.streams.filter (·.generation != generation) } := by
  rw [Streamer.finish, if_neg hne.symm]

theorem Tidy.finish (h : s.Tidy) (generation : Nat) : (s.finish generation).Tidy := by
  have hsub : ∀ x ∈ s.streams.filter (·.generation != generation),
      x ∈ s.streams ∧ x.generation ≠ generation := fun x hx => by
    simpa using List.mem_filter.mp hx
  have hdistinct : ((s.streams.filter (·.generation != generation)).map (·.generation)).Nodup :=
    h.distinct.sublist (List.filter_sublist.map _)
  by_cases hlast : generation = s.generation
  · -- the stream that ran has ended, and no other was running
    rw [Streamer.finish, if_pos hlast.symm]
    refine ⟨rfl, rfl, nofun, hdistinct, fun x hx => h.started x (hsub x hx).1, ?_⟩
    intro x hx hgo
    obtain ⟨hx, hne⟩ := hsub x hx
    exact absurd ((h.generation_eq hx hgo).trans hlast.symm) hne
  · rw [finish_of_ne hlast]
    exact ⟨h.interval, h.task, h.newest, hdistinct, fun x hx => h.started x (hsub x hx).1,
      fun x hx => h.running x (hsub x hx).1⟩

/-- A streamer that does not run has nothing to stop. -/
theorem Tidy.stop_of_idle (h : s.Tidy) (hs : s.isRunning = false) : s.stop = s := by
  have hsignal : s.signal = none := by simpa [isRunning] using hs
  have hinterval : s.interval = none := by simpa [hsignal] using h.interval
  have htask : s.task = none := by simpa [hsignal] using h.task
  obtain ⟨generation, interval, signal, task, streams⟩ := s
  subst hsignal hinterval htask
  rfl

end Streamer

/-! ### A streamer among its connections -/

/-- A streamer, and what has become of the connections that its streams serve. -/
structure Streaming where
  streamer : Streamer
  /-- The connections that have been told to shut down. -/
  cancelled : List Nat
  /-- The connections whose send queue is closed. -/
  closed : List Nat
deriving DecidableEq

namespace Streaming

/-- Something that happens to a streamer, to one of its streams or to a connection. -/
inductive Act where
  | start (runsTasks : Bool) (now interval : Span) (connection : Nat)
  | stop
  | cancel (connection : Nat)
  | close (connection : Nat)
  | report (generation : Nat) (now : Span)
  | finish (generation : Nat)

/-- A streamer that has never run, before anything has happened to a connection. -/
def idle : Streaming := ⟨.new, [], []⟩

/-- A stream may end. -/
def mayEnd (s : Streaming) (x : Stream) : Bool :=
  x.stopped || s.cancelled.contains x.connection || s.closed.contains x.connection

/-- What becomes of a streamer, if the act can take place.  A stream may end as soon as there is a
reason, and as late as it likes; it may report once more before it notices, unless the queue lets
nothing in. -/
def apply (s : Streaming) : Act → Option Streaming
  | .start runsTasks now interval connection =>
    match s.streamer.request runsTasks now interval connection with
    | .ok (_, streamer) => some { s with streamer := streamer }
    | .error _ => some s
  | .stop => some { s with streamer := s.streamer.stop }
  | .cancel connection => some { s with cancelled := connection :: s.cancelled }
  | .close connection => some { s with closed := connection :: s.closed }
  | .report generation now =>
    (s.streamer.stream? generation).bind fun x =>
      if s.closed.contains x.connection then none
      else some { s with streamer := s.streamer.update (x.afterTick now) }
  | .finish generation =>
    (s.streamer.stream? generation).bind fun x =>
      if s.mayEnd x then some { s with streamer := s.streamer.finish generation } else none

/-- The streamer has come from another state by some acts. -/
inductive Run (s₀ : Streaming) : List Act → Streaming → Prop
  | start : Run s₀ [] s₀
  | act {h s s' a} : Run s₀ h s → s.apply a = some s' → Run s₀ (h ++ [a]) s'

/-- The streams that go on: they have not ended, and neither been told to stop nor lost their
connection. -/
def live (s : Streaming) : List Stream :=
  s.streamer.streams.filter fun x => !(x.stopped || s.cancelled.contains x.connection)

variable {s s' : Streaming}

theorem mem_live {x : Stream} :
    x ∈ s.live ↔ x ∈ s.streamer.streams ∧ x.stopped = false ∧ x.connection ∉ s.cancelled := by
  simp [live]

/-! ### What an act keeps -/

theorem tidy_apply {a : Act} (h : s.streamer.Tidy) (ha : s.apply a = some s') :
    s'.streamer.Tidy := by
  cases a with
  | start runsTasks now interval connection =>
    simp only [apply] at ha
    split at ha <;> cases ha
    · next hr => exact h.request hr
    · exact h
  | stop =>
    cases ha
    exact h.stop
  | cancel connection | close connection =>
    cases ha
    exact h
  | report generation now =>
    obtain ⟨x, hx, ha⟩ := Option.bind_eq_some_iff.mp ha
    split at ha <;> cases ha
    exact h.update hx now
  | finish generation =>
    obtain ⟨x, -, ha⟩ := Option.bind_eq_some_iff.mp ha
    split at ha <;> cases ha
    exact h.finish generation

theorem Run.tidy {s₀ : Streaming} {h : List Act} (hr : s₀.Run h s) (h₀ : s₀.streamer.Tidy) :
    s.streamer.Tidy := by
  induction hr with
  | start => exact h₀
  | act _ ha ih => exact tidy_apply ih ha

/-- The act ends or stops the stream of a generation. -/
def Act.ends (generation : Nat) : Act → Bool
  | .stop => true
  | .finish g => g == generation
  | _ => false

/-- The same stream runs in another state, and the streamer knows the same of it. -/
structure SameStream (s s' : Streaming) : Prop where
  generation : s'.streamer.generation = s.streamer.generation
  interval : s'.streamer.interval = s.streamer.interval
  signal : s'.streamer.signal = s.streamer.signal
  task : s'.streamer.task = s.streamer.task

theorem SameStream.isRunning (h : SameStream s s') :
    s'.streamer.isRunning = s.streamer.isRunning := by
  rw [Streamer.isRunning, h.signal, Streamer.isRunning]

theorem SameStream.trans {s'' : Streaming} (h : SameStream s s') (h' : SameStream s' s'') :
    SameStream s s'' :=
  ⟨h'.generation.trans h.generation, h'.interval.trans h.interval, h'.signal.trans h.signal,
    h'.task.trans h.task⟩

/-- A stream that runs is touched by nothing but its own end and a stop. -/
theorem sameStream_apply {a : Act} (hs : s.streamer.isRunning)
    (hends : a.ends s.streamer.generation = false) (ha : s.apply a = some s') :
    SameStream s s' := by
  cases a with
  | start runsTasks now interval connection =>
    have hkeep : s.streamer.request runsTasks now interval connection = .ok (false, s.streamer) := by
      rw [Streamer.request, if_pos hs]
    simp only [apply, hkeep, Option.some.injEq] at ha
    subst ha
    exact ⟨rfl, rfl, rfl, rfl⟩
  | stop => cases hends
  | cancel connection | close connection =>
    cases ha
    exact ⟨rfl, rfl, rfl, rfl⟩
  | report generation now =>
    obtain ⟨x, -, ha⟩ := Option.bind_eq_some_iff.mp ha
    split at ha <;> cases ha
    exact ⟨rfl, rfl, rfl, rfl⟩
  | finish generation =>
    obtain ⟨x, -, ha⟩ := Option.bind_eq_some_iff.mp ha
    split at ha <;> cases ha
    have hne : generation ≠ s.streamer.generation := by simpa [Act.ends] using hends
    rw [Streamer.finish_of_ne hne]
    exact ⟨rfl, rfl, rfl, rfl⟩

/-- **A stream that runs goes on** until it ends itself or is stopped, whatever other streams and
connections do. -/
theorem Run.keeps_stream {h : List Act} (hr : s.Run h s') (hs : s.streamer.isRunning)
    (hends : ∀ a ∈ h, a.ends s.streamer.generation = false) : SameStream s s' := by
  -- induction on the run, which keeps the stream up to its last act
  induction hr with
  | start => exact ⟨rfl, rfl, rfl, rfl⟩
  | @act h t t' a _ ha ih =>
    rw [List.forall_mem_append, List.forall_mem_singleton] at hends
    have hsame := ih hends.1
    exact hsame.trans
      (sameStream_apply (hsame.isRunning.trans hs) (hsame.generation ▸ hends.2) ha)

/-! ### One stream -/

/-- The streams that go on are the one that runs. -/
theorem running_of_live (h : s.streamer.Tidy) {x : Stream} (hx : x ∈ s.live) :
    s.streamer.isRunning ∧ s.streamer.interval = some x.interval ∧
      x.generation = s.streamer.generation := by
  obtain ⟨hx, hgo, -⟩ := mem_live.mp hx
  obtain ⟨hsignal, hinterval⟩ := h.running x hx hgo
  exact ⟨by rw [Streamer.isRunning, hsignal]; rfl, hinterval, h.generation_eq hx hgo⟩

theorem length_live_le (h : s.streamer.Tidy) : s.live.length ≤ 1 := by
  have hall : ∀ g ∈ s.live.map (·.generation), g = s.streamer.generation := by
    intro g hg
    obtain ⟨x, hx, rfl⟩ := List.mem_map.mp hg
    exact (running_of_live h hx).2.2
  have hdistinct : (s.live.map (·.generation)).Nodup :=
    h.distinct.sublist (List.filter_sublist.map _)
  rw [List.eq_replicate_of_mem hall, List.nodup_replicate, List.length_map] at hdistinct
  exact hdistinct

/-- The end of another stream than the one that runs leaves those that go on as they are. -/
theorem live_finish (h : s.streamer.Tidy) {generation : Nat}
    (hne : generation ≠ s.streamer.generation) (ha : s.apply (.finish generation) = some s') :
    s' = { s with streamer := { s.streamer with
      streams := s.streamer.streams.filter (·.generation != generation) } } ∧ s'.live = s.live := by
  obtain ⟨x, -, ha⟩ := Option.bind_eq_some_iff.mp ha
  split at ha <;> cases ha
  rw [Streamer.finish_of_ne hne]
  refine ⟨rfl, ?_⟩
  simp only [live, List.filter_filter]
  refine List.filter_congr fun x hx => ?_
  -- a stream that goes on has the last number, which is not the one that ends
  cases hgo : x.stopped with
  | true => simp
  | false =>
    have : x.generation ≠ generation := fun he => hne (he ▸ h.generation_eq hx hgo)
    simp [this]

/-- **One stream at a time.**  Whatever happens to a streamer, its streams and their connections, in
any order, it knows the interval, the signal and the task of the stream that runs or none of them; at
most one stream goes on, and if one does, the streamer runs with its interval; while it runs, a
request for another stream is answered with no and changes nothing; while it does not, a stop changes
nothing; and a stream that ends after a later one was started neither clears nor stops that one, which
goes on until it ends itself or is stopped. -/
theorem single_stream {h : List Act} (hr : idle.Run h s) :
    (s.streamer.signal.isSome = s.streamer.interval.isSome ∧
      s.streamer.task.isSome = s.streamer.interval.isSome ∧
      s.streamer.isRunning = s.streamer.interval.isSome) ∧
    (s.live.length ≤ 1 ∧ ∀ x ∈ s.live, s.streamer.isRunning ∧
      s.streamer.interval = some x.interval ∧ s.streamer.task = some x.generation) ∧
    (s.streamer.isRunning → ∀ runsTasks now interval connection,
      s.streamer.request runsTasks now interval connection = .ok (false, s.streamer)) ∧
    (s.streamer.isRunning = false → s.streamer.stop = s.streamer) ∧
    (∀ generation s', generation ≠ s.streamer.generation →
      s.apply (.finish generation) = some s' → s' = { s with streamer := { s.streamer with
        streams := s.streamer.streams.filter (·.generation != generation) } } ∧ s'.live = s.live) ∧
    ∀ later s', s.streamer.isRunning → s.Run later s' →
      (∀ a ∈ later, a.ends s.streamer.generation = false) → SameStream s s' := by
  have htidy : s.streamer.Tidy := hr.tidy .new
  refine ⟨⟨htidy.interval.symm, ?_, htidy.interval.symm⟩, ⟨length_live_le htidy, ?_⟩, ?_,
    htidy.stop_of_idle, fun _ _ => live_finish htidy, fun _ _ hs hlater => hlater.keeps_stream hs⟩
  · rw [htidy.interval, htidy.task, Option.isSome_map]
  · intro x hx
    obtain ⟨hrun, hinterval, -⟩ := running_of_live htidy hx
    obtain ⟨hmem, hgo, -⟩ := mem_live.mp hx
    exact ⟨hrun, hinterval, by rw [htidy.task, (htidy.running x hmem hgo).1]; rfl⟩
  · intro hs runsTasks now interval connection
    rw [Streamer.request, if_pos hs]

/-- A stream that was stopped ends when the next one has been running for long. -/
theorem single_stream_late :
    let later : Streaming :=
      ⟨⟨2, some (.ofSeconds 1), some ⟨2, 7⟩, some 2, [⟨2, 7, .ofSeconds 1, false, .ofSeconds 9⟩]⟩,
        [], []⟩
    idle.Run [.start true .zero (.ofSeconds 5) 7, .stop, .start true (.ofSeconds 9) (.ofSeconds 1) 7,
      .finish 1] later ∧ later.live.length ≤ 1 ∧
      ∀ x ∈ later.live, later.streamer.isRunning ∧
        later.streamer.interval = some x.interval ∧ later.streamer.task = some x.generation := by
  intro later
  have hr : idle.Run [.start true .zero (.ofSeconds 5) 7, .stop,
      .start true (.ofSeconds 9) (.ofSeconds 1) 7, .finish 1] later :=
    .act (.act (.act (.act .start rfl) rfl) rfl) rfl
  exact ⟨hr, (single_stream hr).2.1⟩

end Streaming

end VirtualPrinter.Service
