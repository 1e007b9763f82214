import VirtualPrinter.Proofs.Service.Reader
import VirtualPrinter.Proofs.Service.Undisturbed

/-!
# The consumer of commands

What the consumer can do in one step, and what all other moves leave to it: the consumer alone takes
commands from their queue, and the reader alone puts commands in.  A connection that has been told to
shut down stays so, and its consumer begins with no command any more.

## Main definitions

* `Connection.started`, `Connection.consumed`, `Connection.responded`: the command that the consumer
  begins with, the line that it executes, and the frame that it gets into the send queue.
* `Connection.ConsumerStep`: what the consumer can do.
* `Connection.LeavesJobs`: what moves other than the consumer's and the reader's do to the commands.

## Main results

* `Connection.stepConsumer_cases`, `Connection.after_leavesJobs`: what a move does to the commands.
* `World.isCancelled_of_apply`: a shutdown is not taken back.
* `World.Run.started_eq_nil`: nothing is begun after a shutdown.
-/

namespace VirtualPrinter.Service

open Link (Pipe)
open Wire (CommandRequest Frame)

/-- The consumer is at a command. -/
def Consumer.isWorking : Consumer → Bool
  | .working _ => true
  | .absent | .listening | .done => false

/-- What the consumer has still to do before it looks for another command. -/
def Consumer.duty : Consumer → Duty
  | .working duty => duty
  | .absent | .listening | .done => .nothing

namespace Connection

/-- The command that the consumer begins with: it has been at none, and is at one after its step. -/
def started (c : Connection) : Move → Option CommandRequest
  | .consume here cancelled d =>
    match c.station.stepConsumer here cancelled d with
    | some (s, _) =>
      if s.consumer.isWorking && !c.station.consumer.isWorking then
        c.station.jobs.bind (·.items.head?)
      else none
    | none => none
  | _ => none

/-- The line that the consumer executes. -/
def consumed (c : Connection) : Move → Option (List Char)
  | .consume _ _ _ =>
    match c.station.consumer.duty with
    | ⟨none, _, line :: _, _⟩ => some line
    | _ => none
  | _ => none

/-- The frame that the consumer gets into the send queue. -/
def responded (c : Connection) : Move → Option Frame
  | .consume here cancelled d => c.accepted (.consume here cancelled d)
  | _ => none

namespace History

/-- The commands that the consumer has begun with, the first one first. -/
def started (h : History) : List CommandRequest := h.filterMap fun (c, m) => c.started m

/-- The lines that the consumer has executed. -/
def consumed (h : History) : List (List Char) := h.filterMap fun (c, m) => c.consumed m

/-- The frames that the consumer has got into the send queue. -/
def responses (h : History) : List Frame := h.filterMap fun (c, m) => c.responded m

variable (h k : History) (c : Connection) (m : Move)

@[simp] theorem started_append : started (h ++ k) = h.started ++ k.started :=
  List.filterMap_append

@[simp] theorem consumed_append : consumed (h ++ k) = h.consumed ++ k.consumed :=
  List.filterMap_append

@[simp] theorem responses_append : responses (h ++ k) = h.responses ++ k.responses :=
  List.filterMap_append

@[simp] theorem started_singleton : started [(c, m)] = (c.started m).toList := by
  simp [started, List.filterMap_cons]
  cases c.started m <;> rfl

@[simp] theorem consumed_singleton : consumed [(c, m)] = (c.consumed m).toList := by
  simp [consumed, List.filterMap_cons]
  cases c.consumed m <;> rfl

@[simp] theorem responses_singleton : responses [(c, m)] = (c.responded m).toList := by
  simp [responses, List.filterMap_cons]
  cases c.responded m <;> rfl

end History

variable {c c' : Connection} {here : Surroundings} {cancelled : Bool} {d d' : Device} {m : Move}
  {s : Station}

/-! ### The consumer's own moves -/

/-- What the consumer can do, with the command that it begins with, the line that it executes and the
frame that it gets into the send queue. -/
inductive ConsumerStep (c : Connection) (here : Surroundings) (cancelled : Bool) (d : Device) :
    Station → Device → Option CommandRequest → Option (List Char) → Option Frame → Prop
  /-- There is nothing more to do. -/
  | stop {jobs} (hc : c.station.consumer = .listening) (hj : c.station.jobs = some jobs)
    (he : cancelled ∨ jobs.take = .ended) :
    ConsumerStep c here cancelled d c.station.endConsumer d none none none
  | start {jobs r rest} (hc : c.station.consumer = .listening) (hj : c.station.jobs = some jobs)
    (ho : cancelled = false) (ht : jobs.take = .item r rest) :
    ConsumerStep c here cancelled d
      { c.station with jobs := some rest, consumer := .working (.ofRequest r) } d (some r) none none
  | finish {duty} (hc : c.station.consumer = .working duty) (hd : duty.reply = none)
    (hl : duty.lines = []) :
    ConsumerStep c here cancelled d { c.station with consumer := .listening } d none none none
  | fail {duty f} (hc : c.station.consumer = .working duty) (hd : duty.reply = some f)
    (hq : c.station.queue.receiving = false) :
    ConsumerStep c here cancelled d c.station.endConsumer d none none none
  | enter {duty f queue} (hc : c.station.consumer = .working duty) (hd : duty.reply = some f)
    (hq : duty.offered c.station.queue f = .entered queue) :
    ConsumerStep c here cancelled d
      { c.station with
        consumer := .working { duty with reply := none, waits := false }
        queue := queue } d none none (some f)
  /-- There is no room, and the consumer gets in line. -/
  | join {duty f} (hc : c.station.consumer = .working duty) (hd : duty.reply = some f)
    (hq : duty.offered c.station.queue f = .full) :
    ConsumerStep c here cancelled d
      { c.station with
        consumer := .working { duty with waits := true }
        queue := c.station.queue.joinLine } d none none none
  | execute {duty line rest} (hc : c.station.consumer = .working duty) (hd : duty.reply = none)
    (hl : duty.lines = line :: rest) :
    ConsumerStep c here cancelled d
      { c.station with
        consumer := .working
          ⟨Duty.answerFrame duty.device (d.execute here line).2, duty.device, rest, false⟩ }
      (d.execute here line).1 none (some line) none

theorem started_of_working {duty : Duty} (hc : c.station.consumer = .working duty) :
    c.started (.consume here cancelled d) = none := by
  simp only [started, hc, Consumer.isWorking, Bool.not_true, Bool.and_false, Bool.false_eq_true,
    if_false]
  split <;> rfl

theorem consumed_of_working {duty : Duty} (hc : c.station.consumer = .working duty) :
    c.consumed (.consume here cancelled d) =
      if duty.reply.isNone then duty.lines.head? else none := by
  obtain ⟨reply, device, lines, waits⟩ := duty
  simp only [consumed, hc, Consumer.duty]
  cases reply <;> cases lines <;> rfl

theorem responded_of_working {duty : Duty} (hc : c.station.consumer = .working duty) :
    c.responded (.consume here cancelled d) = duty.accepted c.station.queue := by
  simp only [responded, accepted, hc]

/-- What a listening consumer has to say for itself: the command that it begins with at most. -/
theorem silent_of_listening (here : Surroundings) (cancelled : Bool) (d : Device)
    (hc : c.station.consumer = .listening) :
    c.consumed (.consume here cancelled d) = none ∧
      c.responded (.consume here cancelled d) = none := by
  constructor
  · simp only [consumed, hc, Consumer.duty, Duty.nothing]
  · simp only [responded, accepted, hc]

theorem stepConsumer_cases (h : c.station.stepConsumer here cancelled d = some (s, d')) :
    c.ConsumerStep here cancelled d s d' (c.started (.consume here cancelled d))
      (c.consumed (.consume here cancelled d)) (c.responded (.consume here cancelled d)) := by
  cases hc : c.station.consumer with
  | absent | done => simp [Station.stepConsumer, hc] at h
  | listening =>
    obtain ⟨hconsumed, hresponded⟩ := silent_of_listening here cancelled d hc
    have hworking : Consumer.listening.isWorking = false := rfl
    have hstarted : c.started (.consume here cancelled d) =
        if s.consumer.isWorking then c.station.jobs.bind (·.items.head?) else none := by
      simp only [started, h, hc, hworking, Bool.not_false, Bool.and_true]
    rw [hconsumed, hresponded, hstarted]
    cases hj : c.station.jobs with
    | none => simp [Station.stepConsumer, hc, hj] at h
    | some jobs =>
      simp only [Station.stepConsumer, hc, hj] at h
      split at h
      · next ho =>
        cases h
        exact .stop hc hj (.inl ho)
      · next ho =>
        split at h
        · next r rest ht =>
          cases h
          have hhead : jobs.items.head? = some r := by
            rw [Pipe.items_take ht, List.head?_cons]
          simp only [Consumer.isWorking, if_true, Option.bind_some, hhead]
          exact .start hc hj (Bool.not_eq_true _ ▸ ho) ht
        · cases h
        · next ht =>
          cases h
          exact .stop hc hj (.inr ht)
  | working duty =>
    rw [started_of_working hc, consumed_of_working hc, responded_of_working hc]
    simp only [Station.stepConsumer, hc] at h
    cases hd : duty.reply with
    | some f =>
      rw [Duty.accepted_of_reply hd]
      rw [Duty.next_of_reply hd] at h
      -- the frame enters, or the queue has been closed, or there is no room
      cases ho : duty.offered c.station.queue f with
      | entered queue =>
        simp only [ho] at h
        cases h
        exact .enter hc hd ho
      | refused =>
        simp only [ho] at h
        cases h
        exact .fail hc hd (Duty.offered_eq_refused_iff.mp ho)
      | full =>
        simp only [ho] at h
        cases hw : duty.waits with
        | true => simp [hw] at h
        | false =>
          simp [hw] at h
          obtain ⟨rfl, rfl⟩ := h
          exact .join hc hd ho
    | none =>
      have hn : duty.accepted c.station.queue = none := by simp only [Duty.accepted, hd]
      rw [hn]
      cases hl : duty.lines with
      | nil =>
        rw [Duty.next_of_nothing hd hl] at h
        cases h
        exact .finish hc hd hl
      | cons line rest =>
        rw [Duty.next_of_line hd hl] at h
        cases h
        exact .execute hc hd hl

/-- A consumer does not take a shutdown back. -/
theorem ConsumerStep.cancelled_eq {r : Option CommandRequest} {line : Option (List Char)}
    {f : Option Frame} (h : c.ConsumerStep here cancelled d s d' r line f) :
    s.cancelled = c.station.cancelled := by
  cases h <;> rfl

/-- Nothing is begun on a connection that has been told to shut down. -/
theorem started_of_cancelled : c.started (.consume here true d) = none := by
  cases hs : c.station.stepConsumer here true d with
  | none => simp only [started, hs]
  | some r =>
    obtain ⟨s, d'⟩ := r
    have h := stepConsumer_cases hs
    generalize c.started (.consume here true d) = r at h ⊢
    generalize c.consumed (.consume here true d) = line at h
    generalize c.responded (.consume here true d) = f at h
    cases h with
    | start hc hj ho => cases ho
    | stop | finish | fail | enter | join | execute => rfl

/-! ### All other moves -/

/-- A move has left the commands and their consumer alone. -/
structure LeavesJobs (c c' : Connection) : Prop where
  jobs : c'.station.jobs = c.station.jobs
  consumer : c'.station.consumer = c.station.consumer

/-- Moves of neither the reader nor the consumer leave the commands alone. -/
theorem after_leavesJobs (hr : ∀ here cancelled d, m ≠ .read here cancelled d)
    (hc : ∀ here cancelled d, m ≠ .consume here cancelled d) (h : c.after m = some c') :
    c.LeavesJobs c' := by
  cases m with
  | read here cancelled d => exact absurd rfl (hr here cancelled d)
  | consume here cancelled d => exact absurd rfl (hc here cancelled d)
  | write cancelled =>
    obtain ⟨text, failed, hstep⟩ := exists_writerStep h
    cases hstep <;> exact ⟨rfl, rfl⟩
  | watch now cancelled =>
    cases stepWatch_cases h <;> exact ⟨rfl, rfl⟩
  | offer f =>
    simp only [after] at h
    split at h
    · next ht =>
      cases h
      rw [(Station.tryEnqueue_fed ht).1]
      exact ⟨rfl, rfl⟩
    · cases h
      exact ⟨rfl, rfl⟩
  | joinLine | offerInLine f | deliver | hear text =>
    simp only [after] at h
    split at h <;> cases h
    exact ⟨rfl, rfl⟩
  | supervise | cancel | leaveLine | hangUp | idle =>
    cases h
    exact ⟨rfl, rfl⟩

theorem started_eq_none (hm : ∀ here cancelled d, m ≠ .consume here cancelled d) :
    c.started m = none := by
  cases m with
  | consume here cancelled d => exact absurd rfl (hm here cancelled d)
  | _ => rfl

theorem consumed_eq_none (hm : ∀ here cancelled d, m ≠ .consume here cancelled d) :
    c.consumed m = none := by
  cases m with
  | consume here cancelled d => exact absurd rfl (hm here cancelled d)
  | _ => rfl

theorem responded_eq_none (hm : ∀ here cancelled d, m ≠ .consume here cancelled d) :
    c.responded m = none := by
  cases m with
  | consume here cancelled d => exact absurd rfl (hm here cancelled d)
  | _ => rfl

end Connection

/-! ### A shutdown is not taken back -/

theorem Station.submit_cancelled {st st' : Station} {r : CommandRequest}
    (h : st.submit r = some (.ok st')) : st'.cancelled = st.cancelled := by
  obtain ⟨jobs, -, h⟩ := Option.map_eq_some_iff.mp h
  split at h <;> cases h
  rfl

theorem Station.receive_cancelled (st : Station) (d : Device) (e : Wire.Event)
    (hc : st.cancelled) : (st.receive d e).1.cancelled := by
  unfold receive
  split <;> try exact hc
  · unfold receiveCommand
    split
    · exact hc
    · split
      · exact hc
      · split
        · exact hc
        · next h => exact (submit_cancelled h).trans hc
        · exact hc
        · exact hc
  · rfl

namespace Connection

variable {c c' : Connection} {m : Move}

theorem heard_cancelled (c : Connection) (d : Device) (x : Heard) (hc : c.station.cancelled) :
    (c.heard d x).station.cancelled := by
  cases x with
  | event e =>
    have h := c.station.receive_cancelled d e hc
    unfold heard
    dsimp only
    split
    · next hr =>
      rw [hr] at h
      exact h
    · rfl
    · next hr =>
      rw [hr] at h
      exact h
  | ending => rfl
  | nothing | handshake | ping => exact hc

theorem ReaderStep.cancelled {here : Surroundings} {cancelled : Bool} {d d' : Device}
    {f : Option Frame} {e : Option Surroundings}
    (h : c.ReaderStep here cancelled d c' d' f e) (hc : c.station.cancelled) :
    c'.station.cancelled := by
  cases h with
  | stop | fail => rfl
  | hear => exact heard_cancelled _ d _ hc
  | finish | enter | join | execute => exact hc

/-- A connection that has told itself to shut down stays so, and whoever may shut it down from outside
stays the same. -/
theorem after_shutdown (h : c.after m = some c') :
    (c.station.cancelled → c'.station.cancelled) ∧ c'.parent = c.parent := by
  cases m with
  | read here cancelled d =>
    obtain ⟨⟨c₁, d₁⟩, hs, rfl⟩ := Option.map_eq_some_iff.mp h
    have hstep := stepReader_cases hs
    exact ⟨hstep.cancelled, hstep.parent⟩
  | consume here cancelled d =>
    obtain ⟨⟨s, d₁⟩, hs, rfl⟩ := Option.map_eq_some_iff.mp h
    exact ⟨fun hc => (stepConsumer_cases hs).cancelled_eq.trans hc, rfl⟩
  | write cancelled =>
    obtain ⟨text, failed, hstep⟩ := exists_writerStep h
    cases hstep with
    | farewell | fail => exact ⟨fun _ => rfl, rfl⟩
    | close | take | draw | part | send | flush | failFlush => exact ⟨id, rfl⟩
  | watch now cancelled =>
    cases stepWatch_cases h with
    | giveUp => exact ⟨fun _ => rfl, rfl⟩
    | stop | begin | leave | goOn => exact ⟨id, rfl⟩
  | offer f =>
    simp only [after] at h
    split at h
    · next ht =>
      cases h
      rw [(Station.tryEnqueue_fed ht).1]
      exact ⟨id, rfl⟩
    · cases h
      exact ⟨id, rfl⟩
  | joinLine | offerInLine f | deliver | hear text =>
    simp only [after] at h
    split at h <;> cases h
    exact ⟨id, rfl⟩
  | cancel =>
    cases h
    exact ⟨fun _ => rfl, rfl⟩
  | supervise | leaveLine | hangUp | idle =>
    cases h
    exact ⟨id, rfl⟩

end Connection

namespace World

variable {w w' : World} {id : Nat} {c c' : Connection} {a : Act} {h : History}

/-- No task orders a shutdown from outside. -/
theorem ordered_of_next {t : Task} (h : w.next t = some w') : w'.ordered = w.ordered := by
  cases t with
  | stream generation =>
    simp only [next, stepStream] at h
    split at h
    · cases h
    · split at h
      · cases h
        rfl
      · split at h
        · cases h
          rfl
        · split at h <;> cases h
          unfold report
          split <;> rfl
  | supervisor i =>
    obtain ⟨c, -, h⟩ := Option.bind_eq_some_iff.mp h
    unfold stepSupervisor at h
    split at h <;> cases h
    rfl
  | consumer i | writer i | reader i | watch i =>
    obtain ⟨c, -, h⟩ := Option.bind_eq_some_iff.mp h
    obtain ⟨r, -, rfl⟩ := Option.map_eq_some_iff.mp h
    rfl

/-- Orders to shut down are not taken back. -/
theorem ordered_of_apply (ha : w.apply a = some w') : w.ordered ⊆ w'.ordered := by
  cases hq : a.isQuiet with
  | true => rw [(apply_of_isQuiet hq ha).2]; exact List.Subset.refl _
  | false =>
    cases a with
    | step t => rw [ordered_of_next ha]; exact List.Subset.refl _
    | establish config parent link =>
      obtain ⟨link', device, -, -, rfl⟩ := establish_eq_ok (Establishment.toOption_eq_some_iff.mp ha)
      exact List.Subset.refl _
    | close i =>
      cases ha
      unfold close
      split <;> exact List.Subset.refl _
    | order parent =>
      cases ha
      exact List.subset_cons_self _ _
    | instruct line | change d =>
      cases ha
      exact List.Subset.refl _
    | offer | joinLine | offerInLine | leaveLine | peerWrite | peerTake | dropPeer | pass => cases hq

/-- A connection that has been shut down stays so. -/
theorem isCancelled_of_apply (ha : w.apply a = some w') (hc : w.connections[id]? = some c)
    (hc' : w'.connections[id]? = some c') (hcan : w.isCancelled c) : w'.isCancelled c' := by
  obtain ⟨c₁, hm, hc₁⟩ := apply_connection ha hc
  obtain rfl : c₁ = c' := Option.some.inj (hc₁.symm.trans hc')
  obtain ⟨hown, hparent⟩ := Connection.after_shutdown hm
  rw [isCancelled, Bool.or_eq_true] at hcan ⊢
  -- a shutdown of its own stays, and an order to its parent is not taken back
  refine hcan.imp hown fun hp => ?_
  rw [hparent]
  obtain ⟨p, hp, hin⟩ := (Option.any_eq_true _ _).mp hp
  refine (Option.any_eq_true _ _).mpr ⟨p, hp, ?_⟩
  rw [List.contains_iff_mem] at hin ⊢
  exact ordered_of_apply ha hin

theorem isClosed_of_run (hr : w.Run h w') (hc : w.connections[id]? = some c)
    (hw : w.isClosed id) : w'.isClosed id := by
  induction hr with
  | start => exact hw
  | act hr ha ih =>
    obtain ⟨c₁, hc₁, -⟩ := hr.moves hc
    obtain ⟨c₂, -, hc₂⟩ := apply_connection ha hc₁
    rw [isClosed_eq hc₁] at ih
    rw [isClosed_eq hc₂]
    exact isCancelled_of_apply ha hc₁ hc₂ ih

/-- **After a shutdown the consumer begins with no command.** -/
theorem Run.started_eq_nil (hr : w.Run h w') (hc : w.connections[id]? = some c)
    (hw : w.isClosed id) : (h.moves id).started = [] := by
  induction hr with
  | start => rfl
  | @act h w₁ w₂ a hr ha ih =>
    obtain ⟨c₁, hc₁, -⟩ := hr.moves hc
    have hcan : w₁.isCancelled c₁ := by
      rw [← isClosed_eq hc₁]
      exact isClosed_of_run hr hc hw
    rw [History.moves_snoc h hc₁, Connection.History.started_append, ih, List.nil_append,
      Connection.History.started_singleton]
    cases hm : w₁.moveOf id c₁ a with
    | consume here cancelled d =>
      obtain ⟨-, -, rfl, -⟩ := moveOf_eq_consume hm
      rw [hcan, Connection.started_of_cancelled, Option.toList_none]
    | _ => rfl

end World

end VirtualPrinter.Service
