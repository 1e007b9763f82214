import VirtualPrinter.Proofs.Service.Consumer
import VirtualPrinter.Proofs.Service.Hearing
import VirtualPrinter.Proofs.Service.Reading

/-!
# Queued commands amount to commands at once

Where commands are queued, the reader puts them in line and the consumer works them off, while the
reader goes on.  However the two take turns, and whatever the other tasks, the application and the
peer do to the connection in the meantime, the consumer executes the commands that have found room,
each once and in the order of arrival, and what it enqueues and does to the printer is what executing
them at once would have enqueued and done.

## Main definitions

* `Connection.Answers`, `Connection.Works`: what holds of the reader and of the consumer as long as
  the connection has not shut down.
* `World.History.Untouched`: nobody but these two has changed the printer.
* `Connection.Refines`: what is promised about queued commands.

## Main results

* `Answers.read`, `Works.consume`: every step of the two keeps it.
* `World.queued_refines_inline`: so every run does.
-/

namespace VirtualPrinter.Service

open Link (Memory Pipe memoryCapacity)
open Wire (CommandRequest Frame)

namespace Connection

/-- The commands that wait for the consumer. -/
def backlog (c : Connection) : List CommandRequest := c.station.jobs.elim [] (·.items)

/-- What holds of the reader: it takes the texts in the order of arrival, and enqueues what the peer
is owed for each of them. -/
structure Answers (clock : Nat → Surroundings) (d₀ : Device) (sent : List String)
    (hearings : List Hearing) (replies : List Frame) (c : Connection) : Prop where
  reader : c.reader ≠ .done
  lines : c.duty.lines = []
  texts : hearings.map (·.text) ++ c.link.toClient.items = sent
  replies : replies ++ c.duty.reply.toList = hearings.flatMap (Hearing.due clock)
  id : ∀ x ∈ hearings, x.device.id = d₀.id

/-- What holds of the consumer: it works off the accepted commands in their order, and what it has
done, with what is left of its command, amounts to the commands that it has begun with. -/
structure Works (clock : Nat → Surroundings) (d₀ : Device) (accepted started : List CommandRequest)
    (consumed : List (List Char)) (responses : List Frame) (d : Device) (c : Connection) : Prop where
  jobs : ∃ jobs, c.station.jobs = some jobs ∧ jobs.sending ∧ jobs.receiving ∧
    accepted = started ++ jobs.items
  consumer : c.station.consumer = .listening ∨ c.station.consumer.isWorking
  id : d.id = d₀.id
  consumed : consumed ++ c.station.consumer.duty.lines = started.flatMap (·.lines)
  amounts : (started.foldl (Served.obey clock) ⟨d₀, none, [], 0, false⟩).Akin
    (Served.settle clock ⟨d, none, responses, 0, false⟩ c.station.consumer.duty)

variable {clock : Nat → Surroundings} {d₀ d d' : Device} {sent : List String}
  {hearings : List Hearing} {replies responses : List Frame}
  {accepted started : List CommandRequest} {consumed : List (List Char)} {c c' : Connection}
  {here : Surroundings}

/-! ### The reader -/

/-- The reader goes on with what it has taken so far. -/
theorem Answers.advance {replies' : List Frame} (ha : Answers clock d₀ sent hearings replies c)
    (hr : c'.reader ≠ .done) (hl : c'.duty.lines = [])
    (hi : c'.link.toClient.items = c.link.toClient.items)
    (hd : replies' ++ c'.duty.reply.toList = replies ++ c.duty.reply.toList) :
    Answers clock d₀ sent hearings replies' c' :=
  ⟨hr, hl, hi ▸ ha.texts, hd.trans ha.replies, ha.id⟩

/-- A text that has come in is owed something. -/
theorem Answers.hear {jobs : Pipe CommandRequest} {x : Hearing} {rest : List String}
    (ha : Answers clock d₀ sent hearings replies c) (hr : c.reader = .listening)
    (hi : c.link.toClient.items = x.text :: rest) (hid : x.device.id = d₀.id) {c₁ : Connection}
    (ht : c₁.Takes c' jobs x.accepted? (x.due clock)) (hl : c₁.link.toClient.items = rest) :
    Answers clock d₀ sent (hearings ++ [x]) replies c' where
  reader := ht.reader
  lines := ht.lines
  texts := by
    rw [ht.link, hl, List.map_append, List.append_assoc, ← ha.texts, hi]
    rfl
  replies := by
    have hnone := ha.replies
    rw [duty_of_listening hr] at hnone
    rw [ht.reply, List.flatMap_append, ← hnone, List.flatMap_singleton]
    exact congrArg (· ++ x.due clock) (List.append_nil _).symm
  id := by
    intro y hy
    rcases List.mem_append.mp hy with hy | hy
    · exact ha.id y hy
    · rw [List.mem_singleton.mp hy, hid]

/-- A command that has been accepted waits for the consumer. -/
theorem Works.submit {jobs : Pipe CommandRequest} {x : Option CommandRequest} {due : List Frame}
    (hw : Works clock d₀ accepted started consumed responses d c) (hj : c.station.jobs = some jobs)
    {c₁ : Connection} (ht : c₁.Takes c' jobs x due)
    (hc : c₁.station.consumer = c.station.consumer) :
    Works clock d₀ (accepted ++ x.toList) started consumed responses d c' := by
  obtain ⟨jobs', hj', hs, ho, haccepted⟩ := hw.jobs
  obtain rfl : jobs' = jobs := Option.some.inj (hj'.symm.trans hj)
  have hconsumer : c'.station.consumer = c.station.consumer := ht.consumer.trans hc
  exact {
    jobs := ⟨_, ht.jobs, hs, ho, by rw [haccepted, List.append_assoc]⟩
    consumer := hconsumer ▸ hw.consumer
    id := hw.id
    consumed := hconsumer ▸ hw.consumed
    amounts := hconsumer ▸ hw.amounts }

/-! ### The consumer -/

/-- The consumer's affairs stay as they are. -/
theorem Works.of_leavesJobs (hw : Works clock d₀ accepted started consumed responses d c)
    (hl : c.LeavesJobs c') (hclock : ∀ k, (clock k).runsTasks) (hd : d.Akin d') :
    Works clock d₀ accepted started consumed responses d' c' := by
  have hshown : (⟨d, none, responses, 0, false⟩ : Served).Akin ⟨d', none, responses, 0, false⟩ :=
    ⟨hd, rfl⟩
  exact {
    jobs := hl.jobs ▸ hw.jobs
    consumer := hl.consumer ▸ hw.consumer
    id := hd.id.symm.trans hw.id
    consumed := hl.consumer ▸ hw.consumed
    amounts := by
      rw [hl.consumer]
      exact hw.amounts.trans (hshown.settle hclock hclock c.station.consumer.duty) }

/-- The consumer goes on with its command. -/
theorem Works.advance {s : Station} {consumed' : List (List Char)} {responses' : List Frame}
    (hw : Works clock d₀ accepted started consumed responses d c) (hj : s.jobs = c.station.jobs)
    (hc : s.consumer = .listening ∨ s.consumer.isWorking) (hid : d'.id = d.id)
    (hl : consumed' ++ s.consumer.duty.lines = consumed ++ c.station.consumer.duty.lines)
    (hs : (Served.settle clock ⟨d, none, responses, 0, false⟩ c.station.consumer.duty).Akin
      (Served.settle clock ⟨d', none, responses', 0, false⟩ s.consumer.duty)) :
    Works clock d₀ accepted started consumed' responses' d' { c with station := s } where
  jobs := hj ▸ hw.jobs
  consumer := hc
  id := hid.trans hw.id
  consumed := hl.trans hw.consumed
  amounts := hw.amounts.trans hs

/-- A step of the consumer keeps what holds of it. -/
theorem Works.consume {s : Station} {r : Option CommandRequest} {line : Option (List Char)}
    {f : Option Frame} (hw : Works clock d₀ accepted started consumed responses d c)
    (hclock : ∀ k, (clock k).runsTasks) (hr : here.runsTasks)
    (ho : c.station.queue.receiving) (h : c.ConsumerStep here false d s d' r line f) :
    Works clock d₀ accepted (started ++ r.toList) (consumed ++ line.toList)
      (responses ++ f.toList) d' { c with station := s } := by
  have hduty {duty : Duty} (hc : c.station.consumer = .working duty) :
      c.station.consumer.duty = duty := by rw [hc, Consumer.duty]
  cases h with
  | stop hc hj he =>
    -- the queue of commands ends only with the reader
    obtain ⟨jobs, hj', hsending, -⟩ := hw.jobs
    obtain rfl := Option.some.inj (hj'.symm.trans hj)
    have hended := Pipe.sending_eq_false_of_take (he.resolve_left (by simp))
    simp [hsending] at hended
  | fail hc hd hq => simp [ho] at hq
  | @start jobs r rest hc hj _ ht =>
    obtain ⟨jobs', hj', hsending, hreceiving, haccepted⟩ := hw.jobs
    obtain rfl : jobs' = jobs := Option.some.inj (hj'.symm.trans hj)
    -- nothing was left of the command before, so its affairs are settled
    have hnothing : c.station.consumer.duty = .nothing := by rw [hc, Consumer.duty]
    have hconsumed := hw.consumed
    have hamounts := hw.amounts
    rw [hnothing] at hconsumed hamounts
    obtain ⟨hitems, hrest⟩ := Pipe.take_eq_item_iff.mp ht
    rw [Option.toList_none, List.append_nil, Option.toList_none, List.append_nil]
    exact {
      jobs := ⟨rest, rfl, by rw [hrest, hsending], by rw [hrest, hreceiving], by
        rw [haccepted, hitems, Option.toList_some, List.append_assoc]
        rfl⟩
      consumer := .inr rfl
      id := hw.id
      consumed := by
        rw [Option.toList_some, List.flatMap_append, ← hconsumed, List.flatMap_singleton]
        exact congrArg (· ++ r.lines) (List.append_nil consumed).symm
      amounts := by
        rw [Option.toList_some, List.foldl_append]
        exact hamounts.obey hclock hclock r }
  | @finish duty hc hd hl =>
    simp only [Option.toList_none, List.append_nil]
    refine hw.advance rfl (.inl rfl) rfl ?_ ?_
    · rw [hduty hc, hl]
      rfl
    · rw [hduty hc, Served.settle_of_done clock _ hd hl]
      exact .refl _
  | @enter duty f queue hc hd hq =>
    simp only [Option.toList_none, List.append_nil]
    refine hw.advance rfl (.inr rfl) rfl (by rw [hduty hc]; rfl) ?_
    rw [hduty hc, Served.settle_of_reply clock _ hd]
    exact .refl _
  | @join duty f hc hd hq =>
    simp only [Option.toList_none, List.append_nil]
    refine hw.advance rfl (.inr rfl) rfl (by rw [hduty hc]; rfl) ?_
    rw [hduty hc]
    exact .refl _
  | @execute duty line rest hc hd hl =>
    simp only [Option.toList_none, List.append_nil]
    refine hw.advance rfl (.inr rfl) (Device.execute_id _ _ _) ?_ ?_
    · rw [hduty hc, hl, List.append_assoc]
      rfl
    · -- the line has been executed at the time of this step, not at that of the clock
      rw [hduty hc]
      have hback := Served.settle_answer_akin clock hclock hr ⟨d, none, responses, 0, false⟩
        duty.device line rest
      have hsettle : Served.settle clock ⟨d, none, responses, 0, false⟩ duty =
          (line :: rest).foldl (Served.interpret clock duty.device)
            ⟨d, none, responses, 0, false⟩ := by
        simp only [Served.settle, hd, hl]
      rw [hsettle]
      exact hback.symm

/-! ### Both of them -/

/-- What holds as long as the connection has not shut down. -/
structure Queues (clock : Nat → Surroundings) (d₀ : Device) (before : List String) (h : History)
    (d : Device) (c : Connection) : Prop where
  answers : Answers clock d₀ (before ++ h.heardTexts) h.hearings h.replies c
  works : Works clock d₀ (h.hearings.filterMap Hearing.accepted?) h.started h.consumed h.responses
    d c
  /-- The writer closes the send queue only for a shutdown. -/
  writing : ¬c.writer.IsClosing

variable {before : List String} {h : History}

/-- The consumer's step is nothing to the reader. -/
theorem Queues.consume {s : Station} (hq : Queues clock d₀ before h d c) (hs : c.Sound)
    (hclock : ∀ k, (clock k).runsTasks) (hr : here.runsTasks)
    (hstep : c.station.stepConsumer here false d = some (s, d')) :
    Queues clock d₀ before (h ++ [(c, .consume here false d)]) d' { c with station := s } := by
  have ho : c.station.queue.receiving := by
    cases ho : c.station.queue.receiving with
    | true => rfl
    | false => exact absurd (hs.closed.mp ho) hq.writing
  have hhearing : c.hearing (.consume here false d) = none := rfl
  have hreplied : c.replied (.consume here false d) = none := rfl
  have hheard : c.heardText (.consume here false d) = none := rfl
  constructor
  · simp only [History.heardTexts_append, History.hearings_append, History.replies_append,
      History.heardTexts_singleton, History.hearings_singleton, History.replies_singleton,
      hhearing, hreplied, hheard, Option.toList_none, List.append_nil]
    exact { hq.answers with }
  · simp only [History.hearings_append, History.hearings_singleton, History.started_append,
      History.started_singleton, History.consumed_append, History.consumed_singleton,
      History.responses_append, History.responses_singleton, hhearing, Option.toList_none,
      List.append_nil]
    exact hq.works.consume hclock hr ho (stepConsumer_cases hstep)
  · exact hq.writing

/-- A reader at an answer takes no text. -/
theorem hearing_of_working {duty : Duty} (hr : c.reader = .working duty) (here : Surroundings)
    (cancelled : Bool) (d : Device) : c.hearing (.read here cancelled d) = none := by
  cases cancelled <;> simp only [hearing, hr]

/-- A step of the reader, with what it does to both sides, keeps what holds of them. -/
theorem Queues.of_readerStep {f : Option Frame} {e : Option Surroundings}
    (hq : Queues clock d₀ before h d c) (hclock : ∀ k, (clock k).runsTasks)
    (hstep : c.ReaderStep here false d c' d' f e) (hcan : c'.station.cancelled = false) :
    Answers clock d₀ (before ++ h.heardTexts)
      (h.hearings ++ (c.hearing (.read here false d)).toList) (h.replies ++ f.toList) c' ∧
    Works clock d₀
      ((h.hearings ++ (c.hearing (.read here false d)).toList).filterMap Hearing.accepted?)
      h.started h.consumed h.responses d' c' := by
  obtain ⟨jobs, hj, -, ho, -⟩ := hq.works.jobs
  cases hstep with
  | stop => simp [endReader] at hcan
  | fail => simp [endReader] at hcan
  | @hear text pipe hr _ ht =>
    have hx : c.hearing (.read here false d) = some ⟨text, d, !jobs.isFull⟩ := by
      simp only [hearing, hr, ht, hj, Option.any_some, ho, Bool.true_and]
    have htakes := (heard_takes (c := { c with
      link := c.link.withToClient pipe, session := c.session.touch }) hr hj ho clock d
        text).resolve_left (by simp [hcan])
    rw [hx, Option.toList_some, Option.toList_none, List.append_nil, List.filterMap_append]
    constructor
    · exact hq.answers.hear (x := ⟨text, d, !jobs.isFull⟩) hr (Pipe.items_take ht) hq.works.id
        htakes rfl
    · have hsingle (x : Hearing) : [x].filterMap Hearing.accepted? = x.accepted?.toList := by
        cases hx : x.accepted? <;> simp [hx]
      rw [hsingle]
      exact hq.works.submit hj htakes rfl
  | @finish duty hr hd hl =>
    rw [hearing_of_working hr]
    simp only [Option.toList_none, List.append_nil]
    refine ⟨hq.answers.advance (by simp) rfl rfl ?_, hq.works.of_leavesJobs ⟨rfl, rfl⟩ hclock (.refl d)⟩
    rw [duty_of_working hr, hd]
    rfl
  | @enter duty f queue hr hd hput =>
    have hlines := hq.answers.lines
    rw [duty_of_working hr] at hlines
    rw [hearing_of_working hr]
    simp only [Option.toList_none, Option.toList_some, List.append_nil]
    refine ⟨hq.answers.advance (by simp) hlines rfl ?_,
      hq.works.of_leavesJobs ⟨rfl, rfl⟩ hclock (.refl d)⟩
    rw [duty_of_working hr, hd]
    exact List.append_nil _
  | @join duty f hr hd hput =>
    have hlines := hq.answers.lines
    rw [duty_of_working hr] at hlines
    rw [hearing_of_working hr]
    simp only [Option.toList_none, List.append_nil]
    refine ⟨hq.answers.advance (by simp) hlines rfl ?_,
      hq.works.of_leavesJobs ⟨rfl, rfl⟩ hclock (.refl d)⟩
    rw [duty_of_working hr]
    rfl
  | execute hr hd hl =>
    -- where commands are queued, no line is left to the reader
    have hlines := hq.answers.lines
    rw [duty_of_working hr, hl] at hlines
    cases hlines

/-- A step of the reader keeps what holds as long as the connection has not shut down. -/
theorem Queues.read (hq : Queues clock d₀ before h d c) (hclock : ∀ k, (clock k).runsTasks)
    (hstep : c.stepReader here false d = some (c', d')) (hcan : c'.station.cancelled = false) :
    Queues clock d₀ before (h ++ [(c, .read here false d)]) d' c' := by
  obtain ⟨hanswers, hworks⟩ := hq.of_readerStep hclock (stepReader_cases hstep) hcan
  have hheard : c.heardText (.read here false d) = none := rfl
  have hstarted : c.started (.read here false d) = none := rfl
  have hconsumed : c.consumed (.read here false d) = none := rfl
  have hresponded : c.responded (.read here false d) = none := rfl
  constructor
  · simpa only [History.heardTexts_append, History.hearings_append, History.replies_append,
      History.heardTexts_singleton, History.hearings_singleton, History.replies_singleton, hheard,
      Option.toList_none, List.append_nil] using hanswers
  · simpa only [History.hearings_append, History.hearings_singleton, History.started_append,
      History.started_singleton, History.consumed_append, History.consumed_singleton,
      History.responses_append, History.responses_singleton, hstarted, hconsumed, hresponded,
      Option.toList_none, List.append_nil] using hworks
  · rw [(stepReader_leavesWriter hstep).writer]
    exact hq.writing

/-- So does every other move that leaves the printer alone. -/
theorem Queues.of_other {m : Move} (hq : Queues clock d₀ before h d c)
    (hclock : ∀ k, (clock k).runsTasks) (hr : ∀ here cancelled d, m ≠ .read here cancelled d)
    (hc : ∀ here cancelled d, m ≠ .consume here cancelled d) (hm : c.after m = some c')
    (hd : d.Akin d') (hw : ¬c'.writer.IsClosing) :
    Queues clock d₀ before (h ++ [(c, m)]) d' c' := by
  have hl := after_leavesReader hr hm
  have hhearing : c.hearing m = none := by
    cases m with
    | read here cancelled d => exact absurd rfl (hr here cancelled d)
    | _ => rfl
  have hduty : c'.duty = c.duty := by simp only [duty, hl.reader]
  constructor
  · simp only [History.heardTexts_append, History.hearings_append, History.replies_append,
      History.heardTexts_singleton, History.hearings_singleton, History.replies_singleton,
      hhearing, replied_eq_none hr, Option.toList_none, List.append_nil]
    have ha := hq.answers
    refine ⟨by rw [hl.reader]; exact ha.reader, by rw [hduty]; exact ha.lines, ?_,
      by rw [hduty]; exact ha.replies, ha.id⟩
    -- the text goes behind those on the way
    rw [hl.items, ← List.append_assoc, ha.texts, List.append_assoc]
  · simp only [History.hearings_append, History.hearings_singleton, History.started_append,
      History.started_singleton, History.consumed_append, History.consumed_singleton,
      History.responses_append, History.responses_singleton, hhearing, started_eq_none hc,
      consumed_eq_none hc, responded_eq_none hc, Option.toList_none, List.append_nil]
    exact hq.works.of_leavesJobs (after_leavesJobs hr hc hm) hclock hd
  · exact hw

/-! ### What it amounts to -/

/-- What the accepted commands amount to where commands are executed at once. -/
def History.atOnce (clock : Nat → Surroundings) (d₀ : Device) (h : History) : Served :=
  ((h.hearings.filter fun x => x.accepted?.isSome).map (·.text)).foldl (Served.hear clock)
    ⟨d₀, none, [], 0, false⟩

/-- What is promised about queued commands, `before` being the texts that had been sent when the
connection was made. -/
structure Refines (clock : Nat → Surroundings) (d₀ : Device) (before : List String) (h : History)
    (d : Device) (c : Connection) : Prop where
  /-- The reader takes the texts in the order of arrival. -/
  arrival : h.hearings.map (·.text) ++ c.link.toClient.items = before ++ h.heardTexts
  /-- It enqueues what the peer is owed for each of them, and nothing else: an error for a command
  that has found no room. -/
  owed : h.replies ++ c.duty.reply.toList = h.hearings.flatMap (Hearing.due clock)
  /-- The consumer begins with the commands that have found room, each once and in their order. -/
  order : h.started ++ c.backlog = h.hearings.filterMap Hearing.accepted?
  /-- It executes their lines, each once and in their order. -/
  lines : h.consumed ++ c.station.consumer.duty.lines = h.started.flatMap (·.lines)
  /-- What it enqueues is what executing the accepted commands at once would enqueue, up to here. -/
  responses : h.responses <+: (h.atOnce clock d₀).frames
  /-- When nothing is left to it, it has done everything that this would have done. -/
  drained : c.station.consumer = .listening → c.backlog = [] →
    h.responses = (h.atOnce clock d₀).frames ∧ (h.atOnce clock d₀).device.state.Akin d.state

theorem Works.backlog_eq (hw : Works clock d₀ accepted started consumed responses d c) :
    accepted = started ++ c.backlog := by
  obtain ⟨jobs, hj, -, -, haccepted⟩ := hw.jobs
  rw [haccepted, backlog, hj, Option.elim_some]

/-- What has been enqueued for the commands is a beginning of what they amount to. -/
theorem Works.responses_prefix (hw : Works clock d₀ accepted started consumed responses d c) :
    responses <+: (accepted.foldl (Served.obey clock) ⟨d₀, none, [], 0, false⟩).frames := by
  -- the frames so far, then those of the command at work, then those of the commands in line
  have hsettle := Served.frames_settle clock ⟨d, none, responses, 0, false⟩
    c.station.consumer.duty
  rw [← hw.amounts.frames] at hsettle
  rw [hw.backlog_eq, List.foldl_append]
  exact ((List.prefix_append _ _).trans hsettle).trans (Served.frames_foldl_obey clock _ _)

/-- A consumer to which nothing is left has done what the commands amount to. -/
theorem Works.drained (hw : Works clock d₀ accepted started consumed responses d c)
    (hc : c.station.consumer = .listening) (hb : c.backlog = []) :
    (accepted.foldl (Served.obey clock) ⟨d₀, none, [], 0, false⟩).Akin
      ⟨d, none, responses, 0, false⟩ := by
  have hamounts := hw.amounts
  have hnothing : c.station.consumer.duty = .nothing := by rw [hc, Consumer.duty]
  rw [hw.backlog_eq, hb, List.append_nil]
  rwa [hnothing, Served.settle_nothing] at hamounts

/-- What holds as long as the connection has not shut down is what is promised. -/
theorem Queues.refines (hq : Queues clock d₀ before h d c) :
    Refines clock d₀ before h d c := by
  have hatOnce : h.atOnce clock d₀ =
      (h.hearings.filterMap Hearing.accepted?).foldl (Served.obey clock)
        ⟨d₀, none, [], 0, false⟩ :=
    Served.foldl_hear_accepted rfl hq.answers.id
  refine ⟨hq.answers.texts, hq.answers.replies, hq.works.backlog_eq.symm, hq.works.consumed, ?_, ?_⟩
  · rw [hatOnce]
    exact hq.works.responses_prefix
  · intro hc hb
    have hdrained := hq.works.drained hc hb
    rw [hatOnce]
    exact ⟨hdrained.frames.symm, hdrained.device.state⟩

end Connection

namespace World

variable {w w' : World} {id : Nat} {c c' : Connection} {a : Act} {clock : Nat → Surroundings}
  {d₀ : Device} {before : List String} {h : History}

/-- Nobody but the reader and the consumer of a connection changes the printer, apart from its
reports. -/
def History.Untouched (h : History) (id : Nat) : Prop :=
  ∀ p ∈ h, p.2 ≠ .step (.reader id) → p.2 ≠ .step (.consumer id) →
    ∀ w', p.1.apply p.2 = some w' → p.1.device.Alike w'.device

/-- Every act keeps what holds as long as the connection has not shut down. -/
theorem queues_apply {k : Connection.History} (hclock : ∀ k, (clock k).runsTasks)
    (ha : w.apply a = some w')
    (hd : a ≠ .step (.reader id) → a ≠ .step (.consumer id) → w.device.Alike w'.device)
    (hc : w.connections[id]? = some c) (hc' : w'.connections[id]? = some c') (hs : c.Sound)
    (hcan' : w'.isCancelled c' = false) (hq : Connection.Queues clock d₀ before k w.device c) :
    Connection.Queues clock d₀ before (k ++ [(c, w.moveOf id c a)]) w'.device c' := by
  obtain ⟨c₁, hm, hc₁⟩ := apply_connection ha hc
  obtain rfl : c₁ = c' := Option.some.inj (hc₁.symm.trans hc')
  have hcan : w.isCancelled c = false := by
    cases hcan : w.isCancelled c with
    | false => rfl
    | true => rw [isCancelled_of_apply ha hc hc' hcan] at hcan'; cases hcan'
  have hown : c₁.station.cancelled = false := (Bool.or_eq_false_iff.mp hcan').1
  by_cases hread : a = .step (.reader id)
  · subst hread
    have hmove : w.moveOf id c (.step (.reader id)) = .read w.here false w.device := by
      simp only [moveOf, site, if_true, moveAt, hcan]
    obtain ⟨c₂, hc₂, hn⟩ := Option.bind_eq_some_iff.mp ha
    obtain rfl : c₂ = c := Option.some.inj (hc₂.symm.trans hc)
    obtain ⟨⟨c₃, d'⟩, hstep, rfl⟩ := Option.map_eq_some_iff.mp hn
    rw [hcan] at hstep
    obtain rfl : c₃ = c₁ := by
      rw [hmove, Connection.after, hstep] at hm
      exact Option.some.inj hm
    rw [hmove]
    exact hq.read hclock hstep hown
  by_cases hconsume : a = .step (.consumer id)
  · subst hconsume
    have hmove : w.moveOf id c (.step (.consumer id)) = .consume w.here false w.device := by
      simp only [moveOf, site, if_true, moveAt, hcan]
    obtain ⟨c₂, hc₂, hn⟩ := Option.bind_eq_some_iff.mp ha
    obtain rfl : c₂ = c := Option.some.inj (hc₂.symm.trans hc)
    obtain ⟨⟨s, d'⟩, hstep, rfl⟩ := Option.map_eq_some_iff.mp hn
    rw [hcan] at hstep
    obtain rfl : { c₂ with station := s } = c₁ := by
      rw [hmove, Connection.after, hstep] at hm
      exact Option.some.inj hm
    rw [hmove]
    exact hq.consume hs hclock rfl hstep
  · refine hq.of_other hclock (fun _ _ _ h => hread (moveOf_eq_read h).1)
      (fun _ _ _ h => hconsume (moveOf_eq_consume h).1) hm (hd hread hconsume).akin ?_
    intro hw
    -- only the writer can have begun to close, and it would have been told to shut down
    by_cases hwrite : ∃ cancelled, w.moveOf id c a = .write cancelled
    · obtain ⟨cancelled, hwrite⟩ := hwrite
      rw [hwrite] at hm
      rcases Connection.isClosing_after_write hs hm hw with h | h | h
      · exact hq.writing h
      · rw [moveOf_eq_write hwrite, hcan] at h
        cases h
      · rw [hown] at h
        cases h
    · have hl := Connection.after_leavesWriter (fun _ he => hwrite ⟨_, he⟩) hm
      exact hq.writing (hl.writer ▸ hw)

/-- Every run that has not come to a shutdown keeps it. -/
theorem Run.queues {w₀ : World} {c₀ : Connection} (hr : w₀.Run h w) (hu : h.Untouched id)
    (hclock : ∀ k, (clock k).runsTasks) (hc₀ : w₀.connections[id]? = some c₀) (hs₀ : c₀.Sound)
    (hq : Connection.Queues clock d₀ before [] w₀.device c₀) (hc : w.connections[id]? = some c)
    (ho : w.isClosed id = false) :
    Connection.Queues clock d₀ before (h.moves id) w.device c := by
  induction hr generalizing c with
  | start =>
    obtain rfl : c₀ = c := Option.some.inj (hc₀.symm.trans hc)
    exact hq
  | @act h w w' a hr ha ih =>
    obtain ⟨c₁, hc₁, hrun⟩ := hr.moves hc₀
    have hopen : w.isClosed id = false := by
      cases hopen : w.isClosed id with
      | false => rfl
      | true => rw [isClosed_of_run (.act .start ha) hc₁ hopen] at ho; cases ho
    have hq₁ := ih (fun p hp => hu p (List.mem_append_left _ hp)) hc₁ hopen
    rw [History.moves_snoc h hc₁]
    rw [isClosed_eq hc] at ho
    exact queues_apply hclock ha
      (fun hn hn' => hu (w, a) (List.mem_append_right _ List.mem_cons_self) hn hn' w' ha)
      hc₁ hc (hrun.sound hs₀) ho hq₁

/-- A connection that has just been made has taken no text and begun with no command. -/
theorem start_queues {config : Config} (hd : config.dispatch = .queued) (parent : Option Nat)
    (session : Wire.Session) (link : Memory) (d : Device) :
    Connection.Queues clock d link.toClient.items [] d
      (.start config parent session link) := by
  have hstation : (Connection.start config parent session link).station =
      { Station.new config.sendCapacity (some config.jobCapacity) with consumer := .listening } := by
    simp only [Connection.start, hd]
  have hduty : (Connection.start config parent session link).duty = .nothing :=
    Connection.duty_of_listening rfl
  constructor
  · exact {
      reader := by simp [Connection.start]
      lines := by rw [hduty]; rfl
      texts := (List.append_nil _).symm
      replies := by rw [hduty]; rfl
      id := fun _ hx => absurd hx List.not_mem_nil }
  · exact {
      jobs := ⟨.new config.jobCapacity, by rw [hstation]; rfl, rfl, rfl, rfl⟩
      consumer := .inl (by rw [hstation])
      id := rfl
      consumed := by rw [hstation]; rfl
      amounts := by rw [hstation]; exact .refl _ }
  · exact id

theorem establish_queues {w₀ : World} {config : Config} {parent : Option Nat} {link : Memory}
    (hd : config.dispatch = .queued) (he : w₀.establish config parent link = .ok w)
    (hc : w.connections[w₀.connections.length]? = some c) :
    Connection.Queues clock w.device link.toClient.items [] w.device c := by
  obtain ⟨link', device, hl, -, rfl⟩ := establish_eq_ok he
  obtain ⟨-, -, -, hlink⟩ := Memory.write_eq_done_iff.mp hl
  have hitems : link.toClient.items = link'.toClient.items := by rw [hlink]
  rw [List.getElem?_concat_length] at hc
  cases hc
  rw [hitems]
  exact start_queues hd parent _ link' device

/-- What the peer does, the frames of the application, the time that passes and the writer leave the
printer alone. -/
theorem untouched_chronicle {acts : List Act}
    (h : ∀ a ∈ acts, a = .step (.reader id) ∨ a = .step (.consumer id) ∨ a = .step (.writer id) ∨
      a.isQuiet) : (w.chronicle acts).Untouched id := by
  induction acts generalizing w with
  | nil =>
    intro p hp
    cases hp
  | cons a rest ih =>
    cases ha : w.apply a with
    | none =>
      simp only [chronicle, ha]
      intro p hp
      cases hp
    | some w' =>
      simp only [chronicle, ha]
      intro p hp hn hn' v hv
      rcases List.mem_cons.mp hp with rfl | hp
      · rcases h a List.mem_cons_self with he | he | he | hq
        · exact absurd he hn
        · exact absurd he hn'
        · subst he
          obtain ⟨c, -, hv⟩ := Option.bind_eq_some_iff.mp hv
          obtain ⟨c', -, rfl⟩ := Option.map_eq_some_iff.mp hv
          exact .refl _
        · exact (apply_of_isQuiet hq hv).1 ▸ .refl _
      · exact ih (fun b hb => h b (List.mem_cons_of_mem _ hb)) p hp hn hn' v hv

instance : (x : Consumer) → Decidable (x = .listening)
  | .listening => .isTrue rfl
  | .absent | .working _ | .done => .isFalse nofun

/-- A way to connect with room for one command. -/
def narrow : Config := { Config.standard with dispatch := .queued, jobCapacity := 1 }

/-- A peer sends three commands at once; the second finds no room, and the third comes when the first
has been begun with. -/
def rush : List Act :=
  ["G91\\n;\\nM82", "G90", "G20"].map (fun instruction => .peerWrite 0
    ("4\x7b\"event\":\"command\",\"data\":\x7b\"deviceId\":\"1\",\"instruction\":\"" ++ instruction ++
      "\"\x7d\x7d")) ++
    List.replicate 5 (.step (.reader 0)) ++ List.replicate 3 (.step (.consumer 0)) ++
    List.replicate 2 (.step (.reader 0)) ++ List.replicate 8 (.step (.consumer 0))

end World

end VirtualPrinter.Service
