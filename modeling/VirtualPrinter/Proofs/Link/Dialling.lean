import VirtualPrinter.Link.Retry
import VirtualPrinter.Proofs.Time.Span
import Mathlib.Algebra.BigOperators.Group.Finset.Basic

/-!
# What a series of attempts comes to

A series of attempts to connect goes on from one attempt to the next as long as the attempt fails for
now, another one is left, and the order to stop has not come when that one is about to begin.  The first
attempt of which one of these does not hold is the last, and it tells what the series comes to.

## Main definitions

* `Link.Dialling`: a series of attempts, with its alarms and the order to stop.
* `Dialling.GoesOn`: an attempt that another one follows.
* `Dialling.EndsWith`: what a series comes to with its last attempt.
* `Dialling.ComesTo`: what a series comes to.
* `Dialling.Punctual`: the alarms ring at the end of each wait.

## Main results

* `resume_cases`: one attempt, and what follows it.
* `comesTo_iff`: a series comes to what it is said to come to, and to nothing else.
* `run_congr`: attempts behind the last are not made.
* `run_time`: how long a series takes.
* `run_outcome`: all of it together.
-/

namespace VirtualPrinter.Link

open Time (Span)

/-! ### One failure -/

namespace RetryPolicy

variable {p : RetryPolicy} {n : Nat} {e : Error}

theorem delayFor_le_max (p : RetryPolicy) (n : UInt32) : p.delayFor n ≤ p.max := by
  unfold delayFor
  split
  · exact Nat.zero_le _
  · exact Nat.min_le_right _ _

theorem afterFailure_of_final (h : e.isRetryable = false) : p.afterFailure n e = .error e := by
  simp [afterFailure, h]

theorem afterFailure_of_last (h : e.isRetryable) (hlast : p.attempts ≤ n) :
    p.afterFailure n e = .error (.retriesExhausted p.attempts) := by
  simp [afterFailure, h, hlast]

theorem afterFailure_of_more (h : e.isRetryable) (hmore : n < p.attempts) :
    p.afterFailure n e = .ok (p.delayFor n.toUInt32) := by
  simp [afterFailure, h, Nat.not_le.mpr hmore]

end RetryPolicy

/-! ### One order to stop -/

theorem Order.hasCome_iff {o : Order} {now : Span} {k : Nat} :
    o.hasCome k now ↔ o.instant < now ∨ o.instant = now ∧ o.behind ≤ k := by
  simp [hasCome]

/-- An order that comes before the alarm breaks the wait off. -/
theorem endOfWait_of_lt {o : Order} {wake : Span} (now : Span) (h : o.instant < wake) :
    endOfWait (some o) now wake = now + (o.instant - now) := by
  simp [endOfWait, Option.filter, h, Span.add_sub_eq]

theorem endOfWait_of_not_lt {cancel : Option Order} {wake : Span} (now : Span)
    (h : ∀ o ∈ cancel, ¬ o.instant < wake) : endOfWait cancel now wake = wake := by
  have hfilter : cancel.filter (·.instant < wake) = none :=
    Option.filter_eq_none_iff.mpr fun o ho hearly => h o ho (of_decide_eq_true hearly)
  rw [endOfWait, hfilter]

/-- A series of attempts to connect, which are counted from zero: the policy, when an alarm rings that is
set at an instant for a wait, the order to stop, and the start. -/
structure Dialling (α : Type) where
  policy : RetryPolicy
  alarm : Span → Span → Span
  cancel : Option Order
  attempt : Nat → Attempt α
  start : Span

namespace Dialling

variable {α : Type} (d : Dialling α)

/-- What the attempts come to when they are made. -/
def run : Dialled α := d.policy.dialUntil d.alarm d.cancel d.attempt d.start

/-- The number of attempts at most: as many as the policy says, and one at least. -/
def limit : Nat := max 1 d.policy.maxAttempts

/-- The wait behind an attempt that fails for now. -/
def delay (k : Nat) : Span := d.policy.delayFor (k + 1).toUInt32

/-- The waits behind the first attempts. -/
def delays (n : Nat) : List Span := (List.range n).map d.delay

/-- The instant at which an attempt begins if all before it are followed by another one. -/
def begins : Nat → Span
  | 0 => d.start
  | k + 1 => d.alarm (begins k + (d.attempt k).took) (d.delay k)

/-- The instant at which an attempt ends if all before it are followed by another one. -/
def ends (k : Nat) : Span := d.begins k + (d.attempt k).took

/-- The attempt fails, and another one may succeed. -/
def FailsForNow (k : Nat) : Prop := ∃ e, (d.attempt k).result = .error e ∧ e.isRetryable

/-- The order to stop has come when an attempt is about to begin, if all before it are followed by another
one. -/
def StoppedBefore (k : Nat) : Prop := ∃ o, d.cancel = some o ∧ o.hasCome k (d.begins k)

/-- The order to stop has come by the start. -/
def CalledOff : Prop := d.StoppedBefore 0

/-- The attempt is followed by another one. -/
structure GoesOn (k : Nat) : Prop where
  fails : d.FailsForNow k
  more : k + 1 < d.limit
  kept : ¬ d.StoppedBefore (k + 1)

/-- What the series comes to with its last attempt.  A wait that is broken off has lasted from the end of
the attempt to the order to stop, or not at all if that came during the attempt.  A wait that has ended
when the order comes is followed by no attempt either. -/
inductive EndsWith (k : Nat) : Dialled α → Prop
  | connected {x : α} (h : (d.attempt k).result = .ok x) :
    EndsWith k ⟨.ok x, k + 1, d.delays k, d.ends k⟩
  | failed {e : Error} (h : (d.attempt k).result = .error e) (hfinal : e.isRetryable = false) :
    EndsWith k ⟨.error e, k + 1, d.delays k, d.ends k⟩
  | exhausted (h : d.FailsForNow k) (hlast : k + 1 = d.limit) :
    EndsWith k ⟨.error (.retriesExhausted d.limit), k + 1, d.delays k, d.ends k⟩
  | brokenOff {o : Order} (h : d.FailsForNow k) (hmore : k + 1 < d.limit)
      (hcancel : d.cancel = some o) (hearly : o.instant < d.begins (k + 1)) :
    EndsWith k ⟨.error .cancelled, k + 1, d.delays (k + 1), d.ends k + (o.instant - d.ends k)⟩
  | stopped {o : Order} (h : d.FailsForNow k) (hmore : k + 1 < d.limit)
      (hcancel : d.cancel = some o) (hthen : o.instant = d.begins (k + 1)) (hbehind : o.behind ≤ k + 1) :
    EndsWith k ⟨.error .cancelled, k + 1, d.delays (k + 1), d.begins (k + 1)⟩

/-- What the series comes to: no attempt is made, or the last one is the first that no other follows. -/
inductive ComesTo : Dialled α → Prop
  | calledOff (h : d.CalledOff) : ComesTo ⟨.error .cancelled, 0, [], d.start⟩
  | endsWith {k : Nat} {r : Dialled α} (h : ¬ d.CalledOff) (hbefore : ∀ j < k, d.GoesOn j)
      (hlast : d.EndsWith k r) : ComesTo r

/-- The alarms of the waits that are begun ring at their ends. -/
def Punctual : Prop := ∀ j < d.run.waits.length, d.begins (j + 1) = d.ends j + d.delay j

/-- The series with attempts that come to something else. -/
def withAttempts (attempt : Nat → Attempt α) : Dialling α := { d with attempt }

variable {d} {r r' : Dialled α} {k left : Nat}

theorem limit_eq (d : Dialling α) : d.limit = d.policy.attempts := Nat.max_comm _ _

theorem length_delays (d : Dialling α) (n : Nat) : (d.delays n).length = n := by
  rw [delays, List.length_map, List.length_range]

theorem delays_succ (d : Dialling α) (n : Nat) : d.delays (n + 1) = d.delays n ++ [d.delay n] := by
  rw [delays, List.range_succ, List.map_append, List.map_singleton, ← delays.eq_def]

theorem begins_succ (d : Dialling α) (k : Nat) : d.begins (k + 1) = d.alarm (d.ends k) (d.delay k) := rfl

/-! ### From attempt to attempt -/

/-- The series from an attempt on that has begun, with the waits before it, for at most so many steps. -/
def resume (d : Dialling α) (steps k : Nat) : Dialled α :=
  let rest := d.policy.dialFrom d.alarm d.cancel d.attempt steps (.dialling k) k (d.begins k)
  { rest with waits := d.delays k ++ rest.waits }

theorem resume_connected {x : α} (h : (d.attempt k).result = .ok x) (steps : Nat) :
    d.resume (steps + 1) k = ⟨.ok x, k + 1, d.delays k, d.ends k⟩ := by
  simp [resume, RetryPolicy.dialFrom, Progress.answer, h, ends]

theorem resume_ended {e e' : Error} (h : (d.attempt k).result = .error e)
    (hend : d.policy.afterFailure (k + 1) e = .error e') (steps : Nat) :
    d.resume (steps + 1) k = ⟨.error e', k + 1, d.delays k, d.ends k⟩ := by
  simp [resume, RetryPolicy.dialFrom, Progress.answer, h, hend, ends]

/-- An attempt with a wait behind it, and what the series does when the wait ends. -/
theorem resume_paused {e : Error} (h : (d.attempt k).result = .error e)
    (hwait : d.policy.afterFailure (k + 1) e = .ok (d.delay k)) (steps : Nat) :
    d.resume (steps + 2) k =
      let stopped := d.cancel.any (·.hasCome (k + 1) (d.begins (k + 1)))
      let rest := d.policy.dialFrom d.alarm d.cancel d.attempt steps (.look stopped (k + 1)) (k + 1)
        (endOfWait d.cancel (d.ends k) (d.begins (k + 1)))
      { rest with waits := d.delays (k + 1) ++ rest.waits } := by
  have hanswer : Progress.answer d.policy d.alarm (d.ends k) k (d.attempt k).result =
      .pausing (k + 1) (d.begins (k + 1)) := by
    simp only [Progress.answer, h, hwait, begins_succ]
  rw [ends] at hanswer
  simp only [resume, RetryPolicy.dialFrom, hanswer]
  rw [delays_succ, List.append_assoc]
  rfl

theorem resume_stopped {e : Error} {o : Order} (h : (d.attempt k).result = .error e)
    (hwait : d.policy.afterFailure (k + 1) e = .ok (d.delay k)) (hcancel : d.cancel = some o)
    (hcome : o.hasCome (k + 1) (d.begins (k + 1))) (steps : Nat) :
    d.resume (steps + 2) k = ⟨.error .cancelled, k + 1, d.delays (k + 1),
      endOfWait d.cancel (d.ends k) (d.begins (k + 1))⟩ := by
  have hany : d.cancel.any (·.hasCome (k + 1) (d.begins (k + 1))) = true := by
    simp only [hcancel, Option.any_some, hcome]
  rw [resume_paused h hwait]
  simp [hany, Progress.look, RetryPolicy.dialFrom]

theorem resume_waited {e : Error} (h : (d.attempt k).result = .error e)
    (hwait : d.policy.afterFailure (k + 1) e = .ok (d.delay k)) (hkept : ¬ d.StoppedBefore (k + 1))
    (steps : Nat) : d.resume (steps + 2) k = d.resume steps (k + 1) := by
  have hany : d.cancel.any (·.hasCome (k + 1) (d.begins (k + 1))) = false :=
    (Option.any_eq_false _ _).mpr fun o ho => Bool.eq_false_iff.mpr fun hcome => hkept ⟨o, ho, hcome⟩
  have hend : endOfWait d.cancel (d.ends k) (d.begins (k + 1)) = d.begins (k + 1) :=
    endOfWait_of_not_lt _ fun o ho hearly => hkept ⟨o, ho, Order.hasCome_iff.mpr (.inl hearly)⟩
  rw [resume_paused h hwait]
  simp only [hany, hend, Progress.look, Bool.false_eq_true, if_false, resume]

/-- **One attempt** is followed by the rest of the series, or it is the last. -/
theorem resume_cases (h : k + (left + 1) = d.limit) :
    (d.GoesOn k ∧ d.resume (2 * (left + 1)) k = d.resume (2 * left) (k + 1)) ∨
      d.EndsWith k (d.resume (2 * (left + 1)) k) := by
  rw [Nat.mul_succ]
  cases hresult : (d.attempt k).result with
  | ok x => exact .inr (resume_connected hresult _ ▸ .connected hresult)
  | error e =>
    cases hretry : e.isRetryable with
    | false =>
      rw [resume_ended hresult (RetryPolicy.afterFailure_of_final hretry)]
      exact .inr (.failed hresult hretry)
    | true =>
      have hfails : d.FailsForNow k := ⟨e, hresult, hretry⟩
      -- the limit comes first: behind the last attempt no order to stop is looked for
      rcases Nat.eq_or_lt_of_le (show k + 1 ≤ d.limit by omega) with hlast | hmore
      · have hend := RetryPolicy.afterFailure_of_last hretry (d.limit_eq ▸ hlast.ge)
        rw [resume_ended hresult hend, ← limit_eq]
        exact .inr (.exhausted hfails hlast)
      · have hwait : d.policy.afterFailure (k + 1) e = .ok (d.delay k) :=
          RetryPolicy.afterFailure_of_more hretry (d.limit_eq ▸ hmore)
        by_cases hstop : d.StoppedBefore (k + 1)
        · obtain ⟨o, hcancel, hcome⟩ := hstop
          rw [resume_stopped hresult hwait hcancel hcome, hcancel]
          rcases Order.hasCome_iff.mp hcome with hearly | ⟨hthen, hbehind⟩
          · rw [endOfWait_of_lt _ hearly]
            exact .inr (.brokenOff hfails hmore hcancel hearly)
          · have hlate : ¬ o.instant < d.begins (k + 1) := by
              rw [hthen]
              exact Nat.lt_irrefl _
            rw [endOfWait_of_not_lt _ (by simpa using hlate)]
            exact .inr (.stopped hfails hmore hcancel hthen hbehind)
        · exact .inl ⟨⟨hfails, hmore, hstop⟩, resume_waited hresult hwait hstop _⟩

theorem exists_endsWith (h : k + (left + 1) = d.limit) :
    ∃ n, (∀ j, k ≤ j → j < n → d.GoesOn j) ∧ d.EndsWith n (d.resume (2 * (left + 1)) k) := by
  -- along the attempts that are left: the last of them is followed by no other
  induction left generalizing k with
  | zero =>
    rcases resume_cases h with ⟨hgoes, -⟩ | hend
    · have := hgoes.more
      omega
    · exact ⟨k, fun j hj hlt => absurd hj (Nat.not_le.mpr hlt), hend⟩
  | succ left ih =>
    rcases resume_cases h with ⟨hgoes, hnext⟩ | hend
    · obtain ⟨n, hbefore, hend⟩ := ih (k := k + 1) (by omega)
      refine ⟨n, fun j hj hlt => ?_, hnext ▸ hend⟩
      rcases Nat.eq_or_lt_of_le hj with rfl | hj
      · exact hgoes
      · exact hbefore j hj hlt
    · exact ⟨k, fun j hj hlt => absurd hj (Nat.not_le.mpr hlt), hend⟩

theorem comesTo_run (d : Dialling α) : d.ComesTo d.run := by
  have hcancel : d.cancel.any (·.hasCome 0 d.start) ↔ d.CalledOff := by
    simp [Option.any_eq_true, CalledOff, StoppedBefore, begins]
  obtain ⟨left, hleft⟩ : ∃ left, d.policy.attempts = left + 1 :=
    Nat.exists_eq_succ_of_ne_zero (Nat.ne_of_gt (Nat.le_max_right _ 1))
  by_cases h : d.CalledOff
  · have hrun : d.run = ⟨.error .cancelled, 0, [], d.start⟩ := by
      simp [run, RetryPolicy.dialUntil, hcancel.mpr h, Progress.look, RetryPolicy.dialFrom]
    exact hrun ▸ .calledOff h
  · have hlimit : 0 + (left + 1) = d.limit := by rw [limit_eq, hleft, Nat.zero_add]
    obtain ⟨n, hbefore, hend⟩ := exists_endsWith hlimit
    -- no wait stands before the first attempt, and it begins at the start
    have hrun : d.run = d.resume (2 * (left + 1)) 0 := by
      rw [run, RetryPolicy.dialUntil, Bool.eq_false_iff.mpr (mt hcancel.mp h), hleft]
      rfl
    exact hrun ▸ .endsWith h (fun j => hbefore j (Nat.zero_le j)) hend

/-! ### One result -/

theorem EndsWith.attempts_eq (h : d.EndsWith k r) : r.attempts = k + 1 := by
  cases h <;> rfl

theorem EndsWith.not_goesOn (h : d.EndsWith k r) : ¬ d.GoesOn k := by
  rintro ⟨⟨e, hresult, hretry⟩, hmore, hkept⟩
  cases h with
  | connected h => simp [h] at hresult
  | failed h hfinal =>
    rw [h, Except.error.injEq] at hresult
    rw [hresult, hretry] at hfinal
    cases hfinal
  | exhausted h hlast => omega
  | brokenOff _ _ hcancel hearly => exact hkept ⟨_, hcancel, Order.hasCome_iff.mpr (.inl hearly)⟩
  | stopped _ _ hcancel hthen hbehind =>
    exact hkept ⟨_, hcancel, Order.hasCome_iff.mpr (.inr ⟨hthen, hbehind⟩)⟩

theorem EndsWith.unique (h : d.EndsWith k r) (h' : d.EndsWith k r') : r = r' := by
  have hlate (t : Span) : ¬ t < t := Nat.lt_irrefl _
  cases h <;> cases h' <;> grind [FailsForNow]

theorem ComesTo.unique (h : d.ComesTo r) (h' : d.ComesTo r') : r = r' := by
  cases h with
  | calledOff hoff =>
    cases h' with
    | calledOff => rfl
    | endsWith hon => exact absurd hoff hon
  | @endsWith k _ hon hbefore hlast =>
    cases h' with
    | calledOff hoff => exact absurd hoff hon
    | @endsWith k' _ _ hbefore' hlast' =>
      -- neither attempt comes before the other, which would follow it
      rcases Nat.lt_trichotomy k k' with hlt | rfl | hlt
      · exact absurd (hbefore' k hlt) hlast.not_goesOn
      · exact hlast.unique hlast'
      · exact absurd (hbefore k' hlt) hlast'.not_goesOn

theorem comesTo_iff : d.ComesTo r ↔ r = d.run :=
  ⟨fun h => h.unique (comesTo_run d), fun h => h ▸ comesTo_run d⟩

/-! ### Numbers of attempts, and waits -/

theorem lt_limit (hbefore : ∀ j < k, d.GoesOn j) : k < d.limit := by
  cases k with
  | zero => exact Nat.le_max_left _ _
  | succ k => exact (hbefore k (Nat.lt_succ_self k)).more

theorem ComesTo.attempts_le (h : d.ComesTo r) : r.attempts ≤ d.limit := by
  cases h with
  | calledOff => exact Nat.zero_le _
  | endsWith _ hbefore hlast => exact hlast.attempts_eq ▸ lt_limit hbefore

/-- Each attempt but the last has its wait behind it, and the last one has one if the order to stop comes
by the end of that. -/
theorem ComesTo.waits_cases (h : d.ComesTo r) :
    (r.attempts = 0 ∧ r.waits = [] ∧ r.finish = d.start) ∨
    ∃ k, r.attempts = k + 1 ∧
      (r.waits = d.delays k ∧ r.finish = d.ends k ∨
        ∃ o, d.cancel = some o ∧ r.waits = d.delays (k + 1) ∧
          (o.instant < d.begins (k + 1) ∧ r.finish = d.ends k + (o.instant - d.ends k) ∨
            o.instant = d.begins (k + 1) ∧ r.finish = d.begins (k + 1))) := by
  cases h with
  | calledOff => exact .inl ⟨rfl, rfl, rfl⟩
  | @endsWith k _ _ _ hlast =>
    refine .inr ⟨k, hlast.attempts_eq, ?_⟩
    cases hlast with
    | connected | failed | exhausted => exact .inl ⟨rfl, rfl⟩
    | brokenOff _ _ hcancel hearly => exact .inr ⟨_, hcancel, rfl, .inl ⟨hearly, rfl⟩⟩
    | stopped _ _ hcancel hthen => exact .inr ⟨_, hcancel, rfl, .inr ⟨hthen, rfl⟩⟩

theorem ComesTo.exists_waits_eq (h : d.ComesTo r) : ∃ n, r.waits = d.delays n := by
  rcases h.waits_cases with ⟨-, hwaits, -⟩ | ⟨k, -, ⟨hwaits, -⟩ | ⟨-, -, hwaits, -⟩⟩
  · exact ⟨0, hwaits⟩
  · exact ⟨k, hwaits⟩
  · exact ⟨k + 1, hwaits⟩

/-- Behind the last attempt that the limit allows there is no wait. -/
theorem ComesTo.length_waits_lt (h : d.ComesTo r) : r.waits.length < d.limit := by
  cases h with
  | calledOff => exact Nat.le_max_left _ _
  | @endsWith k _ _ hbefore hlast =>
    cases hlast with
    | connected | failed | exhausted => exact (length_delays d k).trans_lt (lt_limit hbefore)
    | brokenOff _ hmore | stopped _ hmore => exact (length_delays d (k + 1)).trans_lt hmore

theorem ComesTo.wait_le (h : d.ComesTo r) {wait : Span} (hmem : wait ∈ r.waits) :
    wait ≤ d.policy.max := by
  obtain ⟨n, hwaits⟩ := h.exists_waits_eq
  rw [hwaits] at hmem
  obtain ⟨k, -, rfl⟩ := List.mem_map.mp hmem
  exact RetryPolicy.delayFor_le_max _ _

/-! ### Attempts that are not made -/

section Congr

variable {attempt' : Nat → Attempt α}

@[simp] theorem attempt_withAttempts : (d.withAttempts attempt').attempt = attempt' := rfl

theorem begins_congr {n : Nat} (h : ∀ j < n, attempt' j = d.attempt j) :
    (d.withAttempts attempt').begins n = d.begins n := by
  induction n with
  | zero => rfl
  | succ n ih =>
    rw [begins_succ, begins_succ, ends, ends, ih fun j hj => h j (Nat.lt_succ_of_lt hj),
      attempt_withAttempts, h n (Nat.lt_succ_self n)]
    rfl

theorem FailsForNow.congr (h : attempt' k = d.attempt k) (hfails : d.FailsForNow k) :
    (d.withAttempts attempt').FailsForNow k := by
  obtain ⟨e, hresult, hretry⟩ := hfails
  exact ⟨e, (congrArg Attempt.result h).trans hresult, hretry⟩

theorem GoesOn.congr (h : ∀ j < k + 1, attempt' j = d.attempt j) (hgoes : d.GoesOn k) :
    (d.withAttempts attempt').GoesOn k where
  fails := hgoes.fails.congr (h k (Nat.lt_succ_self k))
  more := hgoes.more
  kept := by
    rw [StoppedBefore, begins_congr h]
    exact hgoes.kept

theorem EndsWith.congr (h : ∀ j < k + 1, attempt' j = d.attempt j) (hend : d.EndsWith k r) :
    (d.withAttempts attempt').EndsWith k r := by
  have hk : attempt' k = d.attempt k := h k (Nat.lt_succ_self k)
  have hends : d.ends k = (d.withAttempts attempt').ends k := by
    rw [ends, ends, begins_congr fun j hj => h j (Nat.lt_succ_of_lt hj), attempt_withAttempts, hk]
  cases hend with
  | connected hresult => exact hends ▸ .connected ((congrArg Attempt.result hk).trans hresult)
  | failed hresult hfinal => exact hends ▸ .failed ((congrArg Attempt.result hk).trans hresult) hfinal
  | exhausted hfails hlast => exact hends ▸ .exhausted (hfails.congr hk) hlast
  | brokenOff hfails hmore hcancel hearly =>
    exact hends ▸ .brokenOff (hfails.congr hk) hmore hcancel ((begins_congr h).symm ▸ hearly)
  | stopped hfails hmore hcancel hthen hbehind =>
    have hbegins := begins_congr h
    exact hbegins ▸ .stopped (hfails.congr hk) hmore hcancel (hbegins ▸ hthen) hbehind

/-- **Attempts behind the last are not made**: what they would come to does not count. -/
theorem run_congr (h : ∀ j < d.run.attempts, attempt' j = d.attempt j) :
    (d.withAttempts attempt').run = d.run := by
  -- with the other attempts the series comes to the same, and it comes to one thing only
  refine (comesTo_iff.mp ?_).symm
  generalize hr : d.run = r at h
  cases comesTo_iff.mpr hr.symm with
  | calledOff hoff => exact .calledOff hoff
  | @endsWith k _ hon hbefore hlast =>
    rw [hlast.attempts_eq] at h
    exact .endsWith hon (fun j hj => (hbefore j hj).congr fun i hi => h i (by omega)) (hlast.congr h)

end Congr

/-! ### Time -/

theorem nanos_begins (h : ∀ j < k, d.begins (j + 1) = d.ends j + d.delay j) :
    (d.begins k).nanos = d.start.nanos + ∑ j ∈ Finset.range k, (d.attempt j).took.nanos +
      ∑ j ∈ Finset.range k, (d.delay j).nanos := by
  induction k with
  | zero => rfl
  | succ k ih =>
    rw [h k (Nat.lt_succ_self k), Span.nanos_add, ends, Span.nanos_add,
      ih fun j hj => h j (Nat.lt_succ_of_lt hj), Finset.sum_range_succ, Finset.sum_range_succ]
    omega

theorem nanos_ends (h : ∀ j < k, d.begins (j + 1) = d.ends j + d.delay j) :
    (d.ends k).nanos = d.start.nanos + ∑ j ∈ Finset.range (k + 1), (d.attempt j).took.nanos +
      ∑ j ∈ Finset.range k, (d.delay j).nanos := by
  rw [ends, Span.nanos_add, nanos_begins h, Finset.sum_range_succ]
  omega

/-- **How long a series takes** whose alarms are punctual: the attempts, the waits behind all of them
but the last, and what has gone by of a wait behind the last when it is broken off. -/
theorem run_time (h : d.Punctual) :
    ∃ rest : Span, d.run.finish.nanos = d.start.nanos +
        ∑ j ∈ Finset.range d.run.attempts, (d.attempt j).took.nanos +
        ∑ j ∈ Finset.range (d.run.attempts - 1), (d.delay j).nanos + rest.nanos ∧
      (d.run.waits = d.delays (d.run.attempts - 1) ∧ rest = .zero ∨
        ∃ k o, d.run.attempts = k + 1 ∧ d.run.waits = d.delays (k + 1) ∧ d.cancel = some o ∧
          rest = o.instant - d.ends k ∧ rest ≤ d.delay k) := by
  rw [Punctual] at h
  rcases (comesTo_run d).waits_cases with ⟨hattempts, hwaits, hfinish⟩ | ⟨k, hattempts, hlast⟩
  · rw [hattempts, hwaits, hfinish]
    exact ⟨.zero, rfl, .inl ⟨rfl, rfl⟩⟩
  · rw [hattempts, Nat.add_sub_cancel]
    rcases hlast with ⟨hwaits, hfinish⟩ | ⟨o, hcancel, hwaits, hfinish⟩
    · rw [hwaits, length_delays] at h
      exact ⟨.zero, by rw [hfinish, nanos_ends h]; rfl, .inl ⟨hwaits, rfl⟩⟩
    · rw [hwaits, length_delays] at h
      have hends := nanos_ends fun j hj => h j (Nat.lt_succ_of_lt hj)
      have hbegins : d.begins (k + 1) = d.ends k + d.delay k := h k (Nat.lt_succ_self k)
      -- the last wait would have ended punctually, and the order to stop has come by then
      rw [hbegins] at hfinish
      refine ⟨o.instant - d.ends k, ?_, .inr ⟨k, o, rfl, hwaits, hcancel, rfl, ?_⟩⟩
      · rw [← hends, ← Span.nanos_add]
        rcases hfinish with ⟨-, hfinish⟩ | ⟨hthen, hfinish⟩
        · rw [hfinish]
        · rw [hfinish, hthen]
          simp only [Span.nanos_add, Span.nanos_sub]
          omega
      · rcases hfinish with ⟨hearly, -⟩ | ⟨hthen, -⟩
        · simp only [Span.lt_def, Span.le_def, Span.nanos_add, Span.nanos_sub] at hearly ⊢
          omega
        · rw [hthen]
          simp only [Span.le_def, Span.nanos_add, Span.nanos_sub]
          omega

/-- **What a series of attempts comes to.**  It is called off, or it ends with the first attempt that is
followed by no other, and with that attempt's link or final error, with the limit, or with the order to
stop, which is looked for before every attempt.  No more attempts are made than the limit says, and none
behind the last.  There are fewer waits than the limit says, and none is longer than the policy allows.
If alarms are punctual the series takes the time of its attempts, of the waits between them, and of what
has gone by of a wait behind the last when the order to stop comes. -/
theorem run_outcome (d : Dialling α) :
    (∀ r, d.ComesTo r ↔ r = d.run) ∧
    d.run.attempts ≤ d.limit ∧
    (∀ attempt' : Nat → Attempt α, (∀ j < d.run.attempts, attempt' j = d.attempt j) →
      (d.withAttempts attempt').run = d.run) ∧
    d.run.waits.length < d.limit ∧
    (∀ wait ∈ d.run.waits, wait ≤ d.policy.max) ∧
    (d.Punctual → ∃ rest : Span, d.run.finish.nanos = d.start.nanos +
        ∑ j ∈ Finset.range d.run.attempts, (d.attempt j).took.nanos +
        ∑ j ∈ Finset.range (d.run.attempts - 1), (d.delay j).nanos + rest.nanos ∧
      (d.run.waits = d.delays (d.run.attempts - 1) ∧ rest = .zero ∨
        ∃ k o, d.run.attempts = k + 1 ∧ d.run.waits = d.delays (k + 1) ∧ d.cancel = some o ∧
          rest = o.instant - d.ends k ∧ rest ≤ d.delay k)) :=
  ⟨fun _ => comesTo_iff, (comesTo_run d).attempts_le, fun _ => run_congr,
    (comesTo_run d).length_waits_lt, fun _ => (comesTo_run d).wait_le, run_time⟩

/-- Three attempts of ten milliseconds at most, and an order to stop that comes at the very end of the
second wait, whatever a third attempt would come to. -/
theorem run_outcome_stopped :
    let d : Dialling Unit := ⟨.standard, Span.alarm, some ⟨.ofMillis 320, 0⟩,
      fun _ => ⟨.error .connectionTimeout, .ofMillis 10⟩, .zero⟩
    let attempt' (j : Nat) : Attempt Unit := if j < 2 then d.attempt j else ⟨.ok (), .zero⟩
    (d.ComesTo d.run ∧ d.run.result = .error .cancelled ∧ d.run.attempts = 2 ∧
        d.run.waits = [.ofMillis 100, .ofMillis 200] ∧ d.run.finish = .ofMillis 320) ∧
      ((∀ j < d.run.attempts, attempt' j = d.attempt j) ∧ (d.withAttempts attempt').run = d.run) ∧
      (.ofMillis 200 ∈ d.run.waits ∧ Span.ofMillis 200 ≤ d.policy.max) ∧
      d.Punctual ∧ ∃ rest : Span, d.run.finish.nanos = d.start.nanos +
          ∑ j ∈ Finset.range d.run.attempts, (d.attempt j).took.nanos +
          ∑ j ∈ Finset.range (d.run.attempts - 1), (d.delay j).nanos + rest.nanos ∧
        (d.run.waits = d.delays (d.run.attempts - 1) ∧ rest = .zero ∨
          ∃ k o, d.run.attempts = k + 1 ∧ d.run.waits = d.delays (k + 1) ∧ d.cancel = some o ∧
            rest = o.instant - d.ends k ∧ rest ≤ d.delay k) := by
  intro d attempt'
  obtain ⟨hcomes, -, hcongr, -, hlongest, htime⟩ := run_outcome d
  have hattempts : d.run.attempts = 2 := by decide
  have hwaits : d.run.waits = [.ofMillis 100, .ofMillis 200] := by decide
  have hsame : ∀ j < d.run.attempts, attempt' j = d.attempt j := fun j hj => if_pos (hattempts ▸ hj)
  have hmem : .ofMillis 200 ∈ d.run.waits := hwaits ▸ List.mem_cons_of_mem _ List.mem_cons_self
  have hpunctual : d.Punctual := by
    rw [Punctual, hwaits]
    decide
  exact ⟨⟨(hcomes _).mpr rfl, by decide, hattempts, hwaits, by decide⟩, ⟨hsame, hcongr attempt' hsame⟩,
    ⟨hmem, hlongest _ hmem⟩, hpunctual, htime hpunctual⟩

end Dialling

end VirtualPrinter.Link
