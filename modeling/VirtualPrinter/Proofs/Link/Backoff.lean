import VirtualPrinter.Proofs.Link.Dialling

/-!
# Waits that double

The wait behind an attempt that fails for now is meant to be the base wait, doubled with each attempt
after the first, up to the longest wait.  But it is doubled thirty times at most, and attempts are told
apart only up to `2 ^ 32`.  So the waits are the meant ones up to the thirty-first attempt, and from then
on only where the longest wait has been reached, or where there is no base wait.

## Main definitions

* `RetryPolicy.factor`: how often the base wait is taken.

## Main results

* `RetryPolicy.nanos_delayFor`: the wait behind an attempt.
* `Dialling.getElem?_waits`: the waits of a series, one by one.
* `Dialling.wait_doubled_iff`: which waits are the meant ones.
-/

namespace VirtualPrinter.Link

open Time (Span)

namespace RetryPolicy

variable {p : RetryPolicy} {n : Nat}

/-- How often the base wait is taken behind an attempt, counted from one. -/
def factor (n : Nat) : Nat :=
  if n % 2 ^ 32 = 0 then 0 else 2 ^ min (n % 2 ^ 32 - 1) 30

theorem factor_of_le (hn : 0 < n) (h : n ≤ 31) : factor n = 2 ^ (n - 1) := by
  rw [factor, if_neg (by omega)]
  congr 1
  omega

theorem factor_lt (h : 31 < n) : factor n < 2 ^ (n - 1) := by
  unfold factor
  split
  · exact Nat.two_pow_pos _
  · exact Nat.pow_lt_pow_right (by decide) (by omega)

/-- The wait behind an attempt, for waits that are no longer than the longest span. -/
theorem nanos_delayFor (hmax : p.max ≤ .longest) (n : Nat) :
    (p.delayFor n.toUInt32).nanos = min (p.base.nanos * factor n) p.max.nanos := by
  have hnat : n.toUInt32.toNat = n % 2 ^ 32 := UInt32.toNat_ofNat'
  have hzero : n.toUInt32 = 0 ↔ n % 2 ^ 32 = 0 := by
    rw [← UInt32.toNat_inj, hnat]
    rfl
  unfold delayFor factor
  split
  · next h =>
    rw [if_pos (hzero.mp h), Nat.mul_zero, Nat.zero_min]
    rfl
  · next h =>
    -- the product is cut at the longest span first, which takes nothing from the longest wait
    rw [if_neg (mt hzero.mpr h), hnat]
    simp only [Span.atMost, Span.scaledBy]
    rw [Nat.min_assoc, Nat.min_eq_right hmax]
    rfl

end RetryPolicy

namespace Dialling

variable {α : Type} {d : Dialling α} {k n : Nat}

theorem goesOn_of_failing (hcancel : d.cancel = none) (hfails : d.FailsForNow k) (hmore : k + 1 < d.limit) :
    d.GoesOn k where
  fails := hfails
  more := hmore
  kept := fun ⟨_, h, _⟩ => by simp [hcancel] at h

/-- **The waits of a series**: behind each attempt that another one follows there is one. -/
theorem getElem?_waits (hon : ¬ d.CalledOff) (h : ∀ j ≤ k, d.GoesOn j) :
    d.run.waits[k]? = some (d.delay k) := by
  have hwaits {n : Nat} (hlt : k < n) : (d.delays n)[k]? = some (d.delay k) := by
    rw [delays, List.getElem?_map, List.getElem?_range hlt, Option.map_some]
  generalize hr : d.run = r
  cases comesTo_iff.mpr hr.symm with
  | calledOff hoff => exact absurd hoff hon
  | @endsWith last _ _ _ hlast =>
    -- the last attempt is followed by no other, so it comes behind all of these
    have hlt : k < last := Nat.lt_of_not_le fun hle => hlast.not_goesOn (h last hle)
    cases hlast with
    | connected | failed | exhausted => exact hwaits hlt
    | brokenOff | stopped => exact hwaits (Nat.lt_succ_of_lt hlt)

theorem min_mul_eq_iff {b f g m : Nat} (h : f < g) : min (b * f) m = min (b * g) m ↔ b = 0 ∨ m ≤ b * f := by
  rcases Nat.eq_zero_or_pos b with rfl | hb
  · simp
  · have hlt : b * f < b * g := Nat.mul_lt_mul_of_pos_left h hb
    omega

/-- **Which waits are doubled as they are meant to be.**  In a series that is not called off, whose first
attempts are each followed by another one, the wait behind the last of these is the base wait taken
`factor` times, up to the longest wait; and it is the base wait doubled with each attempt after the
first, up to the longest wait, if there are at most thirty-one of these attempts, if there is no base
wait, or if the longest wait has been reached, and only then. -/
theorem wait_doubled_iff (hmax : d.policy.max ≤ .longest) (hon : ¬ d.CalledOff) (hn : 0 < n)
    (h : ∀ j < n, d.GoesOn j) :
    ∃ wait, d.run.waits[n - 1]? = some wait ∧
      wait.nanos = min (d.policy.base.nanos * RetryPolicy.factor n) d.policy.max.nanos ∧
      (wait.nanos = min (d.policy.base.nanos * 2 ^ (n - 1)) d.policy.max.nanos ↔
        n ≤ 31 ∨ d.policy.base.nanos = 0 ∨
          d.policy.max.nanos ≤ d.policy.base.nanos * RetryPolicy.factor n) := by
  have hdelay : (d.delay (n - 1)).nanos =
      min (d.policy.base.nanos * RetryPolicy.factor n) d.policy.max.nanos := by
    rw [delay, Nat.sub_add_cancel hn]
    exact RetryPolicy.nanos_delayFor hmax n
  refine ⟨_, getElem?_waits hon fun j hj => h j (by omega), hdelay, ?_⟩
  rw [hdelay]
  -- behind the thirty-first attempt the base wait is taken less often than it is meant to be
  rcases Nat.lt_or_ge 31 n with hlarge | hsmall
  · rw [min_mul_eq_iff (RetryPolicy.factor_lt hlarge), or_iff_right (Nat.not_le.mpr hlarge)]
  · rw [RetryPolicy.factor_of_le hn hsmall]
    exact iff_of_true rfl (.inl hsmall)

/-- The third of three waits, each twice as long as the one before. -/
theorem wait_doubled_iff_third :
    let d : Dialling Unit := ⟨⟨4, .ofMillis 100, .ofMillis 5000⟩, Span.alarm, none,
      fun _ => ⟨.error .connectionTimeout, .zero⟩, .zero⟩
    d.policy.max ≤ .longest ∧ ¬ d.CalledOff ∧ (∀ j < 3, d.GoesOn j) ∧
      ∃ wait, d.run.waits[3 - 1]? = some wait ∧
        wait.nanos = min (d.policy.base.nanos * 2 ^ (3 - 1)) d.policy.max.nanos := by
  intro d
  have hmax : d.policy.max ≤ .longest := by decide
  have hon : ¬ d.CalledOff := fun ⟨_, h, _⟩ => by cases h
  have hgoes : ∀ j < 3, d.GoesOn j := fun j hj =>
    goesOn_of_failing rfl ⟨_, rfl, rfl⟩ (show j + 1 < 4 by omega)
  obtain ⟨wait, hwait, -, hiff⟩ := wait_doubled_iff hmax hon (by decide) hgoes
  exact ⟨hmax, hon, hgoes, wait, hwait, hiff.mpr (.inl (by decide))⟩

/-- The thirty-second wait is no longer than the one before. -/
theorem wait_not_doubled :
    let d : Dialling Unit := ⟨⟨33, .ofMillis 1, .ofSeconds 10000000⟩, Span.alarm, none,
      fun _ => ⟨.error .connectionTimeout, .zero⟩, .zero⟩
    d.policy.max ≤ .longest ∧ ¬ d.CalledOff ∧ (∀ j < 32, d.GoesOn j) ∧
      d.run.waits[32 - 1]? = some (.ofMillis (2 ^ 30)) ∧
      min (d.policy.base.nanos * 2 ^ (32 - 1)) d.policy.max.nanos = (Span.ofMillis (2 ^ 31)).nanos := by
  intro d
  have hon : ¬ d.CalledOff := fun ⟨_, h, _⟩ => by cases h
  have hgoes : ∀ j < 32, d.GoesOn j := fun j hj =>
    goesOn_of_failing rfl ⟨_, rfl, rfl⟩ (show j + 1 < 33 by omega)
  refine ⟨by decide, hon, hgoes, ?_, by decide⟩
  rw [getElem?_waits hon fun j hj => hgoes j (by omega)]
  decide

end Dialling

end VirtualPrinter.Link
