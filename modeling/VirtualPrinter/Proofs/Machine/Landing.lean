import VirtualPrinter.Proofs.Machine.Bounds
import VirtualPrinter.Proofs.Number.Sign

/-!
# Where moves land

What the words of a move ask for is said here once more, without a computation: word by word, with
the unit and the mode of the printer.  A move that asks for a point of the travel volume lands there
and nowhere else, and sets the feed rate at most; every other move is refused by the first axis that
it would leave.

## Main definitions

* `AxisGoal`, `Goal`: the coordinate that a word asks for, and the point that a move asks for.
* `FeedGoal`: the feed rate that a move leaves behind.
* `Leaves`: the first axis on which a point lies outside.

## Main results

* `withFeedRate_eq`: a positive rate that is finite in its unit is taken, and any other is not.
* `checkBounds_cases`: a point is inside, or it leaves by a first axis.
* `execute_goal`: a move lands where it is asked to, or is refused.
* `arc_without_radius`: an arc without a radius ends where it starts.
-/

namespace VirtualPrinter.Machine

open Gcode (Command Opcode Words)

/-- The coordinate that a word of a move asks for. -/
inductive AxisGoal (s : State) (current : Float) : Option Float → Float → Prop
  | absent : AxisGoal s current none current
  | absolute {value : Float} (h : s.positioning = .absolute) :
    AxisGoal s current (some value) (value * s.units.scale)
  | relative {value : Float} (h : s.positioning = .relative) :
    AxisGoal s current (some value) (current + value * s.units.scale)

/-- The point that the words of a move ask for.  An arc ends beside its start, by its radius and
whatever the mode is. -/
inductive Goal (s : State) (ws : Words) : Opcode → Point → Prop
  | linear {p : Point} (hx : AxisGoal s s.position.x (ws.get? 'X') p.x)
    (hy : AxisGoal s s.position.y (ws.get? 'Y') p.y)
    (hz : AxisGoal s s.position.z (ws.get? 'Z') p.z) : Goal s ws .moveLinear p
  | arc {p : Point} (hx : p.x = s.position.x - (ws.get? 'R').getD 0 * s.units.scale)
    (hy : p.y = s.position.y) (hz : AxisGoal s s.position.z (ws.get? 'Z') p.z) :
    Goal s ws .moveArc p
  | arcCcw {p : Point} (hx : p.x = s.position.x + (ws.get? 'R').getD 0 * s.units.scale)
    (hy : p.y = s.position.y) (hz : AxisGoal s s.position.z (ws.get? 'Z') p.z) :
    Goal s ws .moveArcCcw p

/-- The feed rate that a move leaves behind: the one of its word, if that is positive and finite in
its unit, and otherwise the current one. -/
inductive FeedGoal (scale current : Float) : Option Float → Float → Prop
  | taken {rate : Float} (hpos : 0 < rate) (hfinite : (rate * scale).isFinite) :
    FeedGoal scale current (some rate) (rate * scale)
  | kept {word : Option Float} (h : ∀ rate ∈ word, 0 < rate → ¬(rate * scale).isFinite) :
    FeedGoal scale current word current

/-- The first axis on which a point lies outside of the box up to a corner, with the coordinate and
its limit. -/
inductive Leaves (p corner : Point) : Char → Float → Float → Prop
  | x (hx : ¬within 0 corner.x p.x) : Leaves p corner 'X' p.x corner.x
  | y (hx : within 0 corner.x p.x) (hy : ¬within 0 corner.y p.y) : Leaves p corner 'Y' p.y corner.y
  | z (hx : within 0 corner.x p.x) (hy : within 0 corner.y p.y) (hz : ¬within 0 corner.z p.z) :
    Leaves p corner 'Z' p.z corner.z

/-- How a move is acknowledged. -/
def landingText (op : Opcode) (p : Point) : String :=
  (if op = .moveLinear then "Moved to " else "Arc move to ") ++ p.text ++ "\n"

variable {s : State} {ws : Words} {op : Opcode} {p : Point}

/-! ### Goals -/

theorem axisGoal_iff {current goal : Float} {word : Option Float} :
    AxisGoal s current word goal ↔ goal = axisTarget s word current := by
  constructor
  · intro h
    cases h with
    | absent => rfl
    | absolute h => simp only [axisTarget, h]
    | relative h => simp only [axisTarget, h]
  · rintro rfl
    cases word with
    | none => exact .absent
    | some value =>
      cases h : s.positioning with
      | absolute => simpa only [axisTarget, h] using AxisGoal.absolute h
      | relative => simpa only [axisTarget, h] using AxisGoal.relative h

/-- Every move asks for a point. -/
theorem exists_goal (s : State) (ws : Words)
    (hop : op = .moveLinear ∨ op = .moveArc ∨ op = .moveArcCcw) : ∃ p, Goal s ws op p := by
  rcases hop with rfl | rfl | rfl
  · exact ⟨⟨_, _, _⟩, .linear (axisGoal_iff.mpr rfl) (axisGoal_iff.mpr rfl) (axisGoal_iff.mpr rfl)⟩
  · exact ⟨⟨_, _, _⟩, .arc rfl rfl (axisGoal_iff.mpr rfl)⟩
  · exact ⟨⟨_, _, _⟩, .arcCcw rfl rfl (axisGoal_iff.mpr rfl)⟩

/-- What a radius of zero adds to a coordinate or takes from it. -/
theorem zero_mul_scale (units : Units) : (0 : Float) * units.scale = 0 := by
  cases units <;> decide +kernel

/-- An arc without a radius ends where it starts. -/
theorem arc_without_radius (h : Goal s ws op p) (hop : op ≠ .moveLinear) (hr : ws.get? 'R' = none)
    (hx : 0 ≤ p.x) : p.x == s.position.x := by
  have hnumber := Number.ne_nan_of_nonneg hx
  cases h with
  | linear => exact absurd rfl hop
  | arc h =>
    rw [hr, Option.getD_none, zero_mul_scale, Number.float_sub_zero] at h
    rw [← h]
    exact Float.beq_self_iff.mpr hnumber
  | arcCcw h =>
    -- the sum may be a zero of the other sign
    rw [hr, Option.getD_none, zero_mul_scale] at h
    rw [h] at hnumber ⊢
    rcases Number.float_add_zero s.position.x with hsame | ⟨hzero, hsum⟩
    · rw [hsame] at hnumber ⊢
      exact Float.beq_self_iff.mpr hnumber
    · rw [hsum, hzero]
      decide +kernel

/-! ### Feed rates -/

theorem scale_pos (units : Units) : 0 < units.scale := by
  cases units <;> decide +kernel

/-- **A positive rate that is finite in its unit is taken**, and any other leaves the feed rate. -/
theorem withFeedRate_eq (s : State) (word : Option Float) :
    ∃ feed, FeedGoal s.units.scale s.feedRate word feed ∧
      withFeedRate s word = { s with feedRate := feed } := by
  cases word with
  | none => exact ⟨s.feedRate, .kept nofun, rfl⟩
  | some rate =>
    by_cases hpos : 0 < rate
    · by_cases hfinite : (rate * s.units.scale).isFinite
      · -- a product of positive floats passes the other half of the check
        have hnonneg := Number.nonneg_mul hpos (scale_pos s.units) hfinite
        refine ⟨_, .taken hpos hfinite, ?_⟩
        simp [withFeedRate, hpos, State.setFeedRate, checkMagnitude, hfinite, hnonneg, Except.map]
      · refine ⟨s.feedRate, .kept (by rintro _ ⟨⟩ _; exact hfinite), ?_⟩
        simp [withFeedRate, hpos, State.setFeedRate, checkMagnitude, hfinite, Except.map]
    · refine ⟨s.feedRate, .kept (by rintro _ ⟨⟩ h; exact absurd h hpos), ?_⟩
      simp [withFeedRate, hpos]

/-! ### Bounds -/

theorem Leaves.unique {corner : Point} {a b : Char} {v w m n : Float} (h : Leaves p corner a v m)
    (h' : Leaves p corner b w n) : a = b ∧ v = w ∧ m = n := by
  cases h <;> cases h' <;> simp_all

/-- A point is inside of the travel volume, or it leaves it by a first axis. -/
theorem checkBounds_cases (s : State) (p : Point) :
    (p.Inside s.travelLimits ∧ s.checkBounds p = .ok ()) ∨
    ¬p.Inside s.travelLimits ∧ ∃ axis value max, Leaves p s.travelLimits axis value max ∧
      s.checkBounds p = .error (.outOfBounds axis value max) := by
  by_cases hx : within 0 s.travelLimits.x p.x
  · by_cases hy : within 0 s.travelLimits.y p.y
    · by_cases hz : within 0 s.travelLimits.z p.z
      · exact .inl ⟨⟨hx, hy, hz⟩, State.checkBounds_eq_ok_iff.mpr ⟨hx, hy, hz⟩⟩
      · refine .inr ⟨fun h => hz h.z, _, _, _, .z hx hy hz, ?_⟩
        simp only [State.checkBounds, State.checkAxis, hx, hy, hz, if_true]
        rfl
    · refine .inr ⟨fun h => hy h.y, _, _, _, .y hx hy, ?_⟩
      simp only [State.checkBounds, State.checkAxis, hx, hy, if_true]
      rfl
  · refine .inr ⟨fun h => hx h.x, _, _, _, .x hx, ?_⟩
    simp only [State.checkBounds, State.checkAxis, hx]
    rfl

/-! ### Moves -/

/-- A move with its feed rate. -/
theorem moveTo_withFeedRate (hs : s.paused = false) (p : Point) (word : Option Float)
    (answer : String) :
    (p.Inside s.travelLimits → ∃ feed, FeedGoal s.units.scale s.feedRate word feed ∧
      (s.moveTo p >>= fun t => pure (withFeedRate t word, answer)) =
        .ok ({ s.withPosition p with feedRate := feed }, answer)) ∧
    (¬p.Inside s.travelLimits → ∃ axis value max, Leaves p s.travelLimits axis value max ∧
      (s.moveTo p >>= fun t => pure (withFeedRate t word, answer)) =
        .error (.outOfBounds axis value max)) := by
  have hmove : s.moveTo p = (s.checkBounds p).map fun _ => s.withPosition p := by
    simp [State.moveTo, hs]
  rw [hmove]
  -- the feed rate is looked at behind the check alone
  rcases checkBounds_cases s p with ⟨hin, hcheck⟩ | ⟨hout, axis, value, max, hleaves, hcheck⟩
  · rw [hcheck]
    obtain ⟨feed, hfeed, hstate⟩ := withFeedRate_eq (s.withPosition p) word
    exact ⟨fun _ => ⟨feed, hfeed, by rw [← hstate]; rfl⟩, fun hout => absurd hin hout⟩
  · rw [hcheck]
    exact ⟨fun hin => absurd hin hout, fun _ => ⟨axis, value, max, hleaves, rfl⟩⟩

/-- **A move lands where it is asked to**, or is refused by the first axis that it would leave. -/
theorem execute_goal (now : Time.Timestamp) (hs : s.paused = false) (h : Goal s ws op p) :
    (p.Inside s.travelLimits → ∃ feed, FeedGoal s.units.scale s.feedRate (ws.get? 'F') feed ∧
      execute now s (.ofWords op ws) =
        .ok ({ s.withPosition p with feedRate := feed }, landingText op p)) ∧
    (¬p.Inside s.travelLimits → ∃ axis value max, Leaves p s.travelLimits axis value max ∧
      execute now s (.ofWords op ws) = .error (.outOfBounds axis value max)) := by
  have hexecute : execute now s (.ofWords op ws) =
      s.moveTo p >>= fun t => pure (withFeedRate t (ws.get? 'F'), landingText op p) := by
    obtain ⟨x, y, z⟩ := p
    cases h with
    | linear hx hy hz =>
      obtain rfl := axisGoal_iff.mp hx
      obtain rfl := axisGoal_iff.mp hy
      obtain rfl := axisGoal_iff.mp hz
      rfl
    | arc hx hy hz | arcCcw hx hy hz =>
      obtain rfl := hx
      obtain rfl := hy
      obtain rfl := axisGoal_iff.mp hz
      rfl
  rw [hexecute]
  exact moveTo_withFeedRate hs p _ _

end VirtualPrinter.Machine
