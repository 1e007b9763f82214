import VirtualPrinter.Gcode.Opcode
import VirtualPrinter.Proofs.Text.Case

/-!
# Codes as tokens

A line names an operation by its first token: what stands before the first blank or semicolon.  The
codes are tried one by one, each as far as it goes, and the longest that fits counts; but a code ends
where a token ends, and no two codes are spelled alike, so one fits at most and it is the whole token.

## Main definitions

* `Gcode.token`, `Gcode.behindToken`: the first token of a line, and what follows.

## Main results

* `fitting_eq`: the codes that fit a line.
* `length_fitting_le_one`: no two codes fit a line.
* `resolve?_eq_some_iff`, `resolve?_eq_none_iff`: looking up the token is all that is done.
-/

namespace VirtualPrinter.Gcode

open Text (CaseBlind SameLetters)

/-- A character that ends a token. -/
def endsToken (c : Char) : Bool := Text.isBlank c || c == ';'

/-- The first token of a line: its longest part from the start without a blank or a semicolon. -/
def token (line : List Char) : List Char := line.takeWhile fun c => !endsToken c

/-- What follows the first token. -/
def behindToken (line : List Char) : List Char := line.dropWhile fun c => !endsToken c

/-! ### The registry -/

/-- Codes are written in capitals and hold nothing that ends a token. -/
theorem registry_solid {entry : String × Opcode} (h : entry ∈ registry) :
    ∀ c ∈ entry.1.toList, c.toUpper = c ∧ endsToken c = false := by
  have hall : registry.all fun entry =>
      entry.1.toList.all fun c => c.toUpper == c && !endsToken c := by
    decide +kernel
  intro c hc
  have := List.all_eq_true.mp (List.all_eq_true.mp hall entry h) c hc
  simpa using this

/-- No two entries have codes that are spelled alike. -/
theorem registry_distinct :
    (registry.map fun entry => entry.1.toList.map Char.toLower).Nodup := by
  decide +kernel

/-- Entries with codes that are spelled alike are one. -/
theorem eq_of_sameLetters {a b : String × Opcode} (ha : a ∈ registry) (hb : b ∈ registry)
    (h : SameLetters a.1.toList b.1.toList) : a = b :=
  List.inj_on_of_nodup_map registry_distinct ha hb h

/-! ### Where a code ends -/

theorem caseBlind_endsToken : CaseBlind endsToken :=
  Text.caseBlind_of_not_isAlpha fun c hc => by
    have hsemicolon : c ≠ ';' := by
      rintro rfl
      exact absurd hc (by decide)
    simp [endsToken, Text.isBlank_of_isAlpha hc, hsemicolon]

theorem endsToken_toUpper (c : Char) : endsToken c.toUpper = endsToken c := by
  rw [← caseBlind_endsToken c.toUpper, Char.toLower_toUpper_eq_toLower, caseBlind_endsToken]

theorem endsCode_iff (rest : List Char) : endsCode rest ↔ token rest = [] := by
  cases rest with
  | nil => exact iff_of_true rfl rfl
  | cons c rest =>
    have h : endsCode (c :: rest) = endsToken c := rfl
    rw [h]
    cases hc : endsToken c <;> simp [token, hc]

theorem token_append_behindToken (line : List Char) : token line ++ behindToken line = line :=
  List.takeWhile_append_dropWhile

/-- What follows the first token starts with nothing of it. -/
theorem token_behindToken (line : List Char) : token (behindToken line) = [] := by
  induction line with
  | nil => rfl
  | cons c line ih =>
    cases hc : endsToken c with
    | false => simpa [behindToken, hc] using ih
    | true => simp [behindToken, token, hc]

theorem token_of_prefix {s t : List Char} (h : s <+: t) (ht : token t = []) : token s = [] := by
  cases s with
  | nil => rfl
  | cons c s =>
    obtain ⟨rest, rfl⟩ := h
    cases hc : endsToken c with
    | true => simp [token, hc]
    | false => simp [token, hc] at ht

/-- A part without an end, and one that starts with an end, are the token and what follows. -/
theorem token_append {s t : List Char} (hs : ∀ c ∈ s, endsToken c = false) (ht : token t = []) :
    token (s ++ t) = s ∧ behindToken (s ++ t) = t := by
  have hinner : ∀ c ∈ s, (!endsToken c) = true := fun c hc => by rw [hs c hc]; rfl
  have htoken : token (s ++ t) = s := by
    rw [token, List.takeWhile_append_of_pos hinner, ← token, ht, List.append_nil]
  have hbehind : s ++ behindToken (s ++ t) = s ++ t := by
    nth_rewrite 1 [← htoken]
    exact token_append_behindToken _
  exact ⟨htoken, List.append_cancel_left hbehind⟩

/-- **A code that fits is the whole token.**  Codes are compared in capitals. -/
theorem behindCode?_eq {code : List Char} (h : ∀ c ∈ code, c.toUpper = c ∧ endsToken c = false)
    (line : List Char) :
    behindCode? code line =
      if SameLetters (token line) code then some (behindToken line) else none := by
  induction code generalizing line with
  | nil =>
    rw [behindCode?]
    have hiff : endsCode line ↔ SameLetters (token line) [] := by
      rw [SameLetters.nil_iff, endsCode_iff]
    by_cases hends : endsCode line
    · have hbehind : behindToken line = line := by
        conv_rhs => rw [← token_append_behindToken line, (endsCode_iff line).mp hends]
        rfl
      rw [if_pos hends, if_pos (hiff.mp hends), hbehind]
    · rw [if_neg hends, if_neg (hiff.not.mp hends)]
  | cons c code ih =>
    obtain ⟨⟨hupper, hinner⟩, hcode⟩ := List.forall_mem_cons.mp h
    cases line with
    | nil => simp [behindCode?, token, SameLetters]
    | cons d line =>
      rw [behindCode?]
      by_cases hd : d.toUpper = c
      · -- a letter of the code is inside of the token
        have hdinner : endsToken d = false := by rw [← endsToken_toUpper, hd, hinner]
        have hletter : d.toLower = c.toLower := by
          rw [Text.toLower_eq_iff_toUpper_eq, hd, hupper]
        have htoken : token (d :: line) = d :: token line := by simp [token, hdinner]
        have hbehind : behindToken (d :: line) = behindToken line := by simp [behindToken, hdinner]
        simp only [hd, beq_self_eq_true, if_true, ih hcode, htoken, hbehind, SameLetters.cons_iff,
          hletter, true_and]
      · rw [if_neg (by simpa using hd), if_neg]
        intro hs
        cases hdends : endsToken d with
        | true => simp [token, hdends, SameLetters] at hs
        | false =>
          have htoken : token (d :: line) = d :: token line := by simp [token, hdends]
          rw [htoken, SameLetters.cons_iff, Text.toLower_eq_iff_toUpper_eq, hupper] at hs
          exact hd hs.1

/-! ### Looking up -/

/-- **The codes that fit a line are the spellings of its first token.** -/
theorem fitting_eq (line : List Char) :
    fitting line = (registry.filter fun entry => decide (SameLetters (token line) entry.1.toList)).map
      fun entry => (entry.1, entry.2, behindToken line) := by
  have hentry : ∀ entry ∈ registry,
      (behindCode? entry.1.toList line).map (fun rest => (entry.1, entry.2, rest)) =
        if SameLetters (token line) entry.1.toList then some (entry.1, entry.2, behindToken line)
        else none := by
    intro entry hmem
    rw [behindCode?_eq (registry_solid hmem)]
    split <;> rfl
  calc fitting line
    _ = registry.filterMap fun entry =>
        if SameLetters (token line) entry.1.toList then some (entry.1, entry.2, behindToken line)
        else none := List.filterMap_congr hentry
    _ = _ := by
        rw [← List.filterMap_eq_map, List.filterMap_filter]
        simp only [decide_eq_true_eq, Function.comp_apply]

/-- **No two codes fit a line.** -/
theorem length_fitting_le_one (line : List Char) : (fitting line).length ≤ 1 := by
  have hcount := List.nodup_iff_count_le_one.mp registry_distinct ((token line).map Char.toLower)
  rw [List.count, List.countP_map, List.countP_eq_length_filter] at hcount
  have hspelled (entry : String × Opcode) : decide (SameLetters (token line) entry.1.toList) =
      (entry.1.toList.map Char.toLower == (token line).map Char.toLower) := by
    rw [Bool.eq_iff_iff, decide_eq_true_iff, beq_iff_eq]
    exact eq_comm
  rw [fitting_eq, List.length_map, funext hspelled]
  exact hcount

/-- **Looking up the first token is all that is done.** -/
theorem resolve?_eq_some_iff {line rest : List Char} {op : Opcode} :
    resolve? line = some (op, rest) ↔
      (∃ code, (code, op) ∈ registry ∧ SameLetters (token line) code.toList) ∧
        rest = behindToken line := by
  have hmem (entry : String × Opcode × List Char) : entry ∈ fitting line ↔
      (entry.1, entry.2.1) ∈ registry ∧ SameLetters (token line) entry.1.toList ∧
        entry.2.2 = behindToken line := by
    obtain ⟨code, op, rest⟩ := entry
    rw [fitting_eq]
    simp [and_assoc, eq_comm]
  -- what is chosen from one code at most is that code
  have hone := length_fitting_le_one line
  rw [resolve?]
  match hf : fitting line with
  | [] =>
    rw [hf] at hmem
    refine iff_of_false nofun ?_
    rintro ⟨⟨code, hcode, hs⟩, rfl⟩
    exact absurd ((hmem (code, op, behindToken line)).mpr ⟨hcode, hs, rfl⟩) List.not_mem_nil
  | [(code, o, r)] =>
    rw [hf] at hmem
    obtain ⟨hcode, hs, hr⟩ := (hmem (code, o, r)).mp List.mem_cons_self
    dsimp only at hcode hs hr
    subst hr
    have hfold : ([(code, o, behindToken line)].foldl longer none).map (fun entry => entry.2) =
        some (o, behindToken line) := rfl
    rw [hfold]
    constructor
    · rintro ⟨⟩
      exact ⟨⟨code, hcode, hs⟩, rfl⟩
    · rintro ⟨⟨code', hcode', hs'⟩, rfl⟩
      -- the two codes are spelled alike
      cases eq_of_sameLetters hcode hcode' (hs.symm.trans hs')
      rfl
  | _ :: _ :: _ =>
    rw [hf] at hone
    simp at hone

theorem resolve?_eq_none_iff {line : List Char} :
    resolve? line = none ↔ ∀ entry ∈ registry, ¬SameLetters (token line) entry.1.toList := by
  constructor
  · rintro hr ⟨code, op⟩ hmem hs
    rw [resolve?_eq_some_iff.mpr ⟨⟨code, hmem, hs⟩, rfl⟩] at hr
    cases hr
  · intro hno
    rw [Option.eq_none_iff_forall_ne_some]
    rintro ⟨op, rest⟩ hr
    obtain ⟨⟨code, hmem, hs⟩, -⟩ := resolve?_eq_some_iff.mp hr
    exact hno _ hmem hs

/-- Lines that differ in the case of letters name the same operation. -/
theorem resolve?_of_sameLetters {line line' : List Char} (h : SameLetters line line') :
    (resolve? line = none ∧ resolve? line' = none) ∨
      ∃ op rest rest', resolve? line = some (op, rest) ∧ resolve? line' = some (op, rest') ∧
        SameLetters rest rest' := by
  have htoken : SameLetters (token line) (token line') := h.takeWhile caseBlind_endsToken.not
  cases hr : resolve? line with
  | none =>
    refine .inl ⟨rfl, resolve?_eq_none_iff.mpr fun entry hmem hs => ?_⟩
    exact resolve?_eq_none_iff.mp hr entry hmem (htoken.trans hs)
  | some found =>
    obtain ⟨op, rest⟩ := found
    obtain ⟨⟨code, hmem, hs⟩, rfl⟩ := resolve?_eq_some_iff.mp hr
    exact .inr ⟨op, _, _, rfl, resolve?_eq_some_iff.mpr ⟨⟨code, hmem, htoken.symm.trans hs⟩, rfl⟩,
      h.dropWhile caseBlind_endsToken.not⟩

end VirtualPrinter.Gcode
