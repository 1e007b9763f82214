import VirtualPrinter.Gcode.Command
import VirtualPrinter.Proofs.Gcode.Token
import VirtualPrinter.Proofs.Gcode.Words
import VirtualPrinter.Proofs.Text.Ends

/-!
# Spellings of a line

A line may be written in many ways: in capitals or in small letters, with blanks around it, with a
comment behind it, and with any of the codes of its operation.  Each stage of reading has its own idea
of letters, blanks and ends, and they agree: what a line asks for does not depend on how it is
written.

## Main definitions

* `Gcode.reading`: what a line asks for.
* `Gcode.withCode`: a line with another code.
* `Gcode.Respelled`: a line written differently in one respect.

## Main results

* `stripComment_solid`: what remains of a line that starts with a token.
* `Respelled.reading_eq`: a line asks for the same, however it is written.
-/

namespace VirtualPrinter.Gcode

open Text (CaseBlind SameLetters isBlank)

variable {line line' blanks : List Char}

/-! ### What remains of a line -/

/-- What a line asks for: nothing, an operation that is not known, or a command. -/
def reading (line : List Char) : Option (Option Command) :=
  let line := stripComment line
  if line.isEmpty then none else some (Command.parse? line)

theorem stripComment_of_sameLetters (h : SameLetters line line') :
    SameLetters (stripComment line) (stripComment line') := by
  have hsemicolon : CaseBlind (· == ';') := Text.caseBlind_of_not_isAlpha fun c hc => by
    rw [beq_eq_false_iff_ne]
    rintro rfl
    exact absurd hc (by decide)
  exact (h.takeWhile hsemicolon.not).trim

theorem stripComment_comment (line text : List Char) :
    stripComment (line ++ ';' :: text) = stripComment line := by
  rw [stripComment, stripComment, List.takeWhile_append]
  split
  · next h => simp [(List.takeWhile_prefix _).eq_of_length h]
  · rfl

theorem stripComment_blanks_append (h : ∀ c ∈ blanks, isBlank c) (line : List Char) :
    stripComment (blanks ++ line) = stripComment line := by
  have hkept : ∀ c ∈ blanks, (c != ';') = true := by
    intro c hc
    rw [bne_iff_ne]
    rintro rfl
    exact absurd (h _ hc) (by decide)
  rw [stripComment, List.takeWhile_append_of_pos hkept, Text.trim, Text.trimStart_blanks_append h]
  rfl

theorem stripComment_append_blanks (h : ∀ c ∈ blanks, isBlank c) (line : List Char) :
    stripComment (line ++ blanks) = stripComment line := by
  have hkept : ∀ c ∈ blanks.takeWhile (· != ';'), isBlank c := fun c hc =>
    h c ((List.takeWhile_prefix _).subset hc)
  rw [stripComment, stripComment, List.takeWhile_append]
  split
  · -- without a comment the blanks are at the end, and behind one they are part of it
    next hall =>
    nth_rewrite 1 [← (List.takeWhile_prefix (· != ';')).eq_of_length hall]
    exact Text.trim_append_blanks hkept _
  · rfl

/-- What remains of a line that starts with a token, and where the token ends in it. -/
theorem stripComment_solid {code rest : List Char} (hcode : code ≠ [])
    (hsolid : ∀ c ∈ code, endsToken c = false) (hrest : token rest = []) :
    ∃ words, stripComment (code ++ rest) = code ++ words ∧ token words = [] ∧
      words = Text.trimEnd (rest.takeWhile (· != ';')) := by
  have hparts : ∀ c ∈ code, isBlank c = false ∧ (c != ';') = true := fun c hc => by
    simpa [endsToken] using hsolid c hc
  refine ⟨_, ?_, ?_, rfl⟩
  · rw [stripComment, List.takeWhile_append_of_pos fun c hc => (hparts c hc).2,
      Text.trim_append_of_solid hcode fun c hc => (hparts c hc).1]
  · -- it starts like the text behind the token, or is empty
    have hprefix : Text.trimEnd (rest.takeWhile (· != ';')) <+: rest :=
      (Text.dropEndWhile_prefix _ _).trans (List.takeWhile_prefix _)
    exact token_of_prefix hprefix hrest

/-! ### Other codes -/

/-- A line with another code in the place of its first token. -/
def withCode (code line : List Char) : List Char :=
  line.takeWhile isBlank ++ code ++ behindToken (line.dropWhile isBlank)

/-- Codes are not empty. -/
theorem registry_ne_nil {entry : String × Opcode} (h : entry ∈ registry) : entry.1.toList ≠ [] := by
  have hall : registry.all fun entry => !entry.1.toList.isEmpty := by decide +kernel
  simpa using List.all_eq_true.mp hall entry h

/-- A line that names an operation consists of blanks, a code and what ends the code. -/
theorem reading_code {op : Opcode} {rest code : List Char} (hcode : code ≠ [])
    (hsolid : ∀ c ∈ code, endsToken c = false) (hrest : token rest = [])
    (h : ∀ c ∈ blanks, isBlank c)
    (hop : ∃ name, (name, op) ∈ registry ∧ SameLetters code name.toList) :
    reading (blanks ++ code ++ rest) =
      some (some (Command.ofWords op (words (Text.trimEnd (rest.takeWhile (· != ';')))))) := by
  obtain ⟨ws, hstrip, hws, rfl⟩ := stripComment_solid hcode hsolid hrest
  obtain ⟨htoken, hbehind⟩ := token_append hsolid hws
  have hresolve : resolve? (code ++ Text.trimEnd (rest.takeWhile (· != ';'))) =
      some (op, Text.trimEnd (rest.takeWhile (· != ';'))) := by
    rw [resolve?_eq_some_iff, htoken, hbehind]
    exact ⟨hop, rfl⟩
  rw [reading, List.append_assoc, stripComment_blanks_append h, hstrip]
  simp [hcode, Command.parse?, hresolve]

/-! ### Spellings -/

/-- A line written differently in one respect. -/
inductive Respelled : List Char → List Char → Prop
  /-- In the case of letters. -/
  | letters {line line' : List Char} (h : SameLetters line line') : Respelled line line'
  /-- With more blanks in front. -/
  | blanksBefore {blanks : List Char} (line : List Char) (h : ∀ c ∈ blanks, isBlank c) :
    Respelled line (blanks ++ line)
  /-- With more blanks behind. -/
  | blanksBehind {blanks : List Char} (line : List Char) (h : ∀ c ∈ blanks, isBlank c) :
    Respelled line (line ++ blanks)
  /-- With a comment. -/
  | comment (line text : List Char) : Respelled line (line ++ ';' :: text)
  /-- With any code of the operation that it names. -/
  | code {line rest : List Char} {op : Opcode} {code : String}
    (hline : resolve? (stripComment line) = some (op, rest)) (hcode : (code, op) ∈ registry) :
    Respelled line (withCode code.toList line)

/-- Lines that differ in the case of letters ask for the same. -/
theorem reading_of_sameLetters (h : SameLetters line line') : reading line' = reading line := by
  have hstrip := stripComment_of_sameLetters h
  have hempty : (stripComment line').isEmpty = (stripComment line).isEmpty := by
    rw [Bool.eq_iff_iff, List.isEmpty_iff, List.isEmpty_iff, ← SameLetters.nil_iff,
      ← SameLetters.nil_iff]
    exact ⟨hstrip.trans, hstrip.symm.trans⟩
  have hparse : Command.parse? (stripComment line') = Command.parse? (stripComment line) := by
    rcases resolve?_of_sameLetters hstrip with ⟨hr, hr'⟩ | ⟨op, rest, rest', hr, hr', hrest⟩
    · rw [Command.parse?, Command.parse?, hr, hr']
    · rw [Command.parse?, Command.parse?, hr, hr']
      simp only [Option.map_some, words_of_sameLetters hrest]
  simp only [reading, hempty, hparse]

/-- A line without blanks in front that names an operation starts with a token. -/
theorem token_ne_nil (hblank : line.dropWhile isBlank = line) (h : stripComment line ≠ []) :
    token line ≠ [] := by
  cases line with
  | nil => exact absurd rfl h
  | cons c rest =>
    have hc : isBlank c = false := by
      by_contra hc
      have hlength := List.length_dropWhile_le isBlank rest
      simp only [Bool.not_eq_false] at hc
      rw [List.dropWhile_cons_of_pos hc] at hblank
      simp [hblank] at hlength
    have hsemicolon : c ≠ ';' := by
      rintro rfl
      exact h rfl
    simp [token, endsToken, hc, hsemicolon]

/-- A line that names an operation may name it by any of its codes. -/
theorem reading_withCode {rest : List Char} {op : Opcode} {code : String}
    (h : resolve? (stripComment line) = some (op, rest)) (hcode : (code, op) ∈ registry) :
    reading (withCode code.toList line) = reading line := by
  have hblank : ∀ c ∈ line.takeWhile isBlank, isBlank c := fun c hc => List.mem_takeWhile_imp hc
  have hsolid : ∀ c ∈ token (line.dropWhile isBlank), endsToken c = false := fun c hc => by
    simpa using List.mem_takeWhile_imp hc
  have hends := token_behindToken (line.dropWhile isBlank)
  have hline : line = line.takeWhile isBlank ++ token (line.dropWhile isBlank) ++
      behindToken (line.dropWhile isBlank) := by
    rw [List.append_assoc, token_append_behindToken, List.takeWhile_append_dropWhile]
  -- behind the blanks the line starts with the token that names the operation
  have hbody : stripComment (line.dropWhile isBlank) = stripComment line := by
    rw [← stripComment_blanks_append hblank, List.takeWhile_append_dropWhile]
  have hfirst : token (line.dropWhile isBlank) ≠ [] := by
    refine token_ne_nil (List.dropWhile_idempotent _ line) ?_
    intro hnil
    rw [← hbody, hnil, show resolve? [] = none by decide] at h
    cases h
  obtain ⟨ws, hstrip, hws, -⟩ := stripComment_solid hfirst hsolid hends
  rw [token_append_behindToken, hbody] at hstrip
  rw [hstrip, resolve?_eq_some_iff, (token_append hsolid hws).1] at h
  have hname := reading_code hfirst hsolid hends hblank h.1
  rw [← hline] at hname
  rw [withCode, hname]
  exact reading_code (registry_ne_nil hcode) (fun c hc => (registry_solid hcode c hc).2) hends
    hblank ⟨code, hcode, .refl _⟩

/-- **A line asks for the same, however it is written.** -/
theorem Respelled.reading_eq (h : Respelled line line') : reading line' = reading line := by
  cases h with
  | letters h => exact reading_of_sameLetters h
  | blanksBefore _ h => rw [reading, reading, stripComment_blanks_append h]
  | blanksBehind _ h => rw [reading, reading, stripComment_append_blanks h]
  | comment _ text => rw [reading, reading, stripComment_comment]
  | code hline hcode => exact reading_withCode hline hcode

end VirtualPrinter.Gcode
