import VirtualPrinter.Proofs.Wire.Envelope
import VirtualPrinter.Proofs.Wire.RoundTrip

/-!
# Envelopes in apostrophes

Some peers write their envelopes with apostrophes for quotes.  Such a text is never read as it
stands: its object begins with a key, and an apostrophe begins none.  Taking the apostrophes for
quotes again undoes what the peer did, inside the texts of the event as well as around them, as long
as there were no apostrophes before.  A quote inside a text is written behind a backslash, and keeps
the backslash on both ways.

## Main definitions

* `Event.apostrophesForQuotes`: a text with its quotes written as apostrophes.

## Main results

* `readStrict_apostrophe`: an object that begins with an apostrophe is not read as it stands.
* `read_apostrophesForQuotes`: an event is read from its text in apostrophes as from the text
  itself.
-/

namespace VirtualPrinter.Wire

open Json (Value reread)

namespace Event

/-- A text with its quotes written as apostrophes. -/
def apostrophesForQuotes (text : List Char) : List Char :=
  text.map fun c => if c == '"' then '\'' else c

theorem mem_apostrophesForQuotes {text : List Char} (h : '"' ∈ text) :
    '\'' ∈ apostrophesForQuotes text :=
  List.mem_map.mpr ⟨'"', h, rfl⟩

/-- Taking the apostrophes for quotes undoes it, if there were no apostrophes before. -/
theorem quotesForApostrophes_apostrophesForQuotes {text : List Char} (h : '\'' ∉ text) :
    quotesForApostrophes (apostrophesForQuotes text) = text := by
  have hchar : ∀ c ∈ text, (if (if c == '"' then '\'' else c) == '\'' then '"' else
      if c == '"' then '\'' else c) = c := by
    intro c hc
    by_cases hq : c = '"'
    · subst hq
      rfl
    · have ha : c ≠ '\'' := fun ha => h (ha ▸ hc)
      simp [hq, ha]
  rw [quotesForApostrophes, apostrophesForQuotes, List.map_map]
  exact (List.map_congr_left hchar).trans (List.map_id' text)

/-- An object that begins with an apostrophe is not read as it stands, whatever follows: an
apostrophe begins no token. -/
theorem readStrict_apostrophe (text : List Char) :
    readStrict ('{' :: '\'' :: text) = .error .malformed := by
  have htokens : Json.tokens ('{' :: '\'' :: text) = [.opening .curly, .stray] := by
    cases text <;> rfl
  rw [readStrict, Json.read, htokens]
  rfl

/-- The text of an event begins with the quote of its first key. -/
theorem print_eq_cons (e : Event) : ∃ text, e.print = '{' :: '"' :: text := ⟨_, rfl⟩

/-- **Events in apostrophes.**  If there are no apostrophes in its text, an event is read from this
text with apostrophes for quotes as it is read from the text itself: it comes back with its floats
reread, and as it was exactly if they are read as they were. -/
theorem read_apostrophesForQuotes {e : Event} (hfits : e.data.Fits 126)
    (hfinite : ∀ x ∈ e.data.reals, x.isFinite) (hplain : '\'' ∉ e.print) :
    read (apostrophesForQuotes e.print) = .ok (e.mapReals reread) ∧
      (read (apostrophesForQuotes e.print) = .ok e ↔ ∀ x ∈ e.data.reals, reread x = x) := by
  obtain ⟨text, htext⟩ := e.print_eq_cons
  have hstrict : (readStrict (apostrophesForQuotes e.print)).toOption = none := by
    rw [htext]
    exact congrArg Except.toOption (readStrict_apostrophe _)
  have happostrophe : '\'' ∈ apostrophesForQuotes e.print := by
    apply mem_apostrophesForQuotes
    rw [htext]
    exact List.mem_cons_of_mem _ List.mem_cons_self
  have hread : read (apostrophesForQuotes e.print) = .ok (e.mapReals reread) := by
    rw [read_eq_ok_iff hstrict, quotesForApostrophes_apostrophesForQuotes hplain]
    exact ⟨happostrophe, readStrict_print hfits hfinite⟩
  refine ⟨hread, ?_⟩
  rw [hread, Except.ok.injEq, mapReals_eq_self_iff]

/-- Quotes, backslashes and control characters in every text of an event, keys included. -/
theorem read_apostrophesForQuotes_escaped :
    let e : Event := ⟨"say \"\\\"", .object [
      ("\u0000\"", .list [.number (.real 0.5), .text "\\u0027\r\n"]),
      ("\\", .object [("\"", .null)])], some "/\"\"", some "\\\"event\":\t\u001f"⟩
    '"' ∈ e.name.toList ∧ '\'' ∉ e.print ∧ apostrophesForQuotes e.print ≠ e.print ∧
      read (apostrophesForQuotes e.print) = .ok e := by
  intro e
  have hfits : e.data.Fits 126 := by
    refine .object (List.pairwise_pair.mpr (by decide)) (List.forall_mem_cons.mpr ⟨?_, ?_⟩)
    · exact .list (List.forall_mem_cons.mpr
        ⟨.number trivial, List.forall_mem_singleton.mpr (.text _)⟩)
    · exact List.forall_mem_singleton.mpr
        (.object (List.pairwise_singleton _ _) (List.forall_mem_singleton.mpr .null))
  have hreals : e.data.reals = [0.5] := rfl
  have hfinite : ∀ x ∈ e.data.reals, x.isFinite := by
    rw [hreals]
    decide
  have hreread : ∀ x ∈ e.data.reals, reread x = x := by
    rw [hreals]
    decide +kernel
  have hplain : '\'' ∉ e.print := by decide +kernel
  exact ⟨by decide, hplain, by decide +kernel,
    (read_apostrophesForQuotes hfits hfinite hplain).2.mpr hreread⟩

end Event

end VirtualPrinter.Wire
