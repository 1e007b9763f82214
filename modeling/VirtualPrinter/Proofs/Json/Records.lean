import VirtualPrinter.Proofs.Json.Fitting

/-!
# Records read from their tokens

A record that is written as an object is read field by field, each by the reader of its type, in the
order in which the object has them.

## Main results

* `reads_textAs`, `reads_real`, `reads_natural`, `reads_choice`, `reads_fields`: the readers of the
  types that documents are made of.
* `entered_field`: one field of a record.
* `reads_record`: a record, once all its fields are read.
* `readValue_eq_ok`: a value that has been read before.
-/

namespace VirtualPrinter.Json

variable {α σ : Type} {depth : Nat}

/-! ### Simple types -/

theorem reads_textAs {parse : String → Option α} {s : String} {x : α} (h : parse s = some x) :
    Reads (textAs parse) depth (Value.text s).tokens x := by
  intro rest
  simp only [Value.tokens, Token.ofText, List.singleton_append, textAs, h]

theorem reads_text (s : String) : Reads text depth (Value.text s).tokens s :=
  reads_textAs rfl

theorem reads_bool (b : Bool) : Reads bool depth (Value.bool b).tokens b := fun _ => rfl

theorem reads_real (x : Float) : Reads real depth (Value.number (.real x)).tokens x := fun _ => rfl

theorem reads_natural {bound n : Nat} (h : n < bound) :
    Reads (natural bound) depth (Value.ofNat n).tokens n := by
  intro rest
  exact if_pos h

theorem reads_none (r : Reader α) : Reads (nullable r) depth Value.null.tokens none := fun _ => rfl

theorem reads_some {r : Reader α} {s : String} {x : α} (h : Reads r depth (Value.text s).tokens x) :
    Reads (nullable r) depth (Value.text s).tokens (some x) := by
  intro rest
  change (r depth ((Value.text s).tokens ++ rest)).map _ = _
  rw [h]
  rfl

theorem reads_choice {names : List (String × α)} {s : String} {x : α} (h : names.lookup s = some x) :
    Reads (choice names) depth (Value.text s).tokens x := by
  intro rest
  change textAs (fun s => names.lookup s) depth ((Value.text s).tokens ++ rest) = _
  exact reads_textAs h rest

theorem reads_fields {fs : Fields} (h : (Value.object fs).Fits depth) :
    Reads fields depth (Value.object fs).tokens fs := by
  intro rest
  have hv := h.reads rest
  rw [Value.tokens_object] at hv ⊢
  rw [fields, hv]
  rfl

/-! ### Records -/

variable {fs : List (RecordField σ)} {s : σ} {seen : List Nat} {k : String} {v : Value}
  {others : Fields} {final : σ × List Nat}

/-- One field of a record, which was not read before. -/
theorem entered_field {name : String} {r : Reader α} {set : σ → α → σ} {presence : Presence} {x : α}
    {i : Nat} (hi : fs.findIdx? (fun f => f.names.contains k) = some i)
    (hf : fs[i]? = some (.of name r set presence)) (hs : seen.contains i = false)
    (hx : Reads r depth v.tokens x)
    (ho : Entered (recordEntry fs depth) (set s x, i :: seen) others final) :
    Entered (recordEntry fs depth) (s, seen) ((k, v) :: others) final := by
  refine .cons (fun rest => ?_) ho
  simp only [recordEntry, hi, hs, hf, Bool.false_eq_true, if_false, List.cons_append, colon, bind,
    Except.bind, RecordField.of, hx rest, Except.map]
  rfl

/-- **A record is read from an object that has its fields.** -/
theorem reads_record {start t : σ} {fields : Fields}
    (h : Entered (recordEntry fs depth) (start, []) fields (t, seen))
    (hall : (fs.zipIdx.all fun (f, i) => f.presence ≠ .required || seen.contains i) = true) :
    Reads (record fs start) (depth + 1) (Value.object fields).tokens t := by
  intro rest
  rw [Value.tokens_object]
  simp only [record, deeper, entries_tokens h, bind, Except.bind, hall, if_true, endOfObject]
  rfl

/-- A value that has been read before is read once more, if its nesting allows it. -/
theorem readValue_eq_ok {r : Reader α} {v : Value} {x : α} (h : Reads r v.tokens.length v.tokens x) :
    readValue r v = .ok x := by
  have h := h []
  rw [List.append_nil] at h
  simp only [readValue, h, bind, Except.bind]
  rfl

end VirtualPrinter.Json
