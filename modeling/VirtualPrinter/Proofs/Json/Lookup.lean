import VirtualPrinter.Proofs.Json.Fitting

/-!
# Looking up fields

What is found in an object after a field has been inserted, and after an object has been laid over
another one.  In fields that are in order a key occurs once, so that every field of the upper object
is found and of the lower one those whose keys the upper one does not have.

## Main results

* `get?_insert`, `get?_foldl`: what is found after one insertion, and after many.
* `ofList_append_singleton`: a field that is set behind fields in order.
-/

namespace VirtualPrinter.Json.Fields

variable {fields base : Fields} {k key : String} {v : Value}

theorem get?_cons (p : String × Value) (fields : Fields) (key : String) :
    get? (p :: fields) key = if key = p.1 then some p.2 else fields.get? key := by
  rw [get?, List.lookup_cons]
  by_cases h : key = p.1
  · rw [if_pos h, h, beq_self_eq_true]
  · rw [if_neg h, beq_false_of_ne h]
    rfl

/-- Nothing is found where no field has the key. -/
theorem get?_eq_none (h : ∀ p ∈ fields, p.1 ≠ key) : fields.get? key = none := by
  induction fields with
  | nil => rfl
  | cons p rest ih =>
    obtain ⟨hp, hrest⟩ := List.forall_mem_cons.mp h
    rw [get?_cons, if_neg hp.symm, ih hrest]

/-- A field that was inserted is found, and the others as before. -/
theorem get?_insert (k : String) (v : Value) (fields : Fields) (key : String) :
    (insert k v fields).get? key = if key = k then some v else fields.get? key := by
  induction fields with
  | nil => exact get?_cons (k, v) [] key
  | cons p rest ih =>
    rw [insert]
    split
    · exact get?_cons (k, v) (p :: rest) key
    · split
      · next he =>
        obtain rfl := beq_iff_eq.mp he
        rw [get?_cons, get?_cons]
        split <;> rfl
      · next hne =>
        -- a field with another key stays in front, and hides no field with this one
        rw [get?_cons, get?_cons, ih]
        by_cases hp : key = p.1
        · have hk : key ≠ k := by
            rintro rfl
            exact hne (beq_iff_eq.mpr hp)
          rw [if_pos hp, if_neg hk, if_pos hp]
        · rw [if_neg hp, if_neg hp]

/-- **Fields laid over others**: what they have is found there, and everything else below them. -/
theorem get?_foldl (h : fields.InOrder) (base : Fields) (key : String) :
    (fields.foldl (fun f p => f.insert p.1 p.2) base).get? key =
      (fields.get? key).or (base.get? key) := by
  induction fields generalizing base with
  | nil => rfl
  | cons p rest ih =>
    obtain ⟨hp, hrest⟩ := List.pairwise_cons.mp h
    rw [List.foldl_cons, ih hrest, get?_insert, get?_cons]
    by_cases hk : key = p.1
    · -- the key does not occur again, so that nothing overwrites the field
      have hnone : get? rest key = none :=
        get?_eq_none fun q hq he => String.lt_irrefl p.1 (by
          have hlt := hp q hq
          rwa [he, hk] at hlt)
      rw [if_pos hk, if_pos hk, hnone, Option.none_or, Option.some_or]
    · rw [if_neg hk, if_neg hk]

/-- A field that is set behind fields in order. -/
theorem ofList_append_singleton (h : fields.InOrder) (k : String) (v : Value) :
    ofList (fields ++ [(k, v)]) = fields.insert k v := by
  have hself : ofList fields = fields := ofList_eq_self h
  rw [ofList] at hself
  rw [ofList, List.foldl_append, hself]
  rfl

end VirtualPrinter.Json.Fields
