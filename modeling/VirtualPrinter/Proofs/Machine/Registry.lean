import VirtualPrinter.Machine.Registry
import VirtualPrinter.Proofs.Json.Admission

/-!
# What a registry admits

The free properties of an entry are any JSON, but they stand inside of a list and a record, so that
they are nested two levels less deep than a text may be.

## Main definitions

* `Entry.Storable`: the free properties of an entry keep within an allowance.

## Main results

* `storable_of_readRegistry`: the free properties of every entry of a registry that was read.
-/

namespace VirtualPrinter.Machine

open Json (Value Yields yields_field yields_record yields_listOf yields_fields textAs_passes
  natural_passes read_yields)

namespace Entry

/-- The free properties of an entry keep within an allowance of nesting. -/
structure Storable (depth : Nat) (e : Entry) : Prop where
  attributes : (Value.object e.attributes).Fits depth
  data : (Value.object e.data).Fits depth

theorem storable_empty (depth : Nat) : empty.Storable (depth + 1) :=
  ⟨.object .nil fun _ hp => absurd hp List.not_mem_nil,
    .object .nil fun _ hp => absurd hp List.not_mem_nil⟩

/-- Every field of an entry keeps the free properties within the allowance it is read with. -/
theorem yields_recordFields (depth : Nat) : ∀ f ∈ recordFields, ∀ e : Entry,
    e.Storable (depth + 1) → Yields (f.read e (depth + 1)) (Storable (depth + 1)) := by
  have hbrand : Yields (Json.record brandFields empty.brand (depth + 1)) fun _ => True := by
    refine yields_record trivial ?_
    simp only [brandFields, List.forall_mem_cons]
    refine ⟨fun s _ => ?_, fun s _ => ?_, fun s _ => ?_, nofun⟩ <;>
      exact yields_field (textAs_passes _ _) fun _ _ => trivial
  simp only [recordFields, List.forall_mem_cons]
  -- only the last two fields hold free properties
  refine ⟨fun e h => ?_, fun e h => ?_, fun e h => ?_, fun e h => ?_, fun e h => ?_, nofun⟩
  · exact yields_field (natural_passes _ _) fun _ _ => { h with }
  · exact yields_field (textAs_passes _ _) fun _ _ => { h with }
  · exact yields_field hbrand fun _ _ => { h with }
  · exact yields_field (yields_fields _) fun _ hd => { h with data := hd }
  · exact yields_field (yields_fields _) fun _ ha => { h with attributes := ha }

end Entry

/-- **The free properties of an entry leave room for two levels around them.** -/
theorem storable_of_readRegistry {text : String} {entries : List Entry}
    (h : readRegistry text = .ok entries) : ∀ e ∈ entries, e.Storable 125 := by
  have hlist : Yields (Json.listOf (Json.record Entry.recordFields .empty) Json.nesting)
      fun entries => ∀ e ∈ entries, e.Storable 125 :=
    yields_listOf (yields_record (Entry.storable_empty 124) (Entry.yields_recordFields 124))
  unfold readRegistry at h
  cases hr : Json.read (Json.listOf (Json.record Entry.recordFields .empty)) text.toList with
  | error fault =>
    rw [hr] at h
    cases h
  | ok read =>
    rw [hr] at h
    cases h
    exact read_yields hlist hr

end VirtualPrinter.Machine
