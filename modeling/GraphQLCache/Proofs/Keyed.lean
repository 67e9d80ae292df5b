import GraphQLCache.Keyed
import Mathlib.Data.List.Induction
import Mathlib.Data.List.Nodup

/-!
# `Proofs.Keyed` — what look-ups in a table find

A table has each key once, so looking a key up and finding its entry in the list are the same thing
(`get?_eq_some_iff`). A table built from pairs answers as the list of pairs does, where the first pair with a
key counts (`get?_ofPairs`).
-/

namespace GraphQLCache

/-- Under distinct keys an entry of a list is what its key finds. -/
theorem lookup_of_mem {α : Type} {pairs : List (String × α)} {key : String} {value : α}
    (hnodup : (pairs.map (·.1)).Nodup) (h : (key, value) ∈ pairs) : pairs.lookup key = some value := by
  induction pairs with
  | nil => cases h
  | cons p rest ih =>
      obtain ⟨hnot, hrest⟩ := List.nodup_cons.mp hnodup
      rcases List.mem_cons.mp h with rfl | hmem
      · exact List.lookup_cons_self
      · have hne : key ≠ p.1 := by
          intro he
          exact hnot (List.mem_map.mpr ⟨(key, value), hmem, he⟩)
        rw [List.lookup_cons, beq_false_of_ne hne]
        exact ih hrest hmem

namespace Keyed

variable {α : Type} {k : Keyed α} {key : String} {value : α}

theorem mem_entries_of_get? (h : k.get? key = some value) : (key, value) ∈ k.entries := by
  obtain ⟨l₁, l₂, heq, _⟩ := List.lookup_eq_some_iff.mp h
  rw [heq]; simp

/-- **A key finds its entry**, and nothing else. -/
theorem get?_eq_some_iff : k.get? key = some value ↔ (key, value) ∈ k.entries :=
  ⟨mem_entries_of_get?, lookup_of_mem k.distinct⟩

/-! ## Building a table -/

/-- A new key finds its value; all others find what they found before. -/
theorem get?_addNew (k : Keyed α) (key key' : String) (value : α) :
    (k.addNew key value).get? key' =
      (k.get? key').or (if key' = key then some value else none) := by
  unfold addNew
  split
  next hmem =>
    cases hget : k.get? key' with
    | some found => rfl
    | none =>
        -- A key that finds nothing is not the one that is present.
        have hne : key' ≠ key := by
          rintro rfl
          obtain ⟨e, he, hkey⟩ := List.mem_map.mp hmem
          have hfound : k.get? e.1 = some e.2 := get?_eq_some_iff.mpr he
          rw [hkey, hget] at hfound
          cases hfound
        rw [if_neg hne, Option.or_none]
  next =>
    show (k.entries ++ [(key, value)]).lookup key' = _
    rw [List.lookup_append, List.lookup_cons]
    by_cases hkey : key' = key
    · rw [hkey, beq_self_eq_true, if_pos rfl]; rfl
    · rw [beq_false_of_ne hkey, if_neg hkey]; rfl

/-- **A table built from pairs** finds under each key the value of the first pair with it. -/
theorem get?_ofPairs (pairs : List (String × α)) (key : String) :
    (ofPairs pairs).get? key = pairs.lookup key := by
  induction pairs using List.reverseRecOn with
  | nil => rfl
  | append_singleton pairs p ih =>
      have hfold : ofPairs (pairs ++ [p]) = (ofPairs pairs).addNew p.1 p.2 := by
        unfold ofPairs
        rw [List.foldl_append]
        rfl
      rw [hfold, get?_addNew, ih, List.lookup_append, List.lookup_cons]
      by_cases hkey : key = p.1
      · rw [if_pos hkey, hkey, beq_self_eq_true]
      · rw [if_neg hkey, beq_false_of_ne hkey]; rfl

end Keyed

end GraphQLCache
