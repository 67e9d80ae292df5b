/-!
# `Keyed` — values under distinct keys, in order of arrival

A table that remembers the order in which its keys arrived. The distinctness of the keys is part of the
type, so every look-up has one answer and every listing shows a key once. Schemas keep their types in one,
cache snapshots their entries.
-/

namespace GraphQLCache

/-- Values under distinct keys, in order of arrival. -/
structure Keyed (α : Type) where
  entries : List (String × α)
  distinct : (entries.map (·.1)).Nodup

namespace Keyed

variable {α : Type}

/-- No entries. -/
def empty : Keyed α := ⟨[], List.nodup_nil⟩

instance : Inhabited (Keyed α) := ⟨empty⟩

/-- The keys in order. -/
def keys (k : Keyed α) : List String := k.entries.map (·.1)

/-- The values in order. -/
def values (k : Keyed α) : List α := k.entries.map (·.2)

/-- The value under `key`. -/
def get? (k : Keyed α) (key : String) : Option α := k.entries.lookup key

/-- `value` under the new key `key`, at the end. -/
def add (k : Keyed α) (key : String) (value : α) (fresh : key ∉ k.keys) : Keyed α :=
  ⟨k.entries ++ [(key, value)], by
    rw [List.map_append, List.nodup_append]
    refine ⟨k.distinct, by simp, ?_⟩
    intro a ha b hb hab
    simp only [List.map_cons, List.map_nil, List.mem_singleton] at hb
    exact fresh (hb ▸ hab ▸ ha)⟩

/-- `value` under `key` if the key is new; a key that is present keeps its value. -/
def addNew (k : Keyed α) (key : String) (value : α) : Keyed α :=
  if h : key ∈ k.keys then k else k.add key value h

/-- The entries of `pairs`, the first of each key. -/
def ofPairs (pairs : List (String × α)) : Keyed α :=
  pairs.foldl (fun k p => k.addNew p.1 p.2) empty

end Keyed

end GraphQLCache
