import GraphQLCache.Json.Basic
import GraphQLCache.Proofs.Keyed

/-!
# `Proofs.Entries` — what inserting entries one after the other builds

`Entries.ofPairs` keeps the first place and the last value of each key. The two halves are separate facts:
`keys_ofPairs` says which keys there are and in which order, `get?_ofPairs` says which value each of them has.
Both go by induction on the pairs from the end, where one more pair is one more insertion.
-/

namespace GraphQLCache

namespace Entries

variable {entries : Entries} {key key' : String} {value : Json} {pairs : List (String × Json)}

/-! ## Insertion -/

/-- A key that is present keeps its place, a new key comes last. -/
theorem keys_insert (entries : Entries) (key : String) (value : Json) :
    keys (insert entries key value) =
      if key ∈ keys entries then keys entries else keys entries ++ [key] := by
  induction entries with
  | nil => simp [insert, keys]
  | cons e rest ih =>
      by_cases he : e.1 = key
      · rw [insert, if_pos he]
        simp [keys, he]
      · rw [insert, if_neg he]
        have hkeys : keys (e :: rest) = e.1 :: keys rest := rfl
        have hmem : key ∈ keys (e :: rest) ↔ key ∈ keys rest := by
          rw [hkeys, List.mem_cons, or_iff_right (fun h => he h.symm)]
        show e.1 :: keys (insert rest key value) = _
        rw [ih]
        by_cases hk : key ∈ keys rest
        · rw [if_pos hk, if_pos (hmem.mpr hk), hkeys]
        · rw [if_neg hk, if_neg (fun h => hk (hmem.mp h)), hkeys, List.cons_append]

theorem get?_cons (e : String × Json) (rest : Entries) :
    get? (e :: rest) key = if key = e.1 then some e.2 else get? rest key := by
  unfold get?
  by_cases h : key = e.1
  · rw [if_pos h, List.lookup_cons, h, beq_self_eq_true]
  · rw [if_neg h, List.lookup_cons, beq_false_of_ne h]

/-- The inserted value is found under its key, and every other key is as before. -/
theorem get?_insert (entries : Entries) (key key' : String) (value : Json) :
    get? (insert entries key value) key' = if key' = key then some value else get? entries key' := by
  induction entries with
  | nil => rw [insert, get?_cons]
  | cons e rest ih =>
      by_cases he : e.1 = key
      · rw [insert, if_pos he, get?_cons, get?_cons, he]
        by_cases h : key' = key
        · rw [if_pos h, if_pos h]
        · rw [if_neg h, if_neg h, if_neg h]
      · rw [insert, if_neg he, get?_cons, get?_cons, ih]
        by_cases h : key' = e.1
        · rw [if_pos h, if_pos h, if_neg (fun hk => he (h.symm.trans hk))]
        · rw [if_neg h, if_neg h]

/-- Inserting under another key leaves the first entry in front. -/
theorem insert_cons_of_ne {e : String × Json} (h : e.1 ≠ key) (rest : Entries) :
    insert (e :: rest) key value = e :: insert rest key value := by rw [insert, if_neg h]

/-- What is in the entries afterwards was inserted or was there before. -/
theorem mem_insert {e : String × Json} (h : e ∈ insert entries key value) :
    e = (key, value) ∨ e ∈ entries := by
  induction entries with
  | nil => exact Or.inl (List.mem_singleton.mp h)
  | cons e' rest ih =>
      by_cases he : e'.1 = key
      · rw [insert, if_pos he] at h
        rcases List.mem_cons.mp h with heq | hrest
        · exact Or.inl heq
        · exact Or.inr (List.mem_cons_of_mem _ hrest)
      · rw [insert_cons_of_ne he] at h
        rcases List.mem_cons.mp h with heq | hrest
        · exact Or.inr (heq ▸ List.mem_cons_self)
        · exact (ih hrest).imp id (List.mem_cons_of_mem _)

/-! ## Distinct keys -/

theorem nodup_insert (h : (keys entries).Nodup) : (keys (insert entries key value)).Nodup := by
  rw [keys_insert]
  by_cases hk : key ∈ keys entries
  · rw [if_pos hk]; exact h
  · rw [if_neg hk, List.nodup_append]
    refine ⟨h, List.nodup_singleton key, ?_⟩
    intro a ha b hb hab
    rw [List.mem_singleton] at hb
    exact hk (hb ▸ hab ▸ ha)

theorem mem_keys_of_mem (h : (key, value) ∈ entries) : key ∈ keys entries :=
  List.mem_map.mpr ⟨(key, value), h, rfl⟩

/-- Under distinct keys an entry is what its key finds. -/
theorem get?_of_mem (hnodup : (keys entries).Nodup) (h : (key, value) ∈ entries) :
    get? entries key = some value := lookup_of_mem hnodup h

/-- Entries with the same keys in the same order and the same values under them are equal. -/
theorem ext_of_keys {a b : Entries} (hkeys : keys a = keys b)
    (hvalues : ∀ key v w, (key, v) ∈ a → (key, w) ∈ b → v = w) : a = b := by
  induction a generalizing b with
  | nil => exact (List.map_eq_nil_iff.mp hkeys.symm).symm
  | cons e rest ih =>
      cases b with
      | nil => cases hkeys
      | cons e' rest' =>
          obtain ⟨key, v⟩ := e
          obtain ⟨key', w⟩ := e'
          obtain ⟨rfl, hrest⟩ := List.cons_eq_cons.mp hkeys
          rw [hvalues key v w List.mem_cons_self List.mem_cons_self, ih hrest]
          intro key v w hv hw
          exact hvalues key v w (List.mem_cons_of_mem _ hv) (List.mem_cons_of_mem _ hw)

/-! ## Entries from pairs -/

theorem ofPairs_concat (pairs : List (String × Json)) (p : String × Json) :
    ofPairs (pairs ++ [p]) = insert (ofPairs pairs) p.1 p.2 := by
  unfold ofPairs
  rw [List.foldl_append]
  rfl

/-- The keys are those of the pairs, each once and in order of first arrival. -/
theorem keys_ofPairs (pairs : List (String × Json)) :
    keys (ofPairs pairs) = (pairs.map (·.1)).eraseDups := by
  induction pairs using List.reverseRecOn with
  | nil => rfl
  | append_singleton pairs p ih =>
      rw [ofPairs_concat, keys_insert, ih, List.map_append, List.eraseDups_append, List.map_singleton,
        List.cons_removeAll, List.nil_removeAll]
      by_cases hp : p.1 ∈ pairs.map (·.1)
      · have hcontains : ¬ (pairs.map (·.1)).contains p.1 = false := by
          rw [List.contains_iff_mem.mpr hp]; exact Bool.noConfusion
        rw [if_pos (List.mem_eraseDups.mpr hp), if_neg hcontains, List.eraseDups_nil, List.append_nil]
      · have hcontains : (pairs.map (·.1)).contains p.1 = false :=
          Bool.eq_false_iff.mpr fun h => hp (List.contains_iff_mem.mp h)
        rw [if_neg (fun h => hp (List.mem_eraseDups.mp h)), if_pos hcontains]
        rfl

/-- The value under a key is that of the last pair with this key. -/
theorem get?_ofPairs (pairs : List (String × Json)) (key : String) :
    get? (ofPairs pairs) key = pairs.reverse.lookup key := by
  induction pairs using List.reverseRecOn with
  | nil => rfl
  | append_singleton pairs p ih =>
      rw [ofPairs_concat, get?_insert, ih, List.reverse_append, List.reverse_singleton, List.singleton_append]
      exact (get?_cons p pairs.reverse).symm

theorem nodup_ofPairs (pairs : List (String × Json)) : (keys (ofPairs pairs)).Nodup := by
  induction pairs using List.reverseRecOn with
  | nil => exact List.nodup_nil
  | append_singleton pairs p ih => rw [ofPairs_concat]; exact nodup_insert ih

/-- A first key that does not come again stays in front of what the other pairs build. -/
theorem ofPairs_cons_of_not_mem (h : key ∉ pairs.map (·.1)) :
    ofPairs ((key, value) :: pairs) = (key, value) :: ofPairs pairs := by
  induction pairs using List.reverseRecOn with
  | nil => rfl
  | append_singleton pairs p ih =>
      rw [List.map_append, List.mem_append, not_or] at h
      have hne : key ≠ p.1 := fun he => h.2 (by simp [he])
      rw [← List.cons_append, ofPairs_concat, ih h.1, insert_cons_of_ne hne, ofPairs_concat]

end Entries

end GraphQLCache
