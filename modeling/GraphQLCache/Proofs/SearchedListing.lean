import GraphQLCache.Proofs.EntryGroups
import GraphQLCache.Proofs.Regular

/-!
# `Proofs.SearchedListing` — searching before or after listing is the same

A search can look through the entities of a type once they are listed, or through the snapshot before the
listing is made. `searching_commutes_with_listing` says that both ways give the same entities with the same
labels in the same order.

Selecting entries and searching them are both filters of one list, and those commute. Sorting lies between
them, and it commutes with a filter because it is stable (`filter_mergeSort`): where labels tie, the entities
that a search keeps are left in the order in which they came, with or without the others among them.
-/

namespace GraphQLCache

/-! ## Stable sorting and filters -/

section Sorting

variable {α : Type} {le : α → α → Bool}

/-- A list is cut in one way only into a part of which all elements have a property and a part of which none
    has. -/
theorem append_inj_of_property {p : α → Prop} {a b c d : List α} (h : a ++ b = c ++ d)
    (ha : ∀ x ∈ a, p x) (hb : ∀ x ∈ b, ¬ p x) (hc : ∀ x ∈ c, p x) (hd : ∀ x ∈ d, ¬ p x) :
    a = c ∧ b = d := by
  -- What one cut has before it and the other behind it would have the property and not have it.
  rcases List.append_eq_append_iff.mp h with ⟨between, rfl, rfl⟩ | ⟨between, rfl, rfl⟩
  · cases between with
    | nil => exact ⟨(List.append_nil a).symm, rfl⟩
    | cons x rest => exact absurd (hc x (by simp)) (hb x (by simp))
  · cases between with
    | nil => exact ⟨List.append_nil c, rfl⟩
    | cons x rest => exact absurd (ha x (by simp)) (hd x (by simp))

/-- **Filtering a sorted list sorts the filtered list**: a stable sort leaves the elements that a filter keeps
    in the order that they have without the others. -/
theorem filter_mergeSort (trans : ∀ a b c, le a b = true → le b c = true → le a c = true)
    (total : ∀ a b, (le a b || le b a) = true) (keep : α → Bool) (items : List α) :
    (items.mergeSort le).filter keep = (items.filter keep).mergeSort le := by
  induction items with
  | nil => rw [List.mergeSort_nil, List.filter_nil, List.mergeSort_nil]
  | cons a rest ih =>
      -- Sorting puts the first element behind just those that strictly precede it.
      obtain ⟨before, behind, hwhole, hrest, hbefore⟩ := List.mergeSort_cons trans total a rest
      rw [hwhole, List.filter_append]
      rw [hrest, List.filter_append] at ih
      by_cases hkeep : keep a = true
      · rw [List.filter_cons_of_pos hkeep, List.filter_cons_of_pos hkeep]
        obtain ⟨before', behind', hkept, hrest', hbefore'⟩ :=
          List.mergeSort_cons trans total a (rest.filter keep)
        have hsorted := List.pairwise_mergeSort trans total (a :: rest)
        have hsorted' := List.pairwise_mergeSort trans total (a :: rest.filter keep)
        rw [hwhole] at hsorted
        rw [hkept] at hsorted'
        have hbehind : ∀ x ∈ behind, le a x = true :=
          (List.pairwise_cons.mp (List.pairwise_append.mp hsorted).2.1).1
        have hbehind' : ∀ x ∈ behind', le a x = true :=
          (List.pairwise_cons.mp (List.pairwise_append.mp hsorted').2.1).1
        rw [hrest'] at ih
        obtain ⟨hfront, hback⟩ := append_inj_of_property (p := fun x => le a x = false) ih
          (fun x hx => by simpa using hbefore x (List.mem_of_mem_filter hx))
          (fun x hx => by simp [hbehind x (List.mem_of_mem_filter hx)])
          (fun x hx => by simpa using hbefore' x hx)
          (fun x hx => by simp [hbehind' x hx])
        rw [hkept, hfront, hback]
      · rw [List.filter_cons_of_neg hkeep, List.filter_cons_of_neg hkeep]
        exact ih

end Sorting

namespace Snapshot

variable {s : Snapshot} {schema : Schema} {type search : String}

/-! ## Searching a snapshot -/

/-- **A search keeps an entry of a snapshot** where the text that it is for, trimmed and in small letters,
    stands in the id or in the value as it is written, both in small letters. -/
def KeptBy (search : String) (e : String × Json) : Prop :=
  Occurs (lowerText (trimText search)) (lowerText e.1) ∨
  Occurs (lowerText (trimText search)) (lowerText e.2.dumpRaw)

/-- The search of entities asks the same of an id and a record. -/
theorem foundIn_iff {id : String} {record : Entries} :
    foundIn (searchKey search) id record = true ↔ KeptBy search (id, .obj record) := by
  unfold foundIn matchesKey searchKey searchText KeptBy
  rw [Bool.or_eq_true, textContains_iff, textContains_iff]

instance (search : String) (e : String × Json) : Decidable (KeptBy search e) :=
  decidable_of_iff (textContains (lowerText e.1) (searchKey search) = true ∨
    textContains (lowerText e.2.dumpRaw) (searchKey search) = true)
    (or_congr textContains_iff textContains_iff)

/-- The entries of a snapshot that a search keeps, in order. -/
def searched (s : Snapshot) (search : String) : Snapshot :=
  ⟨s.entries.filter (KeptBy search ·), s.distinct.sublist (List.filter_sublist.map _)⟩

/-- A blank search keeps every entry. -/
theorem searched_of_blank (h : trimText search = "") (s : Snapshot) : s.searched search = s := by
  have hall : ∀ e : String × Json, KeptBy search e := by
    intro e
    refine Or.inl ⟨"", lowerText e.1, ?_⟩
    rw [h]
    rfl
  have hentries : s.entries.filter (KeptBy search ·) = s.entries :=
    List.filter_eq_self.mpr fun e _ => decide_eq_true (hall e)
  cases s
  exact Keyed.mk.injEq .. ▸ hentries

/-- The records of a searched snapshot are those that the search finds. -/
theorem records_searched (s : Snapshot) (search : String) :
    (s.searched search).records = s.records.filter fun e => foundIn (searchKey search) e.1 e.2 := by
  unfold records searched
  rw [List.filterMap_filter, List.filter_filterMap]
  refine List.filterMap_congr fun e _ => ?_
  obtain ⟨id, j⟩ := e
  by_cases hreserved : reservedIds.contains id = true
  · rw [if_pos hreserved, ite_self]
    rfl
  · rw [if_neg hreserved]
    cases j with
    | obj record =>
        show (if decide (KeptBy search (id, .obj record)) = true then some (id, record) else none) =
          if foundIn (searchKey search) id record = true then some (id, record) else none
        simp only [foundIn_iff, decide_eq_true_eq]
    | _ => exact ite_self _

/-- What a searched snapshot offers is what a search keeps of the offer. -/
theorem offered_searched (s : Snapshot) (schema : Schema) (type search : String) :
    (s.searched search).offered schema type = filterEntities (s.offered schema type) search := by
  unfold offered filterEntities
  rw [records_searched, List.filter_map, List.filter_filter, List.filter_filter]
  refine congrArg (List.map offer) (List.filter_congr fun e _ => ?_)
  exact Bool.and_comm _ _

/-- **Searching before or after listing is the same.** For every snapshot, or none, which is like an empty one,
    every schema, type name and search: the entities that the search keeps of a listing are the listing of the
    entries that it keeps of the snapshot. A blank search keeps the whole snapshot. -/
theorem searching_commutes_with_listing (cache : Option Snapshot) (schema : Schema) (type search : String) :
    filterEntities ((cache.getD .empty).entitiesOf schema type) search =
      ((cache.map (searched · search)).getD .empty).entitiesOf schema type ∧
    (trimText search = "" → cache.map (searched · search) = cache) := by
  constructor
  · have hlisted : ∀ s : Snapshot, filterEntities (s.entitiesOf schema type) search =
        (s.searched search).entitiesOf schema type := by
      intro s
      rw [entitiesOf_eq, entitiesOf_eq, offered_searched]
      exact filter_mergeSort entityLE_trans entityLE_total _ _
    cases cache with
    | none => exact hlisted .empty
    | some s => exact hlisted s
  · intro hblank
    cases cache with
    | none => rfl
    | some s => exact congrArg some (searched_of_blank hblank s)

/-- Two boxes with one label, which is the id of the one and the name and the id of the other, and a third box
    that a search for the brackets in this label does not find. -/
def bracketRack : Snapshot :=
  .ofPairs [("lid (Box:2)", .obj [("__typename", .str "Box")]), ("Box:1", .obj [("name", .str "lid")]),
    ("Box:2", .obj [("name", .str "lid")])]

/-- The boxes with one label stay in their order, also after a search that leaves out the box before them. -/
theorem bracketRack_searched_before_or_after :
    filterEntities (bracketRack.entitiesOf Shelf.schema "Item") " BOX:2 " =
      (bracketRack.searched " BOX:2 ").entitiesOf Shelf.schema "Item" ∧
    ((bracketRack.searched " BOX:2 ").offered Shelf.schema "Item").map (·.id) = ["lid (Box:2)", "Box:2"] ∧
    ((bracketRack.searched " BOX:2 ").offered Shelf.schema "Item").map (·.label) =
      ["lid (Box:2)", "lid (Box:2)"] ∧
    trimText " \t" = "" ∧ some (bracketRack.searched " \t") = some bracketRack := by
  obtain ⟨hsearched, _⟩ := searching_commutes_with_listing (some bracketRack) Shelf.schema "Item" " BOX:2 "
  obtain ⟨_, hblank⟩ := searching_commutes_with_listing (some bracketRack) Shelf.schema "Item" " \t"
  exact ⟨hsearched, by decide +kernel, by decide +kernel, by decide, hblank (by decide)⟩

end Snapshot

end GraphQLCache
