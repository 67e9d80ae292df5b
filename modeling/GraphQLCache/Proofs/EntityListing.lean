import GraphQLCache.Cache.Entity
import GraphQLCache.Proofs.Keyed
import GraphQLCache.Proofs.References
import Mathlib.Data.List.TakeWhile
import Mathlib.Data.Prod.Lex
import Mathlib.Data.String.Basic

/-!
# `Proofs.EntityListing` — the entities of a type

A listing is described by what it holds and in which order (`IsListing`): every entry of the type or of one of
its members exactly once, with its record and its label, ordered by label, and where labels tie in the order
of the snapshot. The rule for the type of an entry is a relation of its own, `HasTypename`.

`entitiesOf` selects entries and then sorts them. Selecting is a scan that keeps the order of the snapshot
(`offered_sublist_keys`). Sorting permutes, and it is stable, which is where the last part comes from: the
entities of one label are a sorted part of what was selected, so sorting leaves them as they are.
-/

namespace GraphQLCache

/-! ## The type of an entry -/

/-- `front` is the part of a text before the first colon, or all of it where there is no colon. -/
def IsFront (text front : String) : Prop :=
  ':' ∉ front.toList ∧ (text = front ∨ ∃ rest, text = front ++ ":" ++ rest)

/-- **The type of an entry**: what its tag says, be it empty; without a tag, the part of the id before the
    first colon, or unknown where that is empty. -/
inductive HasTypename (id : String) (record : Entries) : String → Prop
  | tag {name : String} (tagged : Entries.get? record "__typename" = some (.str name)) :
      HasTypename id record name
  | front {front : String} (untagged : ∀ name, Entries.get? record "__typename" ≠ some (.str name))
      (isFront : IsFront id front) (proper : front ≠ "") : HasTypename id record front
  | unknown (untagged : ∀ name, Entries.get? record "__typename" ≠ some (.str name))
      (isFront : IsFront id "") : HasTypename id record "Unknown"

/-- There is one part before the first colon, and `beforeColon` finds it. -/
theorem beforeColon_of_isFront {text front : String} (h : IsFront text front) : beforeColon text = front := by
  obtain ⟨hno, hsplit⟩ := h
  have hall : ∀ c ∈ front.toList, decide (c ≠ ':') = true := by
    intro c hc
    exact decide_eq_true fun hcolon => hno (hcolon ▸ hc)
  have htake : text.toList.takeWhile (fun c => decide (c ≠ ':')) = front.toList := by
    rcases hsplit with rfl | ⟨rest, rfl⟩
    · exact List.takeWhile_eq_self_iff.mpr hall
    · rw [String.toList_append, String.toList_append, List.append_assoc,
        List.takeWhile_append_of_pos hall]
      show front.toList ++ List.takeWhile _ (':' :: rest.toList) = front.toList
      rw [List.takeWhile_cons_of_neg (by decide), List.append_nil]
  rw [beforeColon, htake, String.ofList_toList]

theorem exists_isFront (text : String) : ∃ front, IsFront text front := by
  by_cases hcolon : ':' ∈ text.toList
  · obtain ⟨front, rest, hsplit, hno⟩ := List.eq_append_cons_of_mem hcolon
    refine ⟨String.ofList front, by rw [String.toList_ofList]; exact hno, Or.inr ⟨String.ofList rest, ?_⟩⟩
    apply String.toList_injective
    simp only [String.toList_append, String.toList_ofList, hsplit, List.append_assoc]
    rfl
  · exact ⟨text, hcolon, Or.inl rfl⟩

theorem isFront_iff {text front : String} : IsFront text front ↔ beforeColon text = front := by
  constructor
  · exact beforeColon_of_isFront
  · rintro rfl
    obtain ⟨front, h⟩ := exists_isFront text
    rw [beforeColon_of_isFront h]
    exact h

/-- **Every entry has one type**, the one that `entryTypename` computes. -/
theorem hasTypename_iff {id name : String} {record : Entries} :
    HasTypename id record name ↔ entryTypename id record = name := by
  -- Both the rule and the computation ask first whether there is a tag that is a text.
  by_cases htag : ∃ tag, Entries.get? record "__typename" = some (.str tag)
  · obtain ⟨tag, htagged⟩ := htag
    have hcomputed : entryTypename id record = tag := by rw [entryTypename, htagged]
    rw [hcomputed]
    constructor
    · intro h
      cases h with
      | tag tagged => rw [htagged] at tagged; cases tagged; rfl
      | front untagged => exact absurd htagged (untagged tag)
      | unknown untagged => exact absurd htagged (untagged tag)
    · rintro rfl
      exact .tag htagged
  · have huntagged : ∀ tag, Entries.get? record "__typename" ≠ some (.str tag) :=
      fun tag h => htag ⟨tag, h⟩
    have hcomputed : entryTypename id record =
        if (beforeColon id).isEmpty then "Unknown" else beforeColon id := by
      unfold entryTypename
      split
      next tag h => exact absurd h (huntagged tag)
      next => rfl
    rw [hcomputed]
    constructor
    · intro h
      cases h with
      | tag tagged => exact absurd tagged (huntagged _)
      | front _ isFront proper =>
          rw [isFront_iff.mp isFront, if_neg (fun h => proper (String.isEmpty_iff.mp h))]
      | unknown _ isFront => rw [isFront_iff.mp isFront]; rfl
    · intro h
      by_cases hempty : beforeColon id = ""
      · rw [hempty] at h
        cases h
        exact .unknown huntagged (isFront_iff.mpr hempty)
      · rw [if_neg (fun h => hempty (String.isEmpty_iff.mp h))] at h
        exact .front huntagged (isFront_iff.mpr h) (h ▸ hempty)

namespace Snapshot

variable {s : Snapshot} {schema : Schema} {type : String}

/-! ## The order of labels -/

/-- What labels are ordered by: the folded text, and where that ties, the text as it is. -/
def labelKey (label : String) : Lex (String × String) := toLex (foldText label, label)

theorem labelLE_iff {a b : String} : labelLE a b = true ↔ labelKey a ≤ labelKey b := by
  unfold labelKey
  rw [Prod.Lex.toLex_le_toLex]
  simp [labelLE]

/-- Whether the label of the first of two entities comes no later. -/
def entityLE (a b : Entity) : Bool := labelLE a.label b.label

theorem entityLE_iff {a b : Entity} : entityLE a b = true ↔ labelKey a.label ≤ labelKey b.label := labelLE_iff

theorem entityLE_trans (a b c : Entity) (hab : entityLE a b = true) (hbc : entityLE b c = true) :
    entityLE a c = true :=
  entityLE_iff.mpr ((entityLE_iff.mp hab).trans (entityLE_iff.mp hbc))

theorem entityLE_total (a b : Entity) : (entityLE a b || entityLE b a) = true := by
  rw [Bool.or_eq_true, entityLE_iff, entityLE_iff]
  exact le_total _ _

/-! ## What is selected -/

/-- The records of a snapshot other than those under the ids in `excluded`, in order. -/
def recordsExcept (s : Snapshot) (excluded : List String) : List (String × Entries) :=
  s.entries.filterMap fun e => if excluded.contains e.1 then none else e.2.obj?.map fun record => (e.1, record)

theorem mem_recordsExcept_iff {excluded : List String} {id : String} {record : Entries} :
    (id, record) ∈ s.recordsExcept excluded ↔ s.get? id = some (.obj record) ∧ id ∉ excluded := by
  unfold recordsExcept
  rw [List.mem_filterMap, Keyed.get?_eq_some_iff]
  constructor
  · rintro ⟨⟨id', j⟩, hmem, h⟩
    by_cases hexcluded : excluded.contains id' = true
    · rw [if_pos hexcluded] at h
      cases h
    · rw [if_neg hexcluded] at h
      cases j with
      | obj entries =>
          cases h
          exact ⟨hmem, fun hin => hexcluded (List.contains_iff_mem.mpr hin)⟩
      | _ => cases h
  · rintro ⟨hmem, hexcluded⟩
    refine ⟨(id, .obj record), hmem, ?_⟩
    rw [if_neg (fun h => hexcluded (List.contains_iff_mem.mp h))]
    rfl

theorem mem_records_iff {id : String} {record : Entries} :
    (id, record) ∈ s.records ↔ s.get? id = some (.obj record) ∧ id ∉ reservedIds := mem_recordsExcept_iff

/-- Records stand in the order of the snapshot. -/
theorem recordsExcept_sublist_keys (s : Snapshot) (excluded : List String) :
    ((s.recordsExcept excluded).map (·.1)).Sublist s.keys := by
  unfold recordsExcept Keyed.keys
  induction s.entries with
  | nil => exact List.Sublist.slnil
  | cons e rest ih =>
      rw [List.filterMap_cons, List.map_cons]
      split
      next => exact ih.cons _
      next found hfound =>
        have hid : found.1 = e.1 := by
          split at hfound
          · cases hfound
          · obtain ⟨record, _, rfl⟩ := Option.map_eq_some_iff.mp hfound
            rfl
        rw [List.map_cons, hid]
        exact ih.cons_cons _

/-- No id has two records. -/
theorem nodup_recordsExcept (s : Snapshot) (excluded : List String) :
    ((s.recordsExcept excluded).map (·.1)).Nodup := s.distinct.sublist (s.recordsExcept_sublist_keys excluded)

/-- The entry of an id as it is offered. -/
def offer (e : String × Entries) : Entity := ⟨e.1, e.2, entryLabel e.1 e.2⟩

/-- The entities that are selected, not yet in order. -/
def offered (s : Snapshot) (schema : Schema) (type : String) : List Entity :=
  (s.records.filter fun e => (type :: schema.membersOf type).contains (entryTypename e.1 e.2)).map offer

theorem entitiesOf_eq (s : Snapshot) (schema : Schema) (type : String) :
    s.entitiesOf schema type = (s.offered schema type).mergeSort entityLE := rfl

/-- Every entity offered is an entry as it is offered. -/
theorem mem_offered_iff {e : Entity} :
    e ∈ s.offered schema type ↔
      s.get? e.id = some (.obj e.record) ∧ e.id ∉ reservedIds ∧
      (∃ name, HasTypename e.id e.record name ∧ (name = type ∨ name ∈ schema.membersOf type)) ∧
      e.label = entryLabel e.id e.record := by
  unfold offered
  rw [List.mem_map]
  constructor
  · rintro ⟨⟨id, record⟩, hmem, rfl⟩
    obtain ⟨hrecord, haccepted⟩ := List.mem_filter.mp hmem
    obtain ⟨stored, hreserved⟩ := mem_records_iff.mp hrecord
    exact ⟨stored, hreserved,
      ⟨_, hasTypename_iff.mpr rfl, List.mem_cons.mp (List.contains_iff_mem.mp haccepted)⟩, rfl⟩
  · rintro ⟨stored, hreserved, ⟨name, hname, haccepted⟩, hlabel⟩
    refine ⟨(e.id, e.record), List.mem_filter.mpr ⟨mem_records_iff.mpr ⟨stored, hreserved⟩, ?_⟩, ?_⟩
    · rw [hasTypename_iff.mp hname]
      exact List.contains_iff_mem.mpr (List.mem_cons.mpr haccepted)
    · unfold offer
      rw [← hlabel]

/-- Selecting keeps the order of the snapshot. -/
theorem offered_sublist_keys (s : Snapshot) (schema : Schema) (type : String) :
    ((s.offered schema type).map (·.id)).Sublist s.keys := by
  unfold offered
  rw [List.map_map]
  exact (List.filter_sublist.map _).trans (s.recordsExcept_sublist_keys reservedIds)

/-! ## Sorting -/

/-- Sorting by labels leaves the entities of one label as they were. -/
theorem filter_label_mergeSort (entities : List Entity) (label : String) :
    (entities.mergeSort entityLE).filter (·.label = label) = entities.filter (·.label = label) := by
  -- The entities of one label are in order already, so a stable sort keeps them as a part; and it is the
  -- whole part, because sorting loses nothing.
  have hsorted : (entities.filter (·.label = label)).Pairwise fun a b => entityLE a b = true := by
    rw [List.pairwise_filter]
    refine List.pairwise_of_forall fun a b ha hb => ?_
    rw [entityLE_iff, of_decide_eq_true ha, of_decide_eq_true hb]
  have hsub : (entities.filter (·.label = label)).Sublist (entities.mergeSort entityLE) :=
    List.sublist_mergeSort entityLE_trans entityLE_total hsorted List.filter_sublist
  have hkeep : (entities.filter (·.label = label)).Sublist
      ((entities.mergeSort entityLE).filter (·.label = label)) := by
    have h := hsub.filter (fun e : Entity => decide (e.label = label))
    rw [List.filter_filter] at h
    simpa only [Bool.and_self] using h
  have hlength := ((List.mergeSort_perm entities entityLE).filter (·.label = label)).length_eq
  exact (hkeep.eq_of_length hlength.symm).symm

/-! ## The listing -/

/-- **The listing of a type.** An entity is listed for each entry that is not reserved, holds an object and is
    of the type or one of its members, and for nothing else; no id is listed twice. Each entity has the record
    that its id and a reference to its id lead to, and the label of this record. The entities are in the order
    of their labels, and under one label in the order of the snapshot. -/
structure IsListing (s : Snapshot) (schema : Schema) (type : String) (entities : List Entity) : Prop where
  complete : ∀ id record, (∃ e ∈ entities, e.id = id ∧ e.record = record) ↔
    s.get? id = some (.obj record) ∧ id ∉ reservedIds ∧
    ∃ name, HasTypename id record name ∧ (name = type ∨ name ∈ schema.membersOf type)
  once : (entities.map (·.id)).Nodup
  resolved : ∀ e ∈ entities, s.follow? (.key e.id) = some e.record ∧
    s.follow? (.object [("__ref", .str e.id)]) = some e.record
  labelled : ∀ e ∈ entities, e.label = entryLabel e.id e.record
  ordered : entities.Pairwise fun a b => labelKey a.label ≤ labelKey b.label
  stable : ∀ label, ((entities.filter (·.label = label)).map (·.id)).Sublist s.keys

/-- **Listing the entities of a type is complete, sound and sorted**, for every snapshot, or none, which is
    like an empty one, every schema and every type name. -/
theorem entitiesOf_isListing (cache : Option Snapshot) (schema : Schema) (type : String) :
    (cache.getD .empty).IsListing schema type ((cache.getD .empty).entitiesOf schema type) := by
  generalize cache.getD .empty = s
  have hperm : (s.entitiesOf schema type).Perm (s.offered schema type) := List.mergeSort_perm _ _
  have hmem : ∀ e ∈ s.entitiesOf schema type, e ∈ s.offered schema type := fun e he => hperm.mem_iff.mp he
  refine ⟨?complete, ?once, ?resolved, ?labelled, ?ordered, ?stable⟩
  case complete =>
    intro id record
    constructor
    · rintro ⟨e, he, rfl, rfl⟩
      obtain ⟨stored, hreserved, hname, _⟩ := mem_offered_iff.mp (hmem e he)
      exact ⟨stored, hreserved, hname⟩
    · rintro ⟨stored, hreserved, hname⟩
      refine ⟨⟨id, record, entryLabel id record⟩, hperm.mem_iff.mpr ?_, rfl, rfl⟩
      exact mem_offered_iff.mpr ⟨stored, hreserved, hname, rfl⟩
  case once =>
    have hids : ((s.offered schema type).map (·.id)).Nodup :=
      s.distinct.sublist (s.offered_sublist_keys schema type)
    exact (hperm.map _).nodup_iff.mpr hids
  case resolved =>
    intro e he
    obtain ⟨stored, _⟩ := mem_offered_iff.mp (hmem e he)
    have hrecord : s.record? e.id = some e.record := record?_eq_some_iff.mpr stored
    exact ⟨hrecord, hrecord⟩
  case labelled =>
    intro e he
    exact (mem_offered_iff.mp (hmem e he)).2.2.2
  case ordered =>
    have hsorted := List.pairwise_mergeSort entityLE_trans entityLE_total (s.offered schema type)
    exact hsorted.imp fun h => entityLE_iff.mp h
  case stable =>
    intro label
    rw [entitiesOf_eq, filter_label_mergeSort]
    exact (List.filter_sublist.map _).trans (s.offered_sublist_keys schema type)

end Snapshot

end GraphQLCache
