import GraphQLCache.Proofs.EntityListing
import GraphQLCache.Proofs.Regular
import Mathlib.Data.List.DropRight

/-!
# `Proofs.EntityOrder` — a listing of entities does not depend on the order of the snapshot

Entities are sorted by label, and a stable sort leaves those of one label in the order in which they came. So a
listing depends on the order of the snapshot only where two labels are the same. Where no id has an opening
bracket in it they never are: a label ends in its id, bare or in brackets, and `idOfLabel` reads it back
(`idOfLabel_entryLabel`), whatever the record has put in front.
-/

namespace GraphQLCache

/-! ## The id in a label -/

/-- The id that a label shows: what stands in the last brackets, or all of a label without brackets. -/
def idOfLabel (label : String) : String :=
  if '(' ∈ label.toList then String.ofList (label.toList.rtakeWhile (· ≠ '(')).dropLast else label

/-- A label is the bare id, or a text with the id in brackets behind it. -/
theorem entryLabel_cases (id : String) (record : Entries) :
    entryLabel id record = id ∨ ∃ text, entryLabel id record = text ++ " (" ++ id ++ ")" := by
  unfold entryLabel
  split
  · exact Or.inr ⟨_, rfl⟩
  · split
    · exact Or.inl rfl
    · exact Or.inr ⟨_, rfl⟩

/-- The longest end of a list without `c` is what stands behind the last `c`. -/
theorem rtakeWhile_append_cons {α : Type} [DecidableEq α] {c : α} {behind : List α} (before : List α)
    (hbehind : c ∉ behind) : (before ++ c :: behind).rtakeWhile (· ≠ c) = behind := by
  have hall : ∀ d ∈ behind.reverse, decide (d ≠ c) = true := by
    intro d hd
    have hmem : d ∈ behind := List.mem_reverse.mp hd
    exact decide_eq_true fun hdc => hbehind (hdc ▸ hmem)
  rw [List.rtakeWhile, List.reverse_append, List.reverse_cons, List.append_assoc,
    List.takeWhile_append_of_pos hall]
  simp

theorem idOfLabel_bracketed {id : String} (hid : '(' ∉ id.toList) (text : String) :
    idOfLabel (text ++ " (" ++ id ++ ")") = id := by
  have hlist : (text ++ " (" ++ id ++ ")").toList = (text.toList ++ [' ']) ++ '(' :: (id.toList ++ [')']) := by
    simp
  have hbehind : '(' ∉ id.toList ++ [')'] := by
    simp [hid]
  have hopens : '(' ∈ (text ++ " (" ++ id ++ ")").toList := by
    simp [hlist]
  rw [idOfLabel, if_pos hopens, hlist, rtakeWhile_append_cons _ hbehind, List.dropLast_concat,
    String.ofList_toList]

/-- **A label tells its id**, if there is no opening bracket in the id. -/
theorem idOfLabel_entryLabel {id : String} (hid : '(' ∉ id.toList) (record : Entries) :
    idOfLabel (entryLabel id record) = id := by
  rcases entryLabel_cases id record with hbare | ⟨text, hbracketed⟩
  · rw [hbare, idOfLabel, if_neg hid]
  · rw [hbracketed]
    exact idOfLabel_bracketed hid text

/-- Different ids have different labels. -/
theorem entryLabel_ne {id id' : String} (hid : '(' ∉ id.toList) (hid' : '(' ∉ id'.toList) (hne : id ≠ id')
    (record record' : Entries) : entryLabel id record ≠ entryLabel id' record' := by
  intro hlabel
  apply hne
  calc id = idOfLabel (entryLabel id record) := (idOfLabel_entryLabel hid record).symm
    _ = idOfLabel (entryLabel id' record') := by rw [hlabel]
    _ = id' := idOfLabel_entryLabel hid' record'

namespace Snapshot

variable {s t : Snapshot} {schema : Schema} {type : String}

/-! ## Sorting by distinct labels -/

/-- No id of a snapshot has an opening bracket in it. -/
def PlainIds (s : Snapshot) : Prop := ∀ id ∈ s.keys, '(' ∉ id.toList

/-- What is offered has the id of an entry, and its label tells this id. -/
theorem PlainIds.idOfLabel_offered (h : s.PlainIds) {e : Entity} (he : e ∈ s.offered schema type) :
    idOfLabel e.label = e.id := by
  obtain ⟨stored, -, -, hlabel⟩ := mem_offered_iff.mp he
  have hkey : e.id ∈ s.keys := List.mem_map.mpr ⟨_, Keyed.get?_eq_some_iff.mp stored, rfl⟩
  rw [hlabel]
  exact idOfLabel_entryLabel (h e.id hkey) e.record

/-- **The label tells the entity** among those that are offered. -/
theorem PlainIds.eq_of_label (h : s.PlainIds) {a b : Entity} (ha : a ∈ s.offered schema type)
    (hb : b ∈ s.offered schema type) (hlabel : a.label = b.label) : a = b := by
  have hid : a.id = b.id := by
    rw [← h.idOfLabel_offered ha, ← h.idOfLabel_offered hb, hlabel]
  have hrecord : a.record = b.record := by
    have hstored := (mem_offered_iff.mp ha).1
    rw [hid, (mem_offered_iff.mp hb).1] at hstored
    exact (Json.obj.inj (Option.some.inj hstored)).symm
  cases a
  cases b
  cases hid
  cases hrecord
  cases hlabel
  rfl

/-- Two entities of which neither comes later have one label. -/
theorem label_eq_of_entityLE {a b : Entity} (hab : entityLE a b = true) (hba : entityLE b a = true) :
    a.label = b.label := by
  have hkey : labelKey a.label = labelKey b.label :=
    le_antisymm (entityLE_iff.mp hab) (entityLE_iff.mp hba)
  exact congrArg (fun key => (ofLex key).2) hkey

/-- Snapshots with the same entries offer the same entities in the same order. -/
theorem PlainIds.entitiesOf_eq_of_perm (h : s.PlainIds) (hperm : t.entries.Perm s.entries) :
    t.entitiesOf schema type = s.entitiesOf schema type := by
  have hoffered : (t.offered schema type).Perm (s.offered schema type) :=
    ((hperm.filterMap _).filter _).map _
  have hsorted : ((t.offered schema type).mergeSort entityLE).Perm ((s.offered schema type).mergeSort entityLE) :=
    (List.mergeSort_perm _ _).trans (hoffered.trans (List.mergeSort_perm _ _).symm)
  rw [entitiesOf_eq, entitiesOf_eq]
  refine hsorted.eq_of_pairwise ?_ (List.pairwise_mergeSort entityLE_trans entityLE_total _)
    (List.pairwise_mergeSort entityLE_trans entityLE_total _)
  -- The order on labels is antisymmetric, and a label has but one entity.
  intro a b ha hb hab hba
  have ha' : a ∈ s.offered schema type := hoffered.mem_iff.mp (List.mem_mergeSort.mp ha)
  have hb' : b ∈ s.offered schema type := List.mem_mergeSort.mp hb
  exact h.eq_of_label ha' hb' (label_eq_of_entityLE hab hba)

/-- The labels of a listing are distinct. -/
theorem PlainIds.nodup_labels (h : s.PlainIds) : ((s.entitiesOf schema type).map (·.label)).Nodup := by
  have hids : ((s.offered schema type).map (·.id)).Nodup := s.distinct.sublist (s.offered_sublist_keys schema type)
  have hlabels : ((s.offered schema type).map (·.label)).Nodup := by
    refine List.Nodup.of_map idOfLabel ?_
    rw [List.map_map, List.map_congr_left (g := (·.id))]
    · exact hids
    · intro e he
      exact h.idOfLabel_offered he
  exact ((List.mergeSort_perm _ _).map _).nodup_iff.mpr hlabels

/-- **A listing of entities does not depend on the order of the snapshot.** Take a snapshot, or none, which is
    like an empty one, in which no id has an opening bracket. Whatever the records are, different ids have
    different labels, so no two entities of a listing share one. And every snapshot with the same entries in any
    order lists the same entities in the same order, for every schema and type name. -/
theorem listing_ignores_order (cache : Option Snapshot) (hids : (cache.getD .empty).PlainIds) (schema : Schema)
    (type : String) :
    (∀ id ∈ (cache.getD .empty).keys, ∀ id' ∈ (cache.getD .empty).keys, id ≠ id' →
      ∀ record record', entryLabel id record ≠ entryLabel id' record') ∧
    (((cache.getD .empty).entitiesOf schema type).map (·.label)).Nodup ∧
    ∀ other : Option Snapshot, (other.getD .empty).entries.Perm (cache.getD .empty).entries →
      (other.getD .empty).entitiesOf schema type = (cache.getD .empty).entitiesOf schema type := by
  refine ⟨?distinct, hids.nodup_labels, ?ordered⟩
  case distinct =>
    intro id hid id' hid' hne
    exact entryLabel_ne (hids id hid) (hids id' hid') hne
  case ordered =>
    intro other hperm
    exact hids.entitiesOf_eq_of_perm hperm

/-- Two boxes with ids that differ in case alone, and one with a name that looks like one of the ids. -/
def boxRack : Snapshot :=
  .ofPairs [("Box:2", .obj [("name", .str "box:b")]), ("Box:b", .obj []), ("Box:B", .obj [])]

/-- The same boxes in the order of their labels. -/
def turnedRack : Snapshot :=
  .ofPairs [("Box:B", .obj []), ("Box:b", .obj []), ("Box:2", .obj [("name", .str "box:b")])]

/-- Both racks list the boxes alike: the labels that fold to the same text by code points, and behind them the
    longer one. -/
theorem boxRack_listing_ignores_order :
    boxRack.PlainIds ∧ turnedRack.entries.Perm boxRack.entries ∧
    entryLabel "Box:b" [] ≠ entryLabel "Box:2" [("name", .str "box:b")] ∧
    ((boxRack.entitiesOf Shelf.schema "Item").map (·.label)).Nodup ∧
    turnedRack.entitiesOf Shelf.schema "Item" = boxRack.entitiesOf Shelf.schema "Item" ∧
    (boxRack.entitiesOf Shelf.schema "Item").map (·.label) = ["Box:B", "Box:b", "box:b (Box:2)"] := by
  have hids : boxRack.PlainIds := by
    unfold PlainIds
    decide
  have hperm : turnedRack.entries.Perm boxRack.entries := List.reverse_perm boxRack.entries
  obtain ⟨hdistinct, hlabels, horder⟩ := listing_ignores_order (some boxRack) hids Shelf.schema "Item"
  have hlabel := hdistinct "Box:b" (by decide) "Box:2" (by decide) (by decide) [] [("name", .str "box:b")]
  have hturned : turnedRack.entitiesOf Shelf.schema "Item" = boxRack.entitiesOf Shelf.schema "Item" :=
    horder (some turnedRack) hperm
  -- The turned rack is in order already, so sorting leaves it as it is.
  have hsorted : (turnedRack.offered Shelf.schema "Item").Pairwise fun a b => entityLE a b = true := by
    decide +kernel
  refine ⟨hids, hperm, hlabel, hlabels, hturned, ?_⟩
  rw [← hturned, entitiesOf_eq, List.mergeSort_of_pairwise hsorted]
  decide +kernel

end Snapshot

end GraphQLCache
