import GraphQLCache.Proofs.EntryGroups
import GraphQLCache.Proofs.Regular

/-!
# `Proofs.GroupedEntities` — the entities of a type are the groups of its names

An entry can be found in two ways: it is offered among the entities of a type, and it stands in a group of
the browser. The two are computed apart, the one by scanning the records for a type or one of its members
and the other by gathering all records into groups. `entities_are_grouped` says that they agree: the
entities of a type are what stands in the groups of its names, with the same records, and a search of the
entities keeps nothing that a search of the groups does not find. What the groups find beyond that, they
find by the name of a group.

Two names are left out. The group of unknown entries also holds those of an empty type, so neither this
group nor the empty type stands for the entries of one type.
-/

namespace GraphQLCache

namespace Snapshot

variable {s : Snapshot} {schema : Schema} {type search name : String} {e : String × Entries}

/-! ## Groups by name -/

/-- The entries of the group of that name; where there is no such group there are none. -/
def entriesUnder (groups : Groups) (name : String) : List (String × Entries) := (groups.lookup name).getD []

/-- Under ascending names, what is looked up under a name is what the rows of this group hold. -/
theorem mem_entriesUnder_iff {groups : Groups} (h : AreGroups groups) :
    e ∈ entriesUnder groups name ↔ ⟨name, e.1, e.2⟩ ∈ rowsOf groups := by
  have hnames : (groups.map (·.1)).Nodup := h.ascending.nodup
  unfold entriesUnder rowsOf
  rw [List.mem_flatMap]
  constructor
  · intro he
    cases hlookup : groups.lookup name with
    | none => rw [hlookup] at he; cases he
    | some members =>
        rw [hlookup, Option.getD_some] at he
        obtain ⟨before, behind, heq, _⟩ := List.lookup_eq_some_iff.mp hlookup
        exact ⟨(name, members), by rw [heq]; simp, List.mem_map.mpr ⟨e, he, rfl⟩⟩
  · rintro ⟨g, hg, hrow⟩
    obtain ⟨e', he', heq⟩ := List.mem_map.mp hrow
    obtain ⟨hgroup, hid, hrecord⟩ := Row.mk.inj heq
    cases (Prod.ext hid hrecord : e' = e)
    have hlookup : groups.lookup name = some g.2 := by
      rw [← hgroup]
      exact lookup_of_mem hnames hg
    rw [hlookup, Option.getD_some]
    exact he'

/-- **A group of a search** holds the records that belong to it and that the search finds. -/
theorem mem_entriesUnder_groups_iff :
    e ∈ entriesUnder (s.groups search) name ↔
      e ∈ s.records ∧ groupName e.1 e.2 = name ∧ Found search name e := by
  have hgroups : AreGroups (s.groups search) := areGroups_gather (s.rows_ascend search)
  have hrows : rowsOf (s.groups search) = s.rows search := rowsOf_gather _
  rw [mem_entriesUnder_iff hgroups, hrows, mem_rows_iff, List.mem_map]
  constructor
  · rintro ⟨⟨e', he', heq⟩, hfound⟩
    obtain ⟨hgroup, hid, hrecord⟩ := Row.mk.inj heq
    cases (Prod.ext hid hrecord : e' = e)
    exact ⟨he', hgroup, hfound⟩
  · rintro ⟨he, hgroup, hfound⟩
    exact ⟨⟨e, he, by rw [rowOf, hgroup]⟩, hfound⟩

/-- Apart from the group of unknown entries, a group is named by the type of its entries. -/
theorem groupName_eq_iff (hproper : name ≠ "") (hknown : name ≠ "Unknown") :
    groupName e.1 e.2 = name ↔ HasTypename e.1 e.2 name := by
  rw [hasTypename_iff, groupName_eq (hasTypename_iff.mpr rfl)]
  by_cases htype : entryTypename e.1 e.2 = ""
  · rw [if_pos htype, htype]
    exact ⟨fun h => absurd h.symm hknown, fun h => absurd h.symm hproper⟩
  · rw [if_neg htype]

/-! ## Entities and groups -/

/-- The names of a type: its own and those of its members. -/
def namesOf (schema : Schema) (type : String) : List String := type :: schema.membersOf type

theorem exists_entity_iff :
    (∃ entity ∈ s.entitiesOf schema type, (entity.id, entity.record) = e) ↔
      e ∈ s.records ∧ ∃ name ∈ namesOf schema type, HasTypename e.1 e.2 name := by
  have hlisting := (entitiesOf_isListing (some s) schema type).complete e.1 e.2
  have hrecords : e ∈ s.records ↔ s.get? e.1 = some (.obj e.2) ∧ e.1 ∉ reservedIds := mem_records_iff
  rw [hrecords, and_assoc]
  refine Iff.trans ?_ (hlisting.trans ?_)
  · constructor
    · rintro ⟨entity, hmem, rfl⟩
      exact ⟨entity, hmem, rfl, rfl⟩
    · rintro ⟨entity, hmem, hid, hrecord⟩
      exact ⟨entity, hmem, Prod.ext hid hrecord⟩
  · refine and_congr_right fun _ => and_congr_right fun _ => ?_
    constructor
    · rintro ⟨name, hname, haccepted⟩
      exact ⟨name, List.mem_cons.mpr haccepted, hname⟩
    · rintro ⟨name, haccepted, hname⟩
      exact ⟨name, hname, List.mem_cons.mp haccepted⟩

/-- Where the names of a type are proper, its entities are the entries of the groups of these names. -/
theorem exists_entity_iff_grouped (hproper : "" ∉ namesOf schema type)
    (hknown : "Unknown" ∉ namesOf schema type) :
    (∃ entity ∈ s.entitiesOf schema type, (entity.id, entity.record) = e) ↔
      ∃ name ∈ namesOf schema type, e ∈ s.records ∧ groupName e.1 e.2 = name := by
  rw [exists_entity_iff]
  have hgroup : ∀ name ∈ namesOf schema type, (groupName e.1 e.2 = name ↔ HasTypename e.1 e.2 name) :=
    fun name hname => groupName_eq_iff (fun h => hproper (h ▸ hname)) (fun h => hknown (h ▸ hname))
  constructor
  · rintro ⟨he, name, hname, htype⟩
    exact ⟨name, hname, he, (hgroup name hname).mpr htype⟩
  · rintro ⟨name, hname, he, htype⟩
    exact ⟨he, name, hname, (hgroup name hname).mp htype⟩

/-- What a search of entities keeps, a search of groups finds under any name; and what that finds beyond, it
    finds by the name. -/
theorem found_iff_foundIn :
    Found search name e ↔
      foundIn (searchKey search) e.1 e.2 = true ∨ Occurs (lowerText (trimText search)) (lowerText name) := by
  rw [← found_iff, Bool.or_eq_true, or_comm]
  exact or_congr_right textContains_iff

/-- **The entities of a type are grouped under its names**, for every snapshot, or none, which is like an empty
    one, every schema, type and search, provided that no name of the type is empty or the name of the group of
    unknown entries. The entities are the entries of the groups of these names, each with its record; every
    entity that a search keeps is in one of these groups of the same search; and every other entry that is
    there was found by the name of its group. -/
theorem entities_are_grouped (cache : Option Snapshot) (schema : Schema) (type search : String)
    (hproper : "" ∉ namesOf schema type) (hknown : "Unknown" ∉ namesOf schema type) :
    (∀ e, (∃ entity ∈ (cache.getD .empty).entitiesOf schema type, (entity.id, entity.record) = e) ↔
      ∃ name ∈ namesOf schema type, e ∈ entriesUnder ((cache.getD .empty).groups "") name) ∧
    (∀ entity ∈ filterEntities ((cache.getD .empty).entitiesOf schema type) search,
      ∃ name ∈ namesOf schema type,
        (entity.id, entity.record) ∈ entriesUnder ((cache.getD .empty).groups search) name) ∧
    (∀ name ∈ namesOf schema type, ∀ e ∈ entriesUnder ((cache.getD .empty).groups search) name,
      (∃ entity ∈ filterEntities ((cache.getD .empty).entitiesOf schema type) search,
        (entity.id, entity.record) = e) ∨
      Occurs (lowerText (trimText search)) (lowerText name)) := by
  generalize cache.getD .empty = s
  refine ⟨fun e => ?_, fun entity hkept => ?_, fun name hname e he => ?_⟩
  · rw [exists_entity_iff_grouped hproper hknown]
    refine exists_congr fun name => and_congr_right fun _ => ?_
    rw [mem_entriesUnder_groups_iff, and_iff_left (found_empty name e)]
  · obtain ⟨hmem, hfound⟩ := List.mem_filter.mp hkept
    obtain ⟨name, hname, hrecord, hgroup⟩ :=
      (exists_entity_iff_grouped hproper hknown).mp ⟨entity, hmem, rfl⟩
    refine ⟨name, hname, mem_entriesUnder_groups_iff.mpr ⟨hrecord, hgroup, ?_⟩⟩
    exact found_iff_foundIn.mpr (Or.inl hfound)
  · obtain ⟨hrecord, hgroup, hfound⟩ := mem_entriesUnder_groups_iff.mp he
    refine (found_iff_foundIn.mp hfound).imp_left fun hkept => ?_
    obtain ⟨entity, hmem, rfl⟩ :=
      (exists_entity_iff_grouped hproper hknown).mpr ⟨name, hname, hrecord, hgroup⟩
    exact ⟨entity, List.mem_filter.mpr ⟨hmem, hkept⟩, rfl⟩

/-- A box under its tag, a box and a lid under the beginnings of their ids, an entry of an empty type and one
    whose type is unknown. -/
def stockroom : Snapshot :=
  .ofPairs [("1", .obj [("__typename", .str "Box"), ("id", .str "one")]), ("Box:2", .obj [("id", .str "two")]),
    ("Lid:1", .obj []), ("3", .obj [("__typename", .str "")]), (":4", .obj [])]

/-- The boxes of the stockroom are the items that can be picked for a shelf, and one of them is found by the
    text in its record. -/
theorem stockroom_entities_are_grouped :
    ("" ∉ namesOf Shelf.schema "Item" ∧ "Unknown" ∉ namesOf Shelf.schema "Item") ∧
    (∀ e, (∃ entity ∈ stockroom.entitiesOf Shelf.schema "Item", (entity.id, entity.record) = e) ↔
      ∃ name ∈ namesOf Shelf.schema "Item", e ∈ entriesUnder (stockroom.groups "") name) ∧
    (∀ entity ∈ filterEntities (stockroom.entitiesOf Shelf.schema "Item") " TWO ",
      ∃ name ∈ namesOf Shelf.schema "Item",
        (entity.id, entity.record) ∈ entriesUnder (stockroom.groups " TWO ") name) ∧
    (entriesUnder (stockroom.groups " TWO ") "Box").map (·.1) = ["Box:2"] ∧
    ∃ entity ∈ filterEntities (stockroom.entitiesOf Shelf.schema "Item") " TWO ", entity.id = "Box:2" := by
  have hproper : "" ∉ namesOf Shelf.schema "Item" := by decide
  have hknown : "Unknown" ∉ namesOf Shelf.schema "Item" := by decide
  obtain ⟨hall, hkept, hback⟩ := entities_are_grouped (some stockroom) Shelf.schema "Item" " TWO " hproper hknown
  have hids : (entriesUnder (stockroom.groups " TWO ") "Box").map (·.1) = ["Box:2"] := by decide +kernel
  refine ⟨⟨hproper, hknown⟩, hall, hkept, hids, ?_⟩
  have hmem : "Box:2" ∈ (entriesUnder (stockroom.groups " TWO ") "Box").map (·.1) := by
    rw [hids]; exact List.mem_singleton_self _
  obtain ⟨e, he, hid⟩ := List.mem_map.mp hmem
  rcases hback "Box" (by decide) e he with ⟨entity, hentity, rfl⟩ | hname
  · exact ⟨entity, hentity, hid⟩
  · exact absurd (textContains_iff.mpr hname) (by decide)

end Snapshot

end GraphQLCache
