import GraphQLCache.Proofs.FoundNames
import GraphQLCache.Proofs.Regular
import Mathlib.Data.List.Sort

/-!
# `Proofs.TypeGroups` — the types of a schema by kind are a partition

Browsing a schema lists the types that are no root kind by kind, and in each kind by name. What is listed is
said by `Schema.Listed` in terms of one type alone, and `IsKindPartition` says that every such type stands in
the listing exactly once, under its own kind.

All of it is read off the groups one at a time: `kindGroup` is the group of one kind, and the listing has
those that are not empty, in the order of kinds (`mem_groupByKind`, `kinds_groupByKind`). The same groups come
from one scan that adds each type to the group of its kind (`groupByScan_eq`). Where types are stored under
their own names the names in a group strictly ascend, so a group is known by its members, and the order in
which the types were loaded cannot be seen.
-/

namespace GraphQLCache

namespace Schema

variable {s : Schema} {t : NamedType} {search : String} {kind : TypeKind} {group : TypeKind × List NamedType}

/-! ## What is listed -/

/-- **A type is listed** if it is no root and, unless the search is blank, its name in small letters holds the
    trimmed search in small letters. -/
def Listed (s : Schema) (search : String) (t : NamedType) : Prop :=
  t.name ∉ s.rootNames ∧
    (trimText search ≠ "" → Occurs (lowerText (trimText search)) (lowerText t.name))

/-- A blank search, as the empty text, stands in every name. -/
theorem mem_browsable_iff_listed : t ∈ s.browsable search ↔ t ∈ s.types.values ∧ s.Listed search t := by
  rw [mem_browsable_iff, Listed]
  refine and_congr_right fun _ => and_congr_right fun _ => ⟨fun h _ => h, fun h => ?_⟩
  by_cases hblank : trimText search = ""
  · rw [hblank]
    exact ⟨"", lowerText t.name, rfl⟩
  · exact h hblank

/-- **A partition of the types that are listed**: each of them stands in the groups exactly once and nothing
    else does; every type is in the group of its kind; no group is empty, the kinds come in their order, and
    in every group the names strictly ascend. -/
structure IsKindPartition (s : Schema) (search : String) (groups : List (TypeKind × List NamedType)) : Prop where
  once : (groups.flatMap (·.2)).Nodup
  listed : ∀ t, t ∈ groups.flatMap (·.2) ↔ t ∈ s.types.values ∧ s.Listed search t
  ownKind : ∀ group ∈ groups, ∀ t ∈ group.2, t.kind = group.1
  filled : ∀ group ∈ groups, group.2 ≠ []
  kindsInOrder : (groups.map (·.1)).Sublist [.scalar, .enum, .object, .interface, .union, .inputObject]
  namesAscend : ∀ group ∈ groups, (group.2.map (·.name)).Pairwise (· < ·)

/-! ## One group -/

/-- Types in the order of their names. -/
def byName (types : List NamedType) : List NamedType := types.mergeSort fun a b => a.name ≤ b.name

theorem isEmpty_byName (types : List NamedType) : (byName types).isEmpty = types.isEmpty :=
  (List.mergeSort_perm types _).isEmpty_eq

/-- The types of one kind in the order in which they are listed. -/
def kindGroup (s : Schema) (search : String) (kind : TypeKind) : List NamedType :=
  byName ((s.browsable search).filter (·.kind = kind))

theorem groupByKind_eq (s : Schema) (search : String) :
    s.groupByKind search = TypeKind.all.filterMap fun kind =>
      if (s.kindGroup search kind).isEmpty then none else some (kind, s.kindGroup search kind) := rfl

theorem mem_kindGroup : t ∈ s.kindGroup search kind ↔ t ∈ s.browsable search ∧ t.kind = kind := by
  rw [kindGroup, byName, List.mem_mergeSort, List.mem_filter, decide_eq_true_iff]

/-- The groups of a listing are those that are not empty. -/
theorem mem_groupByKind :
    group ∈ s.groupByKind search ↔ group.2 = s.kindGroup search group.1 ∧ group.2 ≠ [] := by
  rw [groupByKind_eq, List.mem_filterMap]
  constructor
  · rintro ⟨kind, _, h⟩
    split at h
    · cases h
    · rename_i hfilled
      cases h
      exact ⟨rfl, fun hnil => hfilled (List.isEmpty_iff.mpr hnil)⟩
  · rintro ⟨hgroup, hfilled⟩
    have hkind : group.1 ∈ TypeKind.all := by cases group.1 <;> decide
    rw [hgroup] at hfilled
    refine ⟨group.1, hkind, ?_⟩
    rw [if_neg fun hempty => hfilled (List.isEmpty_iff.mp hempty), ← hgroup]

/-- A type is in the group of its kind. -/
theorem kind_of_mem (hgroup : group ∈ s.groupByKind search) (ht : t ∈ group.2) : t.kind = group.1 := by
  rw [(mem_groupByKind.mp hgroup).1, mem_kindGroup] at ht
  exact ht.2

/-- The kinds of a listing are those that have a type, in the order of kinds. -/
theorem kinds_groupByKind (s : Schema) (search : String) :
    (s.groupByKind search).map (·.1) = TypeKind.all.filter fun kind => !(s.kindGroup search kind).isEmpty := by
  rw [groupByKind_eq, List.map_filterMap, ← List.filterMap_eq_filter]
  refine List.filterMap_congr fun kind _ => ?_
  cases hempty : (s.kindGroup search kind).isEmpty
  · rw [if_neg Bool.false_ne_true]
    exact (Option.guard_eq_some_iff.mpr ⟨rfl, by rw [hempty]; rfl⟩).symm
  · rw [if_pos rfl]
    exact (Option.guard_eq_none_iff.mpr (by rw [hempty]; rfl)).symm

/-! ## One scan for all groups -/

/-- Types by kind, in any order of kinds. -/
abbrev KindGroups := List (TypeKind × List NamedType)

/-- The groups with one more type: at the end of the group of its kind, or in a new group at the end. -/
def addToKind : KindGroups → NamedType → KindGroups
  | [], t => [(t.kind, [t])]
  | (kind, members) :: rest, t =>
    if kind = t.kind then (kind, members ++ [t]) :: rest else (kind, members) :: addToKind rest t

/-- One step of the scan: a type is added unless it is a root or does not match the search. -/
def scanStep (s : Schema) (search : String) (groups : KindGroups) (t : NamedType) : KindGroups :=
  if s.rootNames.contains t.name then groups
  else if matchesKey (searchKey search) t.name then addToKind groups t
  else groups

/-- The groups of one scan of all types; then each group is sorted, and the groups are put in the order of
    kinds. -/
def groupByScan (s : Schema) (search : String) : KindGroups :=
  let sorted := (s.types.values.foldl (s.scanStep search) []).map fun g => (g.1, byName g.2)
  TypeKind.all.filterMap fun kind => (sorted.lookup kind).map fun members => (kind, members)

theorem lookup_group (kind kind' : TypeKind) (members : List NamedType) (rest : KindGroups) :
    List.lookup kind ((kind', members) :: rest) = if kind = kind' then some members else rest.lookup kind := by
  rw [List.lookup_cons]
  by_cases h : kind = kind'
  · rw [if_pos h, h, beq_self_eq_true]
  · rw [if_neg h, beq_false_of_ne h]

/-- What is done to every group is done to the group that is found. -/
theorem lookup_map_members (f : List NamedType → List NamedType) (groups : KindGroups) (kind : TypeKind) :
    (groups.map fun g => (g.1, f g.2)).lookup kind = (groups.lookup kind).map f := by
  induction groups with
  | nil => rfl
  | cons g rest ih =>
      rw [List.map_cons, lookup_group, lookup_group, ih]
      split <;> rfl

/-- **One type more** changes the group of its kind only. -/
theorem lookup_addToKind (groups : KindGroups) (t : NamedType) (kind : TypeKind) :
    (addToKind groups t).lookup kind =
      if kind = t.kind then some ((groups.lookup kind).getD [] ++ [t]) else groups.lookup kind := by
  induction groups with
  | nil => exact lookup_group kind t.kind [t] []
  | cons g rest ih =>
      obtain ⟨kind', members⟩ := g
      rw [addToKind]
      by_cases hown : kind' = t.kind
      · rw [if_pos hown, lookup_group, lookup_group, hown]
        by_cases h : kind = t.kind
        · rw [if_pos h, if_pos h, if_pos h]
          rfl
        · rw [if_neg h, if_neg h, if_neg h]
      · rw [if_neg hown, lookup_group, lookup_group, ih]
        by_cases h : kind = kind'
        · rw [if_pos h, if_pos h, if_neg fun ht => hown (h.symm.trans ht)]
        · rw [if_neg h, if_neg h]

/-- **All types added**: each kind has the types of this kind in their order, and no group without one. -/
theorem lookup_foldl_addToKind (types : List NamedType) (kind : TypeKind) :
    (types.foldl addToKind []).lookup kind =
      if (types.filter (·.kind = kind)).isEmpty then none else some (types.filter (·.kind = kind)) := by
  induction types using List.reverseRecOn with
  | nil => rfl
  | append_singleton types t ih =>
      have hlast : [t].filter (·.kind = kind) = if kind = t.kind then [t] else [] := by
        rw [List.filter_singleton, Bool.cond_decide]
        simp only [eq_comm]
      rw [List.foldl_concat, lookup_addToKind, ih, List.filter_append, hlast]
      by_cases h : kind = t.kind
      · rw [if_pos h, if_pos h]
        cases types.filter (·.kind = kind) with
        | nil => rfl
        | cons _ _ => rfl
      · rw [if_neg h, if_neg h, List.append_nil]

/-- **The scan finds the groups**: grouping step by step, sorting and putting in order give the listing. -/
theorem groupByScan_eq (s : Schema) (search : String) : s.groupByScan search = s.groupByKind search := by
  have hscan : s.types.values.foldl (s.scanStep search) [] = (s.browsable search).foldl addToKind [] := by
    rw [browsable, List.foldl_filter]
    refine List.foldl_ext _ _ _ fun groups t _ => ?_
    unfold scanStep
    cases s.rootNames.contains t.name with
    | true => rfl
    | false => rfl
  rw [groupByKind_eq, groupByScan, hscan]
  refine List.filterMap_congr fun kind _ => ?_
  rw [lookup_map_members, lookup_foldl_addToKind, kindGroup, isEmpty_byName]
  split <;> rfl

/-! ## Names in a group -/

/-- The first name comes before the second. -/
def NameLT (a b : NamedType) : Prop := a.name < b.name

instance : Std.Irrefl NameLT := ⟨fun a => lt_irrefl a.name⟩

instance : Std.Antisymm NameLT := ⟨fun _ _ hab hba => absurd hba (lt_asymm hab)⟩

/-- Types under their own names have distinct names. -/
theorem OwnNames.nodup_names (own : s.OwnNames) : (s.types.values.map (·.name)).Nodup := by
  have hnames : s.types.values.map (·.name) = s.types.keys := by
    rw [Keyed.values, List.map_map, Keyed.keys]
    exact List.map_congr_left own
  rw [hnames]
  exact s.types.distinct

/-- **A group strictly ascends**: it is sorted by name, and no two types have the same name. -/
theorem OwnNames.kindGroup_ascends (own : s.OwnNames) (search : String) (kind : TypeKind) :
    (s.kindGroup search kind).Pairwise NameLT := by
  have hsorted : (s.kindGroup search kind).Pairwise fun a b => a.name ≤ b.name := by
    refine (List.pairwise_mergeSort ?_ ?_ _).imp fun h => of_decide_eq_true h
    · exact fun a b c hab hbc => decide_eq_true ((of_decide_eq_true hab).trans (of_decide_eq_true hbc))
    · intro a b
      rw [Bool.or_eq_true, decide_eq_true_iff, decide_eq_true_iff]
      exact le_total a.name b.name
  have hdistinct : (s.kindGroup search kind).Pairwise fun a b => a.name ≠ b.name := by
    have hall : s.types.values.Pairwise fun a b => a.name ≠ b.name := List.pairwise_map.mp own.nodup_names
    have hkind := (hall.sublist List.filter_sublist).sublist
      (List.filter_sublist (p := fun t => decide (t.kind = kind)) (l := s.browsable search))
    exact hkind.perm (List.mergeSort_perm _ _).symm fun h => h.symm
  exact (hsorted.and hdistinct).imp fun h => lt_of_le_of_ne h.1 h.2

/-- Schemas that list the same types have the same groups. -/
theorem OwnNames.kindGroup_congr {s' : Schema} (own : s.OwnNames) (own' : s'.OwnNames)
    (h : ∀ t, t ∈ s'.browsable search ↔ t ∈ s.browsable search) (kind : TypeKind) :
    s'.kindGroup search kind = s.kindGroup search kind := by
  refine (own'.kindGroup_ascends search kind).eq_of_mem_iff (own.kindGroup_ascends search kind) fun t => ?_
  rw [mem_kindGroup, mem_kindGroup, h]

/-! ## The partition -/

/-- Types of different groups are different, as their kinds are. -/
theorem OwnNames.nodup_groups (own : s.OwnNames) (search : String) :
    ((s.groupByKind search).flatMap (·.2)).Nodup := by
  rw [List.nodup_flatMap]
  constructor
  · intro group hgroup
    rw [(mem_groupByKind.mp hgroup).1]
    exact (own.kindGroup_ascends search group.1).nodup
  · have hkinds : ((s.groupByKind search).map (·.1)).Nodup := by
      rw [kinds_groupByKind]
      exact (by decide : TypeKind.all.Nodup).filter _
    refine (List.pairwise_map.mp hkinds).imp_of_mem fun {a b} ha hb hne t hta htb => hne ?_
    exact (kind_of_mem ha hta).symm.trans (kind_of_mem hb htb)

theorem OwnNames.isKindPartition (own : s.OwnNames) (search : String) :
    s.IsKindPartition search (s.groupByKind search) where
  once := own.nodup_groups search
  listed := by
    intro t
    rw [← mem_browsable_iff_listed, ← mem_groupByKind_iff, List.mem_flatMap]
    constructor
    · rintro ⟨group, hgroup, ht⟩
      exact ⟨group.2, (kind_of_mem hgroup ht) ▸ hgroup, ht⟩
    · rintro ⟨members, hgroup, ht⟩
      exact ⟨_, hgroup, ht⟩
  ownKind := fun _ hgroup _ ht => kind_of_mem hgroup ht
  filled := fun group hgroup => (mem_groupByKind.mp hgroup).2
  kindsInOrder := by
    rw [kinds_groupByKind]
    exact List.filter_sublist
  namesAscend := by
    intro group hgroup
    rw [(mem_groupByKind.mp hgroup).1]
    exact List.pairwise_map.mpr (own.kindGroup_ascends search group.1)

/-- **The types of a schema by kind are a partition that does not depend on their order**, for every schema
    that stores its types under their own names and every search; one scan that adds type after type to
    its group finds it. -/
theorem groups_by_kind_isPartition (s : Schema) (own : s.OwnNames) (search : String) :
    s.IsKindPartition search (s.groupByKind search) ∧ s.groupByScan search = s.groupByKind search ∧
    ∀ types : Keyed NamedType, types.entries.Perm s.types.entries →
      ({ s with types := types } : Schema).groupByKind search = s.groupByKind search := by
  refine ⟨own.isKindPartition search, s.groupByScan_eq search, fun types h => ?_⟩
  have own' : ({ s with types := types } : Schema).OwnNames := fun e he => own e (h.mem_iff.mp he)
  have hlisted : ∀ t, t ∈ ({ s with types := types } : Schema).browsable search ↔ t ∈ s.browsable search := by
    intro t
    rw [mem_browsable_iff, mem_browsable_iff]
    exact and_congr (h.map (·.2)).mem_iff Iff.rfl
  rw [groupByKind_eq, groupByKind_eq]
  refine List.filterMap_congr fun kind _ => ?_
  rw [own.kindGroup_congr own' hlisted kind]

/-- Types of three kinds, one of which is a root. -/
def pantry : Schema :=
  { types := .ofPairs [("tea", ⟨"tea", none, .scalar⟩), ("Query", ⟨"Query", none, .object [] []⟩),
      ("Steam", ⟨"Steam", none, .object [] []⟩), ("Tea", ⟨"Tea", none, .object [] []⟩),
      ("Salt", ⟨"Salt", none, .union []⟩)]
    query := some "Query"
    mutation := none
    subscription := none }

/-- The same types in another order. -/
def turnedPantry : Keyed NamedType :=
  .ofPairs [("Salt", ⟨"Salt", none, .union []⟩), ("Tea", ⟨"Tea", none, .object [] []⟩),
    ("Steam", ⟨"Steam", none, .object [] []⟩), ("Query", ⟨"Query", none, .object [] []⟩),
    ("tea", ⟨"tea", none, .scalar⟩)]

/-- Both orders are listed alike: the root is left out, and so is what a search does not find. -/
theorem pantry_isPartition :
    pantry.OwnNames ∧ pantry.IsKindPartition " TEA " (pantry.groupByKind " TEA ") ∧
    pantry.groupByKind " TEA " = [(.scalar, [⟨"tea", none, .scalar⟩]),
      (.object, [⟨"Steam", none, .object [] []⟩, ⟨"Tea", none, .object [] []⟩])] ∧
    turnedPantry.entries.Perm pantry.types.entries ∧
    ({ pantry with types := turnedPantry } : Schema).groupByKind " TEA " = pantry.groupByKind " TEA " := by
  have own : pantry.OwnNames := by decide
  obtain ⟨hpartition, -, horder⟩ := groups_by_kind_isPartition pantry own " TEA "
  have hperm : turnedPantry.entries.Perm pantry.types.entries := List.reverse_perm pantry.types.entries
  -- The names of each kind ascend already, so that sorting leaves them as they are.
  have hgroup : ∀ kind, pantry.kindGroup " TEA " kind = (pantry.browsable " TEA ").filter (·.kind = kind) := by
    intro kind
    refine List.mergeSort_of_pairwise ?_
    cases kind <;> decide +kernel
  refine ⟨own, hpartition, ?_, hperm, horder turnedPantry hperm⟩
  rw [groupByKind_eq]
  simp only [hgroup]
  decide +kernel

end Schema

end GraphQLCache
