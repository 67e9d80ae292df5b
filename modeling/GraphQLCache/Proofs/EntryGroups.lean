import GraphQLCache.Cache.Browse
import GraphQLCache.Proofs.EntityListing
import Mathlib.Data.List.Infix
import Mathlib.Data.List.Sort

/-!
# `Proofs.EntryGroups` — browsing a snapshot is a partition

The roots of a snapshot and its groups together hold every record but the metadata exactly once
(`IsPartition`). The names of groups ascend, and so do the ids in a group, so the place of every entry is
fixed by its group and its id alone: neither the order of the snapshot nor a search moves anything. A search
only leaves out entries, and groups of which nothing is left (`narrowed`).

All of it is read off the rows, the entries with their groups. Sorting makes them a strictly ascending list,
and such a list is known by its elements. Gathering rows into groups loses nothing (`rowsOf_gather`), and
groups with ascending names are what their rows are gathered into (`gather_rowsOf`).
-/

namespace GraphQLCache

/-! ## What a search finds -/

/-- `part` stands somewhere in `text`. -/
def Occurs (part text : String) : Prop := ∃ before behind, text = before ++ part ++ behind

theorem occursIn_iff {needle hay : List Char} : Text.occursIn needle hay = true ↔ needle <:+: hay := by
  induction hay with
  | nil => rw [Text.occursIn, List.infix_nil, List.isEmpty_iff]
  | cons c rest ih =>
      rw [Text.occursIn, Bool.or_eq_true, List.isPrefixOf_iff_prefix, ih, List.infix_cons_iff]

theorem textContains_iff {part text : String} : textContains text part = true ↔ Occurs part text := by
  rw [textContains, occursIn_iff]
  constructor
  · rintro ⟨before, behind, h⟩
    refine ⟨String.ofList before, String.ofList behind, String.toList_injective ?_⟩
    rw [String.toList_append, String.toList_append, String.toList_ofList, String.toList_ofList, h]
  · rintro ⟨before, behind, rfl⟩
    exact ⟨before.toList, behind.toList, by rw [String.toList_append, String.toList_append]⟩

namespace Snapshot

/-- Groups of entries, each under its name. -/
abbrev Groups := List (String × List (String × Entries))

/-- **A search finds an entry of a group** where the text that it is for, trimmed and in small letters, stands
    in the id, in the name of the group or in the record as it is written, all in small letters. -/
def Found (search group : String) (e : String × Entries) : Prop :=
  Occurs (lowerText (trimText search)) (lowerText e.1) ∨
  Occurs (lowerText (trimText search)) (lowerText group) ∨
  Occurs (lowerText (trimText search)) (lowerText (Json.obj e.2).dumpRaw)

theorem found_iff {search group : String} {e : String × Entries} :
    (matchesKey (searchKey search) group || foundIn (searchKey search) e.1 e.2) = true ↔
      Found search group e := by
  unfold Found foundIn matchesKey searchKey searchText
  rw [Bool.or_eq_true, Bool.or_eq_true, textContains_iff, textContains_iff, textContains_iff]
  exact or_left_comm

instance (search group : String) (e : String × Entries) : Decidable (Found search group e) :=
  decidable_of_iff _ found_iff

/-- The empty search finds every entry. -/
theorem found_empty (group : String) (e : String × Entries) : Found "" group e :=
  Or.inl ⟨"", lowerText e.1, rfl⟩

/-! ## Rows and groups -/

/-- The order of rows: by group, and in a group by id. -/
def rowKey (r : Row) : Lex (String × String) := toLex (r.group, r.id)

/-- The first row comes before the second. -/
def RowLT (a b : Row) : Prop := rowKey a < rowKey b

instance : Std.Irrefl RowLT := ⟨fun a => lt_irrefl (rowKey a)⟩

instance : Std.Antisymm RowLT := ⟨fun _ _ hab hba => absurd hba (lt_asymm hab)⟩

theorem rowLE_iff {a b : Row} : rowLE a b = true ↔ rowKey a ≤ rowKey b := by
  unfold rowKey
  rw [Prod.Lex.toLex_le_toLex]
  simp [rowLE]

theorem rowLT_iff {a b : Row} : RowLT a b ↔ a.group < b.group ∨ a.group = b.group ∧ a.id < b.id := by
  unfold RowLT rowKey
  rw [Prod.Lex.toLex_lt_toLex]

/-- The entries of groups as rows. -/
def rowsOf (groups : Groups) : List Row := groups.flatMap fun g => g.2.map fun e => ⟨g.1, e.1, e.2⟩

/-- A row as an entry, without its group. -/
def Row.entry (r : Row) : String × Entries := (r.id, r.record)

theorem entries_rowsOf (groups : Groups) : (rowsOf groups).map Row.entry = groups.flatMap (·.2) := by
  unfold rowsOf
  rw [List.map_flatMap]
  refine List.flatMap_congr fun g _ => ?_
  rw [List.map_map]
  exact List.map_id _

/-- Groups under ascending names, each with an entry. -/
structure AreGroups (groups : Groups) : Prop where
  filled : ∀ g ∈ groups, g.2 ≠ []
  ascending : (groups.map (·.1)).Pairwise (· < ·)

/-- **Gathering loses nothing** and keeps the order of rows. -/
theorem rowsOf_gather (rows : List Row) : rowsOf (gather rows) = rows := by
  induction rows with
  | nil => rfl
  | cons r rest ih =>
      rw [gather]
      cases hrest : gather rest with
      | nil =>
          rw [hrest] at ih
          rw [← ih]
          rfl
      | cons g groups =>
          rw [hrest] at ih
          dsimp only
          by_cases hgroup : r.group = g.1
          · rw [if_pos hgroup, ← ih]
            simp [rowsOf, ← hgroup]
          · rw [if_neg hgroup, ← ih]
            simp [rowsOf]

theorem filled_gather (rows : List Row) : ∀ g ∈ gather rows, g.2 ≠ [] := by
  induction rows with
  | nil => intro g hg; cases hg
  | cons r rest ih =>
      rw [gather]
      cases hrest : gather rest with
      | nil => intro g hg; cases List.mem_singleton.mp hg; exact List.cons_ne_nil _ _
      | cons first groups =>
          rw [hrest] at ih
          dsimp only
          by_cases hgroup : r.group = first.1
          · rw [if_pos hgroup]
            intro g hg
            rcases List.mem_cons.mp hg with rfl | hmem
            · exact List.cons_ne_nil _ _
            · exact ih g (List.mem_cons_of_mem _ hmem)
          · rw [if_neg hgroup]
            intro g hg
            rcases List.mem_cons.mp hg with rfl | hmem
            · exact List.cons_ne_nil _ _
            · exact ih g hmem

/-- The name of a group is that of one of the rows. -/
theorem exists_row_of_mem_gather {rows : List Row} {g : String × List (String × Entries)}
    (h : g ∈ gather rows) :
    ∃ r ∈ rows, r.group = g.1 := by
  obtain ⟨e, he⟩ := List.exists_mem_of_ne_nil _ (filled_gather rows g h)
  refine ⟨⟨g.1, e.1, e.2⟩, ?_, rfl⟩
  rw [← rowsOf_gather rows]
  exact List.mem_flatMap.mpr ⟨g, h, List.mem_map.mpr ⟨e, he, rfl⟩⟩

/-- Rows in order are gathered into groups under ascending names. -/
theorem areGroups_gather {rows : List Row} (h : rows.Pairwise RowLT) : AreGroups (gather rows) := by
  refine ⟨filled_gather rows, ?_⟩
  induction rows with
  | nil => exact List.Pairwise.nil
  | cons r rest ih =>
      obtain ⟨hr, hrest⟩ := List.pairwise_cons.mp h
      have hnames := ih hrest
      -- No later row is in an earlier group.
      have hle : ∀ g ∈ gather rest, r.group ≤ g.1 := by
        intro g hg
        obtain ⟨r', hr', hname⟩ := exists_row_of_mem_gather hg
        rw [← hname]
        rcases rowLT_iff.mp (hr r' hr') with hlt | ⟨heq, _⟩
        · exact hlt.le
        · exact heq.le
      rw [gather]
      cases hgather : gather rest with
      | nil => exact List.pairwise_singleton _ _
      | cons first groups =>
          rw [hgather] at hnames hle
          dsimp only
          by_cases hgroup : r.group = first.1
          · rw [if_pos hgroup]
            exact hnames
          · rw [if_neg hgroup]
            have hfirst : r.group < first.1 := lt_of_le_of_ne (hle first List.mem_cons_self) hgroup
            refine List.pairwise_cons.mpr ⟨?_, hnames⟩
            intro name hname
            rcases List.mem_cons.mp hname with rfl | hlater
            · exact hfirst
            · exact hfirst.trans ((List.pairwise_cons.mp hnames).1 name hlater)

/-- The rows of one more group are gathered in front of groups under other names. -/
theorem gather_append {name : String} {members : List (String × Entries)} {rows : List Row}
    (hne : members ≠ []) (hother : ∀ g ∈ gather rows, name ≠ g.1) :
    gather (members.map (fun e => ⟨name, e.1, e.2⟩) ++ rows) = (name, members) :: gather rows := by
  induction members with
  | nil => exact absurd rfl hne
  | cons e rest ih =>
      rw [List.map_cons, List.cons_append, gather]
      by_cases hrest : rest = []
      · rw [hrest, List.map_nil, List.nil_append]
        cases hgather : gather rows with
        | nil => rfl
        | cons first groups =>
            dsimp only
            rw [hgather] at hother
            rw [if_neg (hother first List.mem_cons_self)]
      · rw [ih hrest]
        dsimp only
        rw [if_pos rfl]

/-- **Groups are what their rows are gathered into.** -/
theorem gather_rowsOf {groups : Groups} (h : AreGroups groups) : gather (rowsOf groups) = groups := by
  obtain ⟨filled, ascending⟩ := h
  induction groups with
  | nil => rfl
  | cons g rest ih =>
      obtain ⟨hg, hrest⟩ := List.pairwise_cons.mp ascending
      have hgather := ih (fun g' hg' => filled g' (List.mem_cons_of_mem _ hg')) hrest
      have hother : ∀ g' ∈ gather (rowsOf rest), g.1 ≠ g'.1 := by
        intro g' hg'
        rw [hgather] at hg'
        exact (hg g'.1 (List.mem_map.mpr ⟨g', hg', rfl⟩)).ne
      show gather (g.2.map _ ++ rowsOf rest) = _
      rw [gather_append (filled g List.mem_cons_self) hother, hgather]

/-! ## Narrowing groups -/

/-- **Groups narrowed by a search**: in each group the entries that are found, and of the groups those that
    still have an entry. -/
def narrowed (search : String) (groups : Groups) : Groups :=
  (groups.map fun g => (g.1, g.2.filter (Found search g.1 ·))).filter fun g => !g.2.isEmpty

theorem areGroups_narrowed {groups : Groups} (search : String) (h : AreGroups groups) :
    AreGroups (narrowed search groups) := by
  refine ⟨fun g hg => ?_, ?_⟩
  · have hsome := (List.mem_filter.mp hg).2
    intro hnil
    rw [hnil] at hsome
    cases hsome
  · have hsub : ((narrowed search groups).map (·.1)).Sublist (groups.map (·.1)) := by
      have hmap := (List.filter_sublist (p := fun g : String × List (String × Entries) => !g.2.isEmpty)
        (l := groups.map fun g => (g.1, g.2.filter (Found search g.1 ·)))).map (·.1)
      rw [List.map_map] at hmap
      exact hmap
    exact h.ascending.sublist hsub

/-- The rows of narrowed groups are the rows that are found. -/
theorem rowsOf_narrowed (search : String) (groups : Groups) :
    rowsOf (narrowed search groups) = (rowsOf groups).filter fun r => Found search r.group r.entry := by
  induction groups with
  | nil => rfl
  | cons g rest ih =>
      have hrow : ((g.2.map fun e => (⟨g.1, e.1, e.2⟩ : Row)).filter fun r => Found search r.group r.entry) =
          (g.2.filter (Found search g.1 ·)).map fun e => ⟨g.1, e.1, e.2⟩ := by
        rw [List.filter_map]
        rfl
      show _ = List.filter _ (g.2.map _ ++ rowsOf rest)
      rw [List.filter_append, hrow, ← ih]
      unfold narrowed
      rw [List.map_cons]
      by_cases hnil : g.2.filter (Found search g.1 ·) = []
      · rw [List.filter_cons_of_neg (by simp [hnil]), hnil]
        rfl
      · rw [List.filter_cons_of_pos (by simp [hnil])]
        rfl

/-! ## The rows of a snapshot -/

variable {s : Snapshot}

/-- The row of an entry. -/
def rowOf (e : String × Entries) : Row := ⟨groupName e.1 e.2, e.1, e.2⟩

theorem rows_eq (s : Snapshot) (search : String) :
    s.rows search = ((s.records.map rowOf).filter fun r => Found search r.group r.entry).mergeSort rowLE := by
  have hfound : ∀ r ∈ s.records.map rowOf,
      (matchesKey (searchKey search) r.group || foundIn (searchKey search) r.id r.record) =
        decide (Found search r.group r.entry) := by
    intro r _
    rw [Bool.eq_iff_iff, decide_eq_true_iff]
    exact @found_iff search r.group r.entry
  rw [← List.filter_congr hfound]
  rfl

theorem rowLE_trans (a b c : Row) (hab : rowLE a b = true) (hbc : rowLE b c = true) : rowLE a c = true :=
  rowLE_iff.mpr ((rowLE_iff.mp hab).trans (rowLE_iff.mp hbc))

theorem rowLE_total (a b : Row) : (rowLE a b || rowLE b a) = true := by
  rw [Bool.or_eq_true, rowLE_iff, rowLE_iff]
  exact le_total _ _

theorem mem_rows_iff {search : String} {r : Row} :
    r ∈ s.rows search ↔ r ∈ s.records.map rowOf ∧ Found search r.group r.entry := by
  rw [rows_eq, (List.mergeSort_perm _ _).mem_iff, List.mem_filter, decide_eq_true_iff]

/-- **Rows strictly ascend**: they are sorted, and no two of them have the same id. -/
theorem rows_ascend (s : Snapshot) (search : String) : (s.rows search).Pairwise RowLT := by
  have hsorted : (s.rows search).Pairwise fun a b => rowLE a b = true := by
    rw [rows_eq]
    exact List.pairwise_mergeSort rowLE_trans rowLE_total _
  have hdistinct : (s.rows search).Pairwise fun a b => a.id ≠ b.id := by
    have hids : ((s.records.map rowOf).map (·.id)).Nodup := by
      rw [List.map_map]
      exact s.nodup_recordsExcept reservedIds
    have hall : (s.records.map rowOf).Pairwise fun a b => a.id ≠ b.id := List.pairwise_map.mp hids
    have hfound := hall.sublist (List.filter_sublist (p := fun r => Found search r.group r.entry))
    rw [rows_eq]
    exact hfound.perm (List.mergeSort_perm _ _).symm fun h => h.symm
  refine (hsorted.and hdistinct).imp fun {a b} h => ?_
  -- rows that are equal in order have the same id
  refine lt_of_le_of_ne (rowLE_iff.mp h.1) fun hkey => h.2 ?_
  exact congrArg (fun key => (ofLex key).2) hkey

/-- Snapshots with the same records have the same rows. -/
theorem rows_eq_of_perm {t : Snapshot} (h : t.entries.Perm s.entries) (search : String) :
    t.rows search = s.rows search := by
  refine (t.rows_ascend search).eq_of_mem_iff (s.rows_ascend search) fun r => ?_
  have hrecords : t.records.Perm s.records := h.filterMap _
  rw [mem_rows_iff, mem_rows_iff, (hrecords.map rowOf).mem_iff]

/-- The rows of a search are those of the empty search that are found. -/
theorem rows_eq_filter (s : Snapshot) (search : String) :
    s.rows search = (s.rows "").filter fun r => Found search r.group r.entry := by
  refine (s.rows_ascend search).eq_of_mem_iff ((s.rows_ascend "").filter _) fun r => ?_
  rw [List.mem_filter, mem_rows_iff, mem_rows_iff, and_iff_left (found_empty _ _), decide_eq_true_iff]

/-! ## The partition -/

/-- The entries of a snapshot that hold a record, without the metadata. -/
def objects (s : Snapshot) : List (String × Entries) := s.recordsExcept ["__META"]

/-- **A partition of a snapshot** into its roots and groups. Together they hold every record but the metadata
    exactly once; the roots are the entries of the root operations, and every other entry is in the group of
    its type, or of unknown ones where its type is empty. No group is empty, and the names of groups and the
    ids in each group strictly ascend. -/
structure IsPartition (s : Snapshot) (roots : List (String × Entries)) (groups : Groups) : Prop where
  once : (roots ++ groups.flatMap (·.2)).Perm s.objects
  atRoot : ∀ e ∈ roots, e.1 = "ROOT_QUERY" ∨ e.1 = "ROOT_MUTATION"
  grouped : ∀ g ∈ groups, ∀ e ∈ g.2, ¬ (e.1 = "ROOT_QUERY" ∨ e.1 = "ROOT_MUTATION") ∧
    ∃ type, HasTypename e.1 e.2 type ∧ g.1 = if type = "" then "Unknown" else type
  filled : ∀ g ∈ groups, g.2 ≠ []
  groupsAscend : (groups.map (·.1)).Pairwise (· < ·)
  idsAscend : ∀ g ∈ groups, (g.2.map (·.1)).Pairwise (· < ·)

theorem mem_roots_iff {e : String × Entries} :
    e ∈ s.roots ↔ e.1 ∈ rootIds ∧ s.get? e.1 = some (.obj e.2) := by
  unfold roots
  rw [List.mem_filterMap]
  constructor
  · rintro ⟨id, hid, h⟩
    obtain ⟨record, hrecord, rfl⟩ := Option.map_eq_some_iff.mp h
    exact ⟨hid, record?_eq_some_iff.mp hrecord⟩
  · rintro ⟨hid, hstored⟩
    exact ⟨e.1, hid, by rw [record?_eq_some_iff.mpr hstored]; rfl⟩

theorem nodup_roots (s : Snapshot) : (s.roots.map (·.1)).Nodup := by
  have hsub : (s.roots.map (·.1)).Sublist rootIds := by
    unfold roots
    induction rootIds with
    | nil => exact List.Sublist.slnil
    | cons id rest ih =>
        rw [List.filterMap_cons]
        cases s.record? id with
        | none => exact ih.cons _
        | some record => exact ih.cons_cons _
  exact (by decide : rootIds.Nodup).sublist hsub

/-- Roots and records together are the records without the metadata. -/
theorem roots_append_records (s : Snapshot) : (s.roots ++ s.records).Perm s.objects := by
  have hids : ((s.roots ++ s.records).map (·.1)).Nodup := by
    rw [List.map_append]
    refine s.nodup_roots.append (s.nodup_recordsExcept reservedIds) fun id hroot hrecord => ?_
    obtain ⟨root, hmem, rfl⟩ := List.mem_map.mp hroot
    obtain ⟨e, he, hid⟩ := List.mem_map.mp hrecord
    have hreserved := (mem_records_iff.mp he).2
    rw [hid] at hreserved
    exact hreserved (List.mem_append_left ["__META"] (mem_roots_iff.mp hmem).1)
  have hobjects : s.objects.Nodup := (s.nodup_recordsExcept ["__META"]).of_map
  refine (List.perm_ext_iff_of_nodup hids.of_map hobjects).mpr fun e => ?_
  have hmeta : e.1 ∉ ["__META"] ↔ e.1 ∈ rootIds ∨ e.1 ∉ reservedIds := by
    have hroots : ∀ id ∈ rootIds, id ∉ ["__META"] := by decide
    show _ ↔ _ ∨ e.1 ∉ rootIds ++ ["__META"]
    rw [List.mem_append, not_or]
    constructor
    · intro h
      by_cases hroot : e.1 ∈ rootIds
      · exact Or.inl hroot
      · exact Or.inr ⟨hroot, h⟩
    · rintro (hroot | h)
      · exact hroots e.1 hroot
      · exact h.2
  have hrecords : e ∈ s.records ↔ s.get? e.1 = some (.obj e.2) ∧ e.1 ∉ reservedIds := mem_records_iff
  have hmem : e ∈ s.objects ↔ s.get? e.1 = some (.obj e.2) ∧ e.1 ∉ ["__META"] := mem_recordsExcept_iff
  rw [List.mem_append, mem_roots_iff, hrecords, hmem, hmeta, and_or_left, and_comm]

theorem groupName_eq {e : String × Entries} {type : String} (h : HasTypename e.1 e.2 type) :
    groupName e.1 e.2 = if type = "" then "Unknown" else type := by
  unfold groupName
  rw [hasTypename_iff.mp h]
  by_cases htype : type = ""
  · rw [if_pos htype, htype]; rfl
  · rw [if_neg htype, if_neg fun h => htype (String.isEmpty_iff.mp h)]

/-- The rows of a group in order of ids. -/
theorem ids_ascend_of_rowsOf {groups : Groups} (h : (rowsOf groups).Pairwise RowLT) :
    ∀ g ∈ groups, (g.2.map (·.1)).Pairwise (· < ·) := by
  intro g hg
  have hrows := (List.pairwise_flatMap.mp h).1 g hg
  rw [List.pairwise_map] at hrows ⊢
  refine hrows.imp fun {a b} hlt => ?_
  rcases rowLT_iff.mp hlt with hgroup | ⟨_, hid⟩
  · exact absurd hgroup (lt_irrefl g.1)
  · exact hid

/-- **Roots and groups are a partition** of every snapshot. -/
theorem isPartition_groups (s : Snapshot) : s.IsPartition s.roots (s.groups "") := by
  have hrows : rowsOf (s.groups "") = s.rows "" := rowsOf_gather _
  have hgroups : AreGroups (s.groups "") := areGroups_gather (s.rows_ascend "")
  refine ⟨?once, ?atRoot, ?grouped, hgroups.filled, hgroups.ascending, ?idsAscend⟩
  case once =>
    have hperm : (s.rows "").Perm (s.records.map rowOf) := by
      refine (List.perm_ext_iff_of_nodup ?_ ?_).mpr fun r => ?_
      · exact (s.rows_ascend "").nodup
      · have hnodup := s.nodup_recordsExcept reservedIds
        exact List.Nodup.of_map Row.id (by rw [List.map_map]; exact hnodup)
      · rw [mem_rows_iff, and_iff_left (found_empty _ _)]
    have hentries : ((s.groups "").flatMap (·.2)).Perm s.records := by
      have hmap := hperm.map Row.entry
      rw [List.map_map] at hmap
      rw [← entries_rowsOf, hrows]
      exact hmap.trans (List.Perm.of_eq (List.map_id _))
    exact (hentries.append_left _).trans s.roots_append_records
  case atRoot =>
    intro e he
    have hid := (mem_roots_iff.mp he).1
    simpa [rootIds] using hid
  case grouped =>
    intro g hg e he
    have hrow : (⟨g.1, e.1, e.2⟩ : Row) ∈ s.rows "" := by
      rw [← hrows]
      exact List.mem_flatMap.mpr ⟨g, hg, List.mem_map.mpr ⟨e, he, rfl⟩⟩
    obtain ⟨e', he', heq⟩ := List.mem_map.mp (mem_rows_iff.mp hrow).1
    obtain ⟨hgroup, hid, hrecord⟩ := Row.mk.inj heq
    cases (Prod.ext hid hrecord : e' = e)
    rw [← hgroup]
    refine ⟨?_, _, hasTypename_iff.mpr rfl, groupName_eq (hasTypename_iff.mpr rfl)⟩
    have hreserved := (mem_records_iff.mp he').2
    simp only [reservedIds, List.mem_cons, not_or] at hreserved
    rintro (hquery | hmutation)
    · exact hreserved.1 hquery
    · exact hreserved.2.1 hmutation
  case idsAscend =>
    refine ids_ascend_of_rowsOf ?_
    rw [hrows]
    exact s.rows_ascend ""

/-- **Browsing a snapshot is a partition that does not depend on its order**, for every snapshot, or none,
    which is like an empty one, and every search. A search narrows the groups, and a snapshot with the same
    entries in another order has the same groups. -/
theorem browsing_isPartition (cache : Option Snapshot) (search : String) :
    (cache.getD .empty).IsPartition (cache.getD .empty).roots ((cache.getD .empty).groups "") ∧
    (cache.getD .empty).groups search = narrowed search ((cache.getD .empty).groups "") ∧
    ∀ t : Snapshot, t.entries.Perm (cache.getD .empty).entries →
      t.groups search = (cache.getD .empty).groups search := by
  generalize cache.getD .empty = s
  refine ⟨s.isPartition_groups, ?_, fun t h => ?_⟩
  · have hgroups : AreGroups (s.groups "") := areGroups_gather (s.rows_ascend "")
    have hrows : rowsOf (narrowed search (s.groups "")) = s.rows search := by
      rw [rowsOf_narrowed, groups, rowsOf_gather, ← rows_eq_filter]
    rw [← gather_rowsOf (areGroups_narrowed search hgroups), hrows, groups]
  · unfold groups
    rw [rows_eq_of_perm h]

/-- Two users, a root, the metadata, an entry without a record and a record of an empty type. -/
def guestBook : Snapshot :=
  .ofPairs [("User:2", .obj [("name", .str "Bo")]), ("ROOT_QUERY", .obj []), ("__META", .obj []),
    ("note", .str "x"), ("Tag:1", .obj [("__typename", .str "")]), ("User:1", .obj [("name", .str "Ann")])]

/-- The same entries in another order. -/
def turnedBook : Snapshot :=
  .ofPairs [("User:1", .obj [("name", .str "Ann")]), ("Tag:1", .obj [("__typename", .str "")]),
    ("note", .str "x"), ("__META", .obj []), ("ROOT_QUERY", .obj []), ("User:2", .obj [("name", .str "Bo")])]

/-- Both are browsed alike, also in a search, which finds one of the users by the name in its record. -/
theorem guestBook_isPartition :
    guestBook.IsPartition guestBook.roots (guestBook.groups "") ∧
    Found " BO " "User" ("User:2", [("name", .str "Bo")]) ∧
    ¬ Found " BO " "User" ("User:1", [("name", .str "Ann")]) ∧
    guestBook.groups " BO " = narrowed " BO " (guestBook.groups "") ∧
    turnedBook.entries.Perm guestBook.entries ∧ turnedBook.groups " BO " = guestBook.groups " BO " := by
  obtain ⟨hpartition, hsearch, horder⟩ := browsing_isPartition (some guestBook) " BO "
  have hperm : turnedBook.entries.Perm guestBook.entries := List.reverse_perm guestBook.entries
  exact ⟨hpartition, by decide +kernel, by decide +kernel, hsearch, hperm, horder turnedBook hperm⟩

end Snapshot

end GraphQLCache
