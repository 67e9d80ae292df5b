import GraphQLCache.Proofs.GroupedEntities
import GraphQLCache.Proofs.LowerCase

/-!
# `Proofs.FoundNames` — which texts a search finds in every name that holds them

Entities are searched by id, the entries of a snapshot by id and type, and the types of a schema by name. All
three compare the trimmed search with the name in lower case, each lowered by itself. A text that occurs in a
name is found by this if its capital sigmas are settled in it, and for every other text there is a name that
holds it and is passed by: the beginning of a word that breaks off at a sigma is lowered as a word of its own,
and has the sigma of an end where the whole word has one of the middle.

`names_found_iff_settled` says so of the three searches.
-/

namespace GraphQLCache

open Snapshot

variable {search : String} {s : Schema} {t : NamedType}

/-! ## Texts in lower case -/

theorem occurs_iff_isInfix {part text : String} : Occurs part text ↔ part.toList <:+: text.toList := by
  rw [← textContains_iff, textContains, occursIn_iff]

/-- The lower case of a trimmed search in that of a text. -/
theorem occurs_lowered_iff {text : String} :
    Occurs (lowerText (trimText search)) (lowerText text) ↔
      Text.lower (Text.trim search.toList) <:+: Text.lower text.toList := by
  rw [occurs_iff_isInfix, lowerText, lowerText, trimText, String.toList_ofList, String.toList_ofList,
    String.toList_ofList]

/-- **A search with settled sigmas** is found in lower case wherever it occurs. -/
theorem occurs_lowered_of_occurs (h : Text.SettledSigmas search.toList) {text : String} (hoccurs : Occurs search text) :
    Occurs (lowerText (trimText search)) (lowerText text) := by
  obtain ⟨before, after, htext⟩ := occurs_iff_isInfix.mp hoccurs
  rw [occurs_lowered_iff, ← htext]
  exact (Text.lower_trim_infix_iff search.toList).mpr h before after

/-- **Any other search** occurs in a name in which it is not found in lower case, nor is it found in a text
    without small sigmas. -/
theorem exists_not_occurs_lowered (h : ¬ Text.SettledSigmas search.toList) :
    ∃ name, Occurs search name ∧ 'Σ' ∈ name.toList ∧
      ¬ Occurs (lowerText (trimText search)) (lowerText name) ∧
      ∀ text, 'σ' ∉ text.toList → 'ς' ∉ text.toList → ¬ Occurs (lowerText (trimText search)) text := by
  obtain ⟨before, after, hnot⟩ := Text.exists_not_infix_lower h
  have hsigma : 'Σ' ∈ search.toList := by
    by_contra hnone
    exact h (Text.settledSigmas_of_not_mem hnone)
  refine ⟨String.ofList (before ++ search.toList ++ after), ?_, ?_, ?_, ?_⟩
  · rw [occurs_iff_isInfix, String.toList_ofList]
    exact ⟨before, after, rfl⟩
  · rw [String.toList_ofList]
    exact List.mem_append_left _ (List.mem_append_right _ hsigma)
  · rw [occurs_lowered_iff, String.toList_ofList]
    exact hnot
  · intro text hinner hfinal hoccurs
    obtain ⟨x, hx, hmem⟩ := Text.exists_sigma_of_mem hsigma
    rw [occurs_iff_isInfix, lowerText, trimText, String.toList_ofList, String.toList_ofList] at hoccurs
    have htext := hoccurs.subset hmem
    simp only [List.mem_cons, List.not_mem_nil, or_false] at hx
    rcases hx with rfl | rfl
    · exact hinner htext
    · exact hfinal htext

/-! ## The three searches -/

/-- A search of entities keeps every entity whose id holds the text. -/
def FindsIds (search : String) : Prop :=
  ∀ entities : List Entity, ∀ e ∈ entities, Occurs search e.id → e ∈ filterEntities entities search

/-- A search of a snapshot keeps every entry that is not reserved and holds the text in its id or in the name
    of its type, which is the name of its group. -/
def FindsEntries (search : String) : Prop :=
  ∀ (cache : Snapshot) (id : String) (record : Entries), cache.get? id = some (.obj record) → id ∉ reservedIds →
    Occurs search id ∨ Occurs search (groupName id record) →
    (id, record) ∈ entriesUnder (cache.groups search) (groupName id record)

/-- A search of a schema keeps every type that is no root and holds the text in its name. -/
def FindsTypes (search : String) : Prop :=
  ∀ s : Schema, ∀ t ∈ s.types.values, t.name ∉ s.rootNames → Occurs search t.name →
    ∃ members, (t.kind, members) ∈ s.groupByKind search ∧ t ∈ members

/-- What a search of entities keeps. -/
theorem mem_filterEntities_iff {entities : List Entity} {e : Entity} :
    e ∈ filterEntities entities search ↔ e ∈ entities ∧
      (Occurs (lowerText (trimText search)) (lowerText e.id) ∨
        Occurs (lowerText (trimText search)) (searchText e.record)) := by
  unfold filterEntities foundIn matchesKey searchKey
  rw [List.mem_filter, Bool.or_eq_true, textContains_iff, textContains_iff]

/-- What is browsed is in the group of its kind, and nothing else is. -/
theorem mem_groupByKind_iff :
    (∃ members, (t.kind, members) ∈ s.groupByKind search ∧ t ∈ members) ↔ t ∈ s.browsable search := by
  unfold Schema.groupByKind
  simp only [List.mem_filterMap]
  constructor
  · rintro ⟨members, ⟨kind, _, hgroup⟩, hmem⟩
    split at hgroup
    · cases hgroup
    · cases hgroup
      exact (List.mem_filter.mp (List.mem_mergeSort.mp hmem)).1
  · intro ht
    have hmem : t ∈ ((s.browsable search).filter (·.kind = t.kind)).mergeSort fun a b => a.name ≤ b.name :=
      List.mem_mergeSort.mpr (List.mem_filter.mpr ⟨ht, decide_eq_true rfl⟩)
    have hkind : t.kind ∈ TypeKind.all := by
      cases t.kind <;> decide
    refine ⟨_, ⟨t.kind, hkind, if_neg fun hempty => ?_⟩, hmem⟩
    rw [List.isEmpty_iff.mp hempty] at hmem
    cases hmem

theorem mem_browsable_iff :
    t ∈ s.browsable search ↔ t ∈ s.types.values ∧ t.name ∉ s.rootNames ∧
      Occurs (lowerText (trimText search)) (lowerText t.name) := by
  unfold Schema.browsable matchesKey searchKey
  rw [List.mem_filter, Bool.and_eq_true, textContains_iff, Bool.not_eq_true', ← Bool.not_eq_true,
    List.contains_iff_mem]

theorem findsIds_iff : FindsIds search ↔ Text.SettledSigmas search.toList := by
  constructor
  · intro h
    by_contra hunsettled
    obtain ⟨name, hoccurs, _, hnot, hplain⟩ := exists_not_occurs_lowered hunsettled
    have hkept := h [⟨name, [], name⟩] _ (List.mem_singleton_self _) hoccurs
    rcases (mem_filterEntities_iff.mp hkept).2 with hid | hrecord
    · exact hnot hid
    · exact hplain (searchText []) (by decide +kernel) (by decide +kernel) hrecord
  · intro h entities e he hoccurs
    exact mem_filterEntities_iff.mpr ⟨he, Or.inl (occurs_lowered_of_occurs h hoccurs)⟩

/-- A record of an empty type. -/
def untyped : Entries := [("__typename", .str "")]

theorem findsEntries_iff : FindsEntries search ↔ Text.SettledSigmas search.toList := by
  constructor
  · intro h
    by_contra hunsettled
    obtain ⟨name, hoccurs, hsigma, hnot, hplain⟩ := exists_not_occurs_lowered hunsettled
    -- An entry of no type, so that its id alone holds the text.
    have hreserved : name ∉ reservedIds := by
      have hall : ∀ id ∈ reservedIds, 'Σ' ∉ id.toList := by decide
      exact fun hmem => hall name hmem hsigma
    have hstored : (Keyed.ofPairs [(name, Json.obj untyped)]).get? name = some (.obj untyped) := by
      rw [Keyed.get?_ofPairs, List.lookup_cons_self]
    have hkept := h _ name untyped hstored hreserved (Or.inl hoccurs)
    obtain ⟨_, _, hid | hgroup | hrecord⟩ := mem_entriesUnder_groups_iff.mp hkept
    · exact hnot hid
    · have hunknown : groupName name untyped = "Unknown" := rfl
      rw [hunknown] at hgroup
      exact hplain (lowerText "Unknown") (by decide +kernel) (by decide +kernel) hgroup
    · exact hplain (searchText untyped) (by decide +kernel) (by decide +kernel) hrecord
  · intro h cache id record hstored hreserved hoccurs
    refine mem_entriesUnder_groups_iff.mpr ⟨mem_records_iff.mpr ⟨hstored, hreserved⟩, rfl, ?_⟩
    rcases hoccurs with hid | hgroup
    · exact Or.inl (occurs_lowered_of_occurs h hid)
    · exact Or.inr (Or.inl (occurs_lowered_of_occurs h hgroup))

theorem findsTypes_iff : FindsTypes search ↔ Text.SettledSigmas search.toList := by
  constructor
  · intro h
    by_contra hunsettled
    obtain ⟨name, hoccurs, _, hnot, _⟩ := exists_not_occurs_lowered hunsettled
    have hkept := h { Schema.empty with types := .ofPairs [(name, ⟨name, none, .scalar⟩)] } ⟨name, none, .scalar⟩
      (List.mem_singleton_self _) List.not_mem_nil hoccurs
    exact hnot (mem_browsable_iff.mp (mem_groupByKind_iff.mp hkept)).2.2
  · intro h s t ht hroot hoccurs
    exact mem_groupByKind_iff.mpr (mem_browsable_iff.mpr ⟨ht, hroot, occurs_lowered_of_occurs h hoccurs⟩)

/-- **A text is found in every name that holds it just if its capital sigmas are settled**: each of the three
    searches, of entities by their ids, of the entries of a snapshot by their ids and types, and of the types of
    a schema by their names, finds every occurrence of exactly these texts. -/
theorem names_found_iff_settled (search : String) :
    (FindsIds search ↔ Text.SettledSigmas search.toList) ∧
    (FindsEntries search ↔ Text.SettledSigmas search.toList) ∧
    (FindsTypes search ↔ Text.SettledSigmas search.toList) :=
  ⟨findsIds_iff, findsEntries_iff, findsTypes_iff⟩

namespace OpenWord

/-- A hero whose name has sigmas in the middle and at the end. -/
def hero : Entity := ⟨"Hero:ΟΔΥΣΣΕΥΣ", [], "Hero:ΟΔΥΣΣΕΥΣ"⟩

def cache : Snapshot := .ofPairs [("Hero:ΟΔΥΣΣΕΥΣ", .obj [])]

def schema : Schema :=
  { Schema.empty with types := .ofPairs [("ΟΔΥΣΣΕΥΣ", ⟨"ΟΔΥΣΣΕΥΣ", none, .scalar⟩)] }

end OpenWord

open OpenWord in
/-- The beginning of a name that breaks off at a sigma is found by none of the searches. -/
theorem openWord_not_found :
    (Occurs "ΟΔΥΣ" "Hero:ΟΔΥΣΣΕΥΣ" ∧ filterEntities [hero] "ΟΔΥΣ" = [] ∧ cache.groups "ΟΔΥΣ" = []) ∧
    (Occurs "ΟΔΥΣ" "ΟΔΥΣΣΕΥΣ" ∧ schema.groupByKind "ΟΔΥΣ" = []) ∧
    ¬ ∀ search, FindsIds search ∧ FindsEntries search ∧ FindsTypes search := by
  have hid : Occurs "ΟΔΥΣ" "Hero:ΟΔΥΣΣΕΥΣ" := ⟨"Hero:", "ΣΕΥΣ", by decide⟩
  have hkept : filterEntities [hero] "ΟΔΥΣ" = [] := by decide +kernel
  refine ⟨⟨hid, hkept, by decide +kernel⟩, ⟨⟨"", "ΣΕΥΣ", by decide⟩, by decide +kernel⟩, fun h => ?_⟩
  have hmem := (h "ΟΔΥΣ").1 [hero] hero (List.mem_singleton_self _) hid
  rw [hkept] at hmem
  cases hmem

end GraphQLCache
