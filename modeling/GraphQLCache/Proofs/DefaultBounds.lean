import GraphQLCache.Proofs.Conformance
import Mathlib.Data.List.Dedup

/-!
# `Proofs.DefaultBounds` — how a default depends on its bounds

Two runs for the same type with different bounds go the same way up to the records that they meet: leaves,
lists and chains of first members do not look at the bounds. `rel_ofRef` says so once, for every relation
between two runs, and leaves the records to be compared.

With more room and fewer visited types a default only grows: the smaller one is the larger one with some of
its objects cut (`cut_of_less`). Every object uses up the name of its type, so room beyond the number of names
that were not visited is never used (`ofRef_eq_of_enough`). `defaults_grow_and_saturate` puts the two together.
-/

namespace GraphQLCache

namespace Json

/-! ## The order of values -/

/-- **The order of values.** Null is below everything, a value is below itself, and an object is below an
    object with the same keys in the same order if its values are below those under the same keys. -/
inductive IsBelow : Json → Json → Prop
  | null (j : Json) : IsBelow .null j
  | same (j : Json) : IsBelow j j
  | object {lower upper : Entries} (keys : Entries.keys lower = Entries.keys upper)
      (values : ∀ key v w, (key, v) ∈ lower → (key, w) ∈ upper → IsBelow v w) :
      IsBelow (.obj lower) (.obj upper)

/-- A value **with some of its objects cut**: null stands in their place, and all else is as it was. -/
inductive IsCutOf : Json → Json → Prop
  | same (j : Json) : IsCutOf j j
  | cut (entries : Entries) : IsCutOf .null (.obj entries)
  | object {lower upper : Entries} (keys : Entries.keys lower = Entries.keys upper)
      (values : ∀ key v w, (key, v) ∈ lower → (key, w) ∈ upper → IsCutOf v w) :
      IsCutOf (.obj lower) (.obj upper)

/-- Cutting objects goes down in the order of values. -/
theorem IsCutOf.isBelow {a b : Json} (h : IsCutOf a b) : IsBelow a b := by
  induction h with
  | same j => exact .same j
  | cut entries => exact .null _
  | object keys _ ih => exact .object keys ih

end Json

/-! ## The names that objects use up -/

namespace Schema

/-- The names of the objects and input objects of a schema that were not visited, each once. -/
def freshNames (s : Schema) (visited : List String) : List String :=
  ((s.types.values.filter fun t => t.body.recordFields?.isSome).map (·.name)).dedup.filter (· ∉ visited)

variable {s : Schema} {visited : List String} {name : String}

theorem mem_freshNames_iff :
    name ∈ s.freshNames visited ↔
      (∃ t ∈ s.types.values, t.body.recordFields?.isSome ∧ t.name = name) ∧ name ∉ visited := by
  unfold freshNames
  rw [List.mem_filter, List.mem_dedup, List.mem_map, decide_eq_true_iff]
  simp only [List.mem_filter, and_assoc]

theorem mem_freshNames_of_record {t : NamedType} {fields : List Field} (ht : t ∈ s.types.values)
    (record : t.body.recordFields? = some fields) (hfresh : t.name ∉ visited) :
    t.name ∈ s.freshNames visited :=
  mem_freshNames_iff.mpr ⟨⟨t, ht, by rw [record]; rfl, rfl⟩, hfresh⟩

theorem nodup_freshNames (s : Schema) (visited : List String) : (s.freshNames visited).Nodup :=
  (List.nodup_dedup _).filter _

/-- **An object uses up a name**: once its type is visited there is one name less. -/
theorem length_freshNames_lt (h : name ∈ s.freshNames visited) :
    (s.freshNames (name :: visited)).length < (s.freshNames visited).length := by
  have hnodup : (name :: s.freshNames (name :: visited)).Nodup := by
    refine List.nodup_cons.mpr ⟨fun hmem => ?_, s.nodup_freshNames _⟩
    exact (mem_freshNames_iff.mp hmem).2 List.mem_cons_self
  have hsub : name :: s.freshNames (name :: visited) ⊆ s.freshNames visited := by
    refine List.cons_subset.mpr ⟨h, fun other hother => ?_⟩
    obtain ⟨hrecord, hfresh⟩ := mem_freshNames_iff.mp hother
    exact mem_freshNames_iff.mpr ⟨hrecord, fun hvisited => hfresh (List.mem_cons_of_mem _ hvisited)⟩
  exact (hnodup.subperm hsub).length_le

end Schema

namespace MockContext

variable {c : MockContext} {room room' : Nat} {visited visited' : List String} {t : NamedType}
  {fields : List Field} {value value' : Field → Json}

/-! ## Two runs -/

section TwoRuns

variable {R : Option Json → Option Json → Prop}

/-- What two runs give for a type is related if it is for every record of the schema. -/
theorem rel_ofType (refl : ∀ o, R o o)
    (records : ∀ x ∈ c.schema.types.values, ∀ fields, x.body.recordFields? = some fields →
      R (c.ofType room visited x) (c.ofType room' visited' x))
    (ht : t ∈ c.schema.types.values) : R (c.ofType room visited t) (c.ofType room' visited' t) := by
  -- an endless chain of first members gives nothing in either run, and any other ends in one type
  by_cases hend : c.schema.landing t = .endless
  · rw [ofType_of_endless hend, ofType_of_endless hend]
    exact refl none
  · refine Schema.landing_induction (motive := fun t => t ∈ c.schema.types.values →
      R (c.ofType room visited t) (c.ofType room' visited' t)) ?_ ?_ ?_ t hend ht
    · intro t hconcrete ht
      rcases TypeBody.concrete_cases hconcrete with hb | ⟨values, hb⟩ | ⟨fields, hb⟩
      · rw [ofType_of_scalar hb, ofType_of_scalar hb]
        exact refl _
      · rw [ofType_of_enum hb, ofType_of_enum hb]
        exact refl _
      · exact records t ht fields hb
    · intro t habs hnone _
      rw [ofType_of_noMember habs hnone, ofType_of_noMember habs hnone]
      exact refl _
    · intro t next hm ih _
      rw [ofType_of_member hm, ofType_of_member hm]
      exact ih hm.mem_values

/-- **Two runs differ in records only**: what they give for a reference is related if it is for every record
    of the schema. -/
theorem rel_ofRef (refl : ∀ o, R o o)
    (records : ∀ x ∈ c.schema.types.values, ∀ fields, x.body.recordFields? = some fields →
      R (c.ofType room visited x) (c.ofType room' visited' x))
    (ref : TypeRef) : R (c.ofRef room visited ref) (c.ofRef room' visited' ref) := by
  cases hlist : ref.nullable.isList with
  | true =>
      rw [ofRef_of_list hlist, ofRef_of_list hlist]
      exact refl _
  | false =>
      cases hget : c.schema.get? ref.nullable.baseName with
      | none =>
          rw [ofRef_of_unknown hlist hget, ofRef_of_unknown hlist hget]
          exact refl _
      | some t =>
          rw [ofRef_of_known hlist hget, ofRef_of_known hlist hget]
          exact rel_ofType refl records (Schema.mem_values_of_get? hget)

end TwoRuns

/-- **Two runs for one record**, the second with no less room and no more visited types. They come out equal, or
    the record is cut in the first run and an object in the second, or it is an object in both. -/
theorem two_records_cases {v v' : Json} (hroom : room ≤ room') (hvisited : visited' ⊆ visited)
    (record : t.body.recordFields? = some fields) (hv : c.ofType room visited t = some v)
    (hv' : c.ofType room' visited' t = some v') :
    v = v' ∨
    (v = .null ∧ (t.name ∈ visited ∨ room < room') ∧ t.name ∉ visited' ∧
      ∃ values', v' = tagged t.name (fieldEntries fields values')) ∨
    ∃ r r' values values', room = r + 1 ∧ room' = r' + 1 ∧
      v = tagged t.name (fieldEntries fields values) ∧ v' = tagged t.name (fieldEntries fields values') ∧
      (∀ f ∈ ownFields fields, c.ofRef r (t.name :: visited) f.type = some (values f)) ∧
      ∀ f ∈ ownFields fields, c.ofRef r' (t.name :: visited') f.type = some (values' f) := by
  -- where the second run cuts the record, the first one does so for the same reason
  rcases ofType_record_cases record hv' with ⟨hseen', rfl⟩ | ⟨rfl, rfl⟩ | ⟨r', values', rfl, hfresh', rfl, hvalues'⟩
  · rw [ofType_of_seen record (hvisited hseen')] at hv
    exact Or.inl (Option.some.inj hv).symm
  · rw [Nat.le_zero.mp hroom, ofType_of_noRoom record] at hv
    exact Or.inl (Option.some.inj hv).symm
  · rcases ofType_record_cases record hv with ⟨hseen, rfl⟩ | ⟨rfl, rfl⟩ | ⟨r, values, rfl, _, rfl, hvalues⟩
    · exact Or.inr (Or.inl ⟨rfl, Or.inl hseen, hfresh', values', rfl⟩)
    · exact Or.inr (Or.inl ⟨rfl, Or.inr (Nat.succ_pos r'), hfresh', values', rfl⟩)
    · exact Or.inr (Or.inr ⟨r, r', values, values', rfl, rfl, rfl, rfl, hvalues, hvalues'⟩)

/-! ## Two objects of one type -/

/-- Objects of the same fields have the same keys. -/
theorem keys_ofPairs_fieldEntries (fields : List Field) (value value' : Field → Json) :
    Entries.keys (Entries.ofPairs (fieldEntries fields value)) =
      Entries.keys (Entries.ofPairs (fieldEntries fields value')) := by
  rw [Entries.keys_ofPairs, Entries.keys_ofPairs, keys_fieldEntries, keys_fieldEntries]

/-- Under one key two objects of the same fields have the values of one field. -/
theorem exists_field_of_mem_both {key : String} {v w : Json}
    (hv : (key, v) ∈ Entries.ofPairs (fieldEntries fields value))
    (hw : (key, w) ∈ Entries.ofPairs (fieldEntries fields value')) :
    ∃ f ∈ ownFields fields, v = value f ∧ w = value' f := by
  obtain ⟨f, hf, hnamed, rfl⟩ := fieldNamed_of_mem_fieldEntries hv
  obtain ⟨f', _, hnamed', rfl⟩ := fieldNamed_of_mem_fieldEntries hw
  cases hnamed.symm.trans hnamed'
  exact ⟨f, hf, rfl, rfl⟩

/-- Objects whose values are cut field by field are cut. -/
theorem isCutOf_tagged (name : String)
    (h : ∀ f ∈ ownFields fields, (value f).IsCutOf (value' f)) :
    (tagged name (fieldEntries fields value)).IsCutOf (tagged name (fieldEntries fields value')) := by
  rw [tagged_fieldEntries, tagged_fieldEntries]
  refine .object (congrArg (typenameKey :: ·) (keys_ofPairs_fieldEntries fields value value')) ?_
  have htag : ∀ (value : Field → Json) (v : Json),
      (typenameKey, v) ∉ Entries.ofPairs (fieldEntries fields value) := by
    intro value v hmem
    have hkey := Entries.mem_keys_of_mem hmem
    rw [Entries.keys_ofPairs, List.mem_eraseDups] at hkey
    exact typenameKey_notMem_fieldEntries fields value hkey
  intro key v w hv hw
  rcases List.mem_cons.mp hv with heq | hv
  · cases heq
    rcases List.mem_cons.mp hw with heq | hw
    · cases heq
      exact .same _
    · exact absurd hw (htag value' w)
  · rcases List.mem_cons.mp hw with heq | hw
    · cases heq
      exact absurd hv (htag value v)
    · obtain ⟨f, hf, rfl, rfl⟩ := exists_field_of_mem_both hv hw
      exact h f hf

/-! ## More room and fewer visited types -/

/-- Where two runs both give a value, the first is the second with some objects cut. -/
def CutWhereMade (o o' : Option Json) : Prop := ∀ v v', o = some v → o' = some v' → v.IsCutOf v'

theorem CutWhereMade.refl (o : Option Json) : CutWhereMade o o := by
  intro v v' hv hv'
  cases hv.symm.trans hv'
  exact .same v

/-- One record, made with less room and more visited types. -/
theorem cutWhereMade_record (hroom : room ≤ room') (hvisited : visited' ⊆ visited)
    (below : ∀ r < room, ∀ r' visited visited' ref, r ≤ r' → visited' ⊆ visited →
      CutWhereMade (c.ofRef r visited ref) (c.ofRef r' visited' ref))
    (record : t.body.recordFields? = some fields) :
    CutWhereMade (c.ofType room visited t) (c.ofType room' visited' t) := by
  intro v v' hv hv'
  rcases two_records_cases hroom hvisited record hv hv' with
    rfl | ⟨rfl, _, _, values', rfl⟩ | ⟨r, r', values, values', rfl, rfl, rfl, rfl, hvalues, hvalues'⟩
  · exact .same _
  · rw [tagged_fieldEntries]
    exact .cut _
  · refine isCutOf_tagged t.name fun f hf => ?_
    exact below r (Nat.lt_succ_self r) r' _ _ f.type (Nat.le_of_succ_le_succ hroom)
      (List.cons_subset_cons _ hvisited) _ _ (hvalues f hf) (hvalues' f hf)

/-- **With more room and fewer visited types a default grows.** The induction is on the smaller room. -/
theorem cut_of_less (ref : TypeRef) (hroom : room ≤ room') (hvisited : visited' ⊆ visited) :
    CutWhereMade (c.ofRef room visited ref) (c.ofRef room' visited' ref) := by
  induction room using Nat.strong_induction_on generalizing room' visited visited' ref with
  | _ room ih =>
      refine rel_ofRef CutWhereMade.refl (fun x _ fields record => ?_) ref
      exact cutWhereMade_record hroom hvisited
        (fun r hlt r' visited visited' ref hle hsub => ih r hlt ref hle hsub) record

/-! ## Enough room -/

/-- **Room beyond the number of fresh names is never used.** -/
theorem ofRef_eq_of_enough (ref : TypeRef) (henough : (c.schema.freshNames visited).length ≤ room)
    (henough' : (c.schema.freshNames visited).length ≤ room') :
    c.ofRef room visited ref = c.ofRef room' visited ref := by
  induction room generalizing room' visited ref with
  | zero =>
      -- every record was visited, so both runs cut it
      refine rel_ofRef (fun _ => rfl) (fun x hx fields record => ?_) ref
      have hseen : x.name ∈ visited := by
        by_contra hfresh
        have hlt := Schema.length_freshNames_lt (Schema.mem_freshNames_of_record hx record hfresh)
        omega
      rw [ofType_of_seen record hseen, ofType_of_seen record hseen]
  | succ room ih =>
      refine rel_ofRef (fun _ => rfl) (fun x hx fields record => ?_) ref
      by_cases hseen : x.name ∈ visited
      · rw [ofType_of_seen record hseen, ofType_of_seen record hseen]
      · have hlt := Schema.length_freshNames_lt (Schema.mem_freshNames_of_record hx record hseen)
        obtain ⟨room', rfl⟩ : ∃ r, room' = r + 1 := ⟨room' - 1, by omega⟩
        have hfields : c.ofRef room (x.name :: visited) = c.ofRef room' (x.name :: visited) := by
          funext ref
          exact ih ref (by omega) (by omega)
        rw [ofType_of_record record hseen, ofType_of_record record hseen, hfields]

/-! ## Growing and saturating -/

/-- **A default grows with its bounds, and saturates.** Let first members form no cycle. With fewer visited
    types and no less room, a default is there and above the former one. The unfolding of a default counts
    depth and bound apart, but depends on them through the room that they leave alone. And where there is
    room for every name of an object or input object that was not visited, a larger bound changes nothing. -/
theorem defaults_grow_and_saturate (c : MockContext) (hacyclic : ¬ c.schema.FirstMembersCycle)
    (ref : TypeRef) :
    (∀ visited visited' depth depth' maxDepth maxDepth', visited' ⊆ visited →
      max maxDepth 0 - depth ≤ max maxDepth' 0 - depth' →
      ∃ v v', c.ofRef (roomAt depth maxDepth) visited ref = some v ∧
        c.ofRef (roomAt depth' maxDepth') visited' ref = some v' ∧ v.IsBelow v') ∧
    (∀ visited depth depth' maxDepth maxDepth', max maxDepth 0 - depth = max maxDepth' 0 - depth' →
      ∀ v, Unfolds c visited depth maxDepth (.ref ref) v ↔
        Unfolds c visited depth' maxDepth' (.ref ref) v) ∧
    (∀ visited depth maxDepth larger, ((c.schema.freshNames visited).length : Int) ≤ max maxDepth 0 - depth →
      maxDepth ≤ larger →
      c.ofRef (roomAt depth larger) visited ref = c.ofRef (roomAt depth maxDepth) visited ref) := by
  refine ⟨?_, ?_, ?_⟩
  · intro visited visited' depth depth' maxDepth maxDepth' hvisited hroom
    have hle : roomAt depth maxDepth ≤ roomAt depth' maxDepth' := Int.toNat_le_toNat hroom
    obtain ⟨v, hv⟩ :=
      Option.isSome_iff_exists.mp (ofRef_isSome hacyclic (roomAt depth maxDepth) visited ref)
    obtain ⟨v', hv'⟩ :=
      Option.isSome_iff_exists.mp (ofRef_isSome hacyclic (roomAt depth' maxDepth') visited' ref)
    exact ⟨v, v', hv, hv', (cut_of_less ref hle hvisited v v' hv hv').isBelow⟩
  · intro visited depth depth' maxDepth maxDepth' hroom v
    have heq : roomAt depth maxDepth = roomAt depth' maxDepth' := congrArg Int.toNat hroom
    rw [unfolds_iff, unfolds_iff, heq]
  · intro visited depth maxDepth larger henough hlarger
    have hroom : (c.schema.freshNames visited).length ≤ roomAt depth maxDepth := by
      unfold roomAt
      omega
    have hroom' : (c.schema.freshNames visited).length ≤ roomAt depth larger := by
      unfold roomAt
      omega
    exact ofRef_eq_of_enough ref hroom' hroom

/-- A shelf with a box, below which there is room for the lid but no second box. -/
def roomyShelf : Json :=
  .obj [("__typename", .str "Shelf"),
    ("item", .obj [("__typename", .str "Box"), ("id", .str ""), ("inner", .null),
      ("lid", .obj [("__typename", .str "Lid"), ("gap", .null)])]),
    ("boxes", .arr [])]

/-- A shelf whose box has no room for a lid is below one whose box has, and three levels for the box, the lid
    and what is in its gap are enough once the shelf and the label were visited. -/
theorem roomyShelf_grows_and_saturates :
    ¬ Shelf.context.schema.FirstMembersCycle ∧
    (Shelf.context.ofRef (roomAt 1 3) ["Lid"] (Shelf.ref "OBJECT" "Shelf") = some shelfDefault ∧
      Shelf.context.ofRef (roomAt 0 3) [] (Shelf.ref "OBJECT" "Shelf") = some roomyShelf ∧
      shelfDefault.IsBelow roomyShelf) ∧
    (Shelf.context.schema.freshNames ["Shelf", "Label"] = ["Box", "Lid", "Void"] ∧
      Shelf.context.ofRef (roomAt 0 3000000) ["Shelf", "Label"] (Shelf.ref "UNION" "Item") =
        Shelf.context.ofRef (roomAt 0 3) ["Shelf", "Label"] (Shelf.ref "UNION" "Item")) := by
  have hacyclic : ¬ Shelf.context.schema.FirstMembersCycle := by decide
  obtain ⟨hgrow, _, _⟩ := defaults_grow_and_saturate Shelf.context hacyclic (Shelf.ref "OBJECT" "Shelf")
  obtain ⟨_, _, hsaturate⟩ := defaults_grow_and_saturate Shelf.context hacyclic (Shelf.ref "UNION" "Item")
  have hsmall : Shelf.context.ofRef (roomAt 1 3) ["Lid"] (Shelf.ref "OBJECT" "Shelf") = some shelfDefault := rfl
  have hlarge : Shelf.context.ofRef (roomAt 0 3) [] (Shelf.ref "OBJECT" "Shelf") = some roomyShelf := rfl
  have hfresh : Shelf.context.schema.freshNames ["Shelf", "Label"] = ["Box", "Lid", "Void"] := by decide
  obtain ⟨v, v', hv, hv', hbelow⟩ := hgrow ["Lid"] [] 1 0 3 3 (List.nil_subset _) (by decide)
  cases hsmall.symm.trans hv
  cases hlarge.symm.trans hv'
  refine ⟨hacyclic, ⟨hsmall, hlarge, hbelow⟩, hfresh, hsaturate _ 0 3 3000000 ?_ (by decide)⟩
  rw [hfresh]
  decide

end MockContext

end GraphQLCache
