import GraphQLCache.Mock.Form
import GraphQLCache.Proofs.Builder
import GraphQLCache.Proofs.Termination

/-!
# `Proofs.Forms` — the trees that defaults build

An object in a default is a record of the type on which its declared type lands (`recordAt_of_ofType`), and so
is the sample that a field shows, in a list as well (`Filled.ofType_eq`). `MockContext.Filling` is what all
trees made of defaults have in common — records, forms and forms with an item added to a list: under their
own keys they hold what is filled in for the field of that name.
-/

namespace GraphQLCache

/-! ## The objects of a default -/

namespace MockContext

variable {c : MockContext} {room : Nat} {visited : List String} {t x : NamedType} {fields : List Field}
  {sample entries : Entries} {type : TypeRef} {value : Json}

/-- `sample` is the default of `x` with `room` levels left below it: a record of `x`, which was not visited,
    with the defaults of its fields. -/
structure RecordAt (c : MockContext) (room : Nat) (visited : List String) (x : NamedType)
    (fields : List Field) (sample : Entries) : Prop where
  record : x.body.recordFields? = some fields
  fresh : x.name ∉ visited
  values : ∃ value : Field → Json,
    sample = (typenameKey, .str x.name) :: Entries.ofPairs (fieldEntries fields value) ∧
      ∀ f ∈ ownFields fields, c.ofRef room (x.name :: visited) f.type = some (value f)

/-- The object that a record comes out as. -/
theorem recordAt_of_ofType_record (h : x.body.recordFields? = some fields)
    (hobj : c.ofType room visited x = some (.obj sample)) :
    ∃ room', room = room' + 1 ∧ c.RecordAt room' visited x fields sample := by
  rcases ofType_record_cases h hobj with
    ⟨_, hnull⟩ | ⟨_, hnull⟩ | ⟨room', values, hroom, fresh, hmade, hvalues⟩
  · cases hnull
  · cases hnull
  · rw [tagged_fieldEntries] at hmade
    cases hmade
    exact ⟨room', hroom, h, fresh, values, rfl, hvalues⟩

/-- **A default that is an object is a record of the type on which its type lands.** -/
theorem recordAt_of_ofType (hobj : c.ofType room visited t = some (.obj sample)) :
    ∃ x fields room', c.schema.landing t = .concrete x ∧ room = room' + 1 ∧
      c.RecordAt room' visited x fields sample := by
  have hend : c.schema.landing t ≠ .endless := by
    intro hend
    cases (ofType_of_endless hend).symm.trans hobj
  refine Schema.landing_induction (motive := fun t => c.ofType room visited t = some (.obj sample) →
    ∃ x fields room', c.schema.landing t = .concrete x ∧ room = room' + 1 ∧
      c.RecordAt room' visited x fields sample) ?_ ?_ ?_ t hend hobj
  · intro t hconcrete hobj
    rcases TypeBody.concrete_cases hconcrete with hb | ⟨values, hb⟩ | ⟨fields, hb⟩
    · rw [ofType_of_scalar hb] at hobj
      exact absurd (Option.some.inj hobj) (scalarDefault_ne_obj _ _ _)
    · cases (ofType_of_enum hb).symm.trans hobj
    · obtain ⟨room', hroom, hrecord⟩ := recordAt_of_ofType_record hb hobj
      exact ⟨t, fields, room', Schema.landing_of_concrete hconcrete, hroom, hrecord⟩
  · intro t habs hnone hobj
    cases (ofType_of_noMember habs hnone).symm.trans hobj
  · intro t next hm ih hobj
    rw [ofType_of_member hm] at hobj
    rw [Schema.landing_of_member hm]
    exact ih hobj

/-- A reference whose default is an object is no list and names a type with that default. -/
theorem ofType_of_ofRef_obj {ref : TypeRef} (hwf : ref.wellFormed = true)
    (hobj : c.ofRef room visited ref = some (.obj sample)) :
    ref.isList = false ∧
      ∃ t, c.schema.get? ref.baseName = some t ∧ c.ofType room visited t = some (.obj sample) := by
  have hbase := TypeRef.baseName_nullable hwf
  have hisList := TypeRef.isList_nullable ref
  cases hlist : ref.isList with
  | true => cases (ofRef_of_list (hisList.trans hlist)).symm.trans hobj
  | false =>
      cases hget : c.schema.get? ref.baseName with
      | none =>
          rw [ofRef_of_unknown (hisList.trans hlist) (hbase.symm ▸ hget)] at hobj
          exact absurd (Option.some.inj hobj) (scalarDefault_ne_obj _ _ _)
      | some t =>
          rw [ofRef_of_known (hisList.trans hlist) (hbase.symm ▸ hget)] at hobj
          exact ⟨rfl, t, rfl, hobj⟩

/-- `value` is what a tree holds under a field of a type: its default, or a list of one default item. -/
inductive Filled (c : MockContext) (room : Nat) (visited : List String) (type : TypeRef) : Json → Prop
  | default {v : Json} (made : c.ofRef room visited type = some v) : Filled c room visited type v
  | item {ref : TypeRef} {v : Json} (isList : type.isList = true) (ofList : type.element? = some ref)
      (made : c.ofRef room visited ref = some v) : Filled c room visited type (.arr [v])

/-- **The sample of a field is the default of the type that its reference names**, also inside a list. -/
theorem Filled.ofType_eq (hwf : type.wellFormed = true) (h : c.Filled room visited type value)
    (hsample : sampleObject? type value = some sample) :
    ∃ t, c.schema.get? type.baseName = some t ∧ c.ofType room visited t = some (.obj sample) := by
  cases h with
  | default made =>
      cases hlist : type.isList with
      | true =>
          -- a list starts empty, so it shows nothing
          rw [ofRef_of_list ((TypeRef.isList_nullable type).trans hlist)] at made
          cases made
          rw [sampleObject?, hlist] at hsample
          exact absurd hsample (by simp [Json.arr?])
      | false =>
          rw [sampleObject?, hlist] at hsample
          rw [Json.eq_obj_of_obj? hsample] at made
          exact (ofType_of_ofRef_obj hwf made).2
  | @item ref v isList ofList made =>
      obtain ⟨ref', href, hwf', hbase⟩ := TypeRef.element_of_isList hwf isList
      cases ofList.symm.trans href
      have hobj : v.obj? = some sample := by
        rw [sampleObject?, isList] at hsample
        exact hsample
      rw [Json.eq_obj_of_obj? hobj] at made
      rw [← hbase]
      exact (ofType_of_ofRef_obj hwf' made).2

/-! ## The trees that defaults build -/

/-- What a tree over `fields` holds under its own keys: accepted names, each with what is filled in for the
    last declaration of it. -/
def Filling (c : MockContext) (room : Nat) (visited : List String) (fields : List Field)
    (entries : Entries) : Prop :=
  ∀ e ∈ ownEntries entries, isAcceptedName e.1 = true ∧
    ∃ f, Schema.fieldNamed? fields e.1 = some f ∧ f.type.wellFormed = true ∧
      c.Filled room visited f.type e.2

/-- The tag of an object does not count. -/
theorem Filling.tagged (h : c.Filling room visited fields entries) (tag : Json) :
    c.Filling room visited fields ((typenameKey, tag) :: entries) := by
  intro e he
  obtain ⟨hmem, hkey⟩ := mem_ownEntries.mp he
  rcases List.mem_cons.mp hmem with rfl | hrest
  · exact absurd rfl hkey
  · exact h e (mem_ownEntries.mpr ⟨hrest, hkey⟩)

/-- The defaults of the fields of a type fill a tree over these fields. -/
theorem filling_fieldEntries (regular : c.schema.Regular) (ht : t ∈ c.schema.types.values)
    (hfields : t.body.fields = fields) {values : Field → Json}
    (hvalues : ∀ f ∈ ownFields fields, c.ofRef room visited f.type = some (values f)) :
    c.Filling room visited fields (Entries.ofPairs (fieldEntries fields values)) := by
  subst hfields
  intro e he
  obtain ⟨f, hf, hnamed, hvalue⟩ := fieldNamed_of_mem_fieldEntries (mem_ownEntries.mp he).1
  have hmem := (mem_ownFields.mp hf).1
  have hname : f.name = e.1 := Schema.name_of_fieldNamed? hnamed
  refine ⟨hname ▸ regular.accepted t ht f hmem, f, hnamed, regular.wellFormed t ht f hmem, ?_⟩
  rw [hvalue]
  exact .default (hvalues f hf)

/-- One more value that is filled in for a field keeps a tree filled. -/
theorem Filling.insert {f : Field} (h : c.Filling room visited fields entries)
    (accepted : isAcceptedName f.name = true) (hnamed : Schema.fieldNamed? fields f.name = some f)
    (hwf : f.type.wellFormed = true) (hvalue : c.Filled room visited f.type value) :
    c.Filling room visited fields (Entries.insert entries f.name value) := by
  intro e he
  obtain ⟨hmem, hkey⟩ := mem_ownEntries.mp he
  rcases Entries.mem_insert hmem with rfl | hold
  · exact ⟨accepted, f, hnamed, hwf, hvalue⟩
  · exact h e (mem_ownEntries.mpr ⟨hold, hkey⟩)

/-- A record fills a tree over its fields, one level of room below. -/
theorem RecordAt.filling (regular : c.schema.Regular) (hx : c.schema.get? x.name = some x)
    (h : c.RecordAt room visited x fields sample) : c.Filling room (x.name :: visited) fields sample := by
  obtain ⟨values, hsample, hvalues⟩ := h.values
  rw [hsample]
  exact (filling_fieldEntries regular (Schema.mem_values_of_get? hx)
    (TypeBody.fields_of_recordFields h.record) hvalues).tagged _

/-- The tag of a record names its type. -/
theorem RecordAt.typename (h : c.RecordAt room visited x fields sample) : typename? sample = some x.name := by
  obtain ⟨values, hsample, _⟩ := h.values
  rw [hsample, typename?_tagged]

/-- An object of the fields of a type does not look like a reference. -/
theorem noReference_fieldEntries (regular : c.schema.Regular) (ht : t ∈ c.schema.types.values)
    (hfields : t.body.fields = fields) (tag : Json) (values : Field → Json) :
    Entries.has ((typenameKey, tag) :: Entries.ofPairs (fieldEntries fields values)) refKey = false := by
  subst hfields
  rw [Entries.has, List.any_eq_false]
  intro e he hkey
  have hkey : e.1 = refKey := eq_of_beq hkey
  rcases List.mem_cons.mp he with rfl | hmem
  · have hne : typenameKey ≠ refKey := by decide
    exact hne hkey
  · obtain ⟨f, hf, hnamed, _⟩ := fieldNamed_of_mem_fieldEntries hmem
    refine regular.noReference t ht f (mem_ownFields.mp hf).1 ?_
    rw [Schema.name_of_fieldNamed? hnamed, hkey]

/-- A record does not look like a reference. -/
theorem RecordAt.noReference (regular : c.schema.Regular) (hx : c.schema.get? x.name = some x)
    (h : c.RecordAt room visited x fields sample) : Entries.has sample refKey = false := by
  obtain ⟨values, hsample, _⟩ := h.values
  rw [hsample]
  exact noReference_fieldEntries regular (Schema.mem_values_of_get? hx)
    (TypeBody.fields_of_recordFields h.record) _ _

/-! ## Forms -/

/-- Without a cycle of first members all fields have their defaults together. -/
theorem exists_fieldEntries (hacyclic : ¬ c.schema.FirstMembersCycle) (room : Nat) (visited : List String)
    (fields : List Field) :
    ∃ values : Field → Json, fieldsBy (c.ofRef room visited) fields = some (fieldEntries fields values) ∧
      ∀ f ∈ ownFields fields, c.ofRef room visited f.type = some (values f) := by
  obtain ⟨pairs, hpairs⟩ :=
    Option.isSome_iff_exists.mp (fieldsBy_isSome (ofRef_isSome hacyclic room visited) fields)
  obtain ⟨values, hentries, hvalues⟩ := fieldsBy_eq_some hpairs
  exact ⟨values, by rw [hpairs, hentries], hvalues⟩

/-- **Without a cycle of first members every form comes about**, with one default per field. -/
theorem exists_form (hacyclic : ¬ c.schema.FirstMembersCycle) (maxDepth : Int) (fields : List Field) :
    ∃ values : Field → Json, c.formOf maxDepth fields = some (Entries.ofPairs (fieldEntries fields values)) ∧
      ∀ f ∈ ownFields fields, c.ofRef (roomAt 0 maxDepth) [] f.type = some (values f) := by
  obtain ⟨values, hentries, hvalues⟩ := exists_fieldEntries hacyclic (roomAt 0 maxDepth) [] fields
  exact ⟨values, by rw [formOf, hentries]; rfl, hvalues⟩

/-- Without a cycle of first members a record type has a record wherever there is room. -/
theorem exists_record (hacyclic : ¬ c.schema.FirstMembersCycle)
    (hfields : t.body.recordFields? = some fields) (visited : List String) (fresh : t.name ∉ visited)
    (room : Nat) :
    ∃ sample, c.ofType (room + 1) visited t = some (.obj sample) ∧
      c.RecordAt room visited t fields sample := by
  obtain ⟨values, hentries, hvalues⟩ := exists_fieldEntries hacyclic room (t.name :: visited) fields
  refine ⟨_, ?_, hfields, fresh, values, rfl, hvalues⟩
  rw [ofType_of_record hfields fresh, hentries, Option.map_some, tagged_fieldEntries]

/-- A list grows from nothing by one item, which fills its field. -/
theorem exists_appendItem (hacyclic : ¬ c.schema.FirstMembersCycle) (room : Nat) (visited : List String)
    (hwf : type.wellFormed = true) (hlist : type.isList = true) :
    ∃ item, c.appendItem room visited [] type = some [item] ∧ c.Filled room visited type (.arr [item]) := by
  obtain ⟨element, helement, _⟩ := TypeRef.element_of_isList hwf hlist
  obtain ⟨item, hitem⟩ := Option.isSome_iff_exists.mp (ofRef_isSome hacyclic room visited element)
  refine ⟨item, ?_, .item hlist helement hitem⟩
  rw [appendItem, listItem, helement, Option.getD_some, hitem]
  rfl

end MockContext

end GraphQLCache
