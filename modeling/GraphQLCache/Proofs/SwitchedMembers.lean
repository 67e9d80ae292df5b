import GraphQLCache.Proofs.DefaultBounds
import GraphQLCache.Proofs.Forms

/-!
# `Proofs.SwitchedMembers` — two ways to an object of a type

An object of a type is made as the default of the type, or by switching a field to it. The default makes its
fields one level below an object whose type counts as visited; the switch makes each of them from a fresh
start. So the default of a field is that of the switched value with some objects cut, and the objects that
are cut are those of the type itself: the two come out equal exactly where no object of the type occurs in a
field of the switched value (`default_is_switched_but_for_reentry`).

A type without a name is no type to switch to (`nameless_not_switched`).
-/

namespace GraphQLCache

/-- A tagged object that occurs in a value lies on a path of it. -/
theorem Json.OccursIn.exists_path {entries : Entries} {name : String} {j : Json}
    (h : OccursIn (.obj entries) j) (htag : typename? entries = some name) :
    ∃ path, Json.ObjectsOn j path ∧ entries ∈ path := by
  induction h with
  | here =>
      cases entries with
      | nil => cases htag
      | cons e rest => exact ⟨[e :: rest], .member List.mem_cons_self (.stop _), List.mem_singleton_self _⟩
  | member mem _ ih =>
      obtain ⟨path, hpath, hin⟩ := ih
      exact ⟨_ :: path, .member mem hpath, List.mem_cons_of_mem _ hin⟩
  | item mem _ ih =>
      obtain ⟨path, hpath, hin⟩ := ih
      exact ⟨path, .item mem hpath, hin⟩

namespace MockContext

variable {c : MockContext} {room : Nat} {visited visited' : List String} {t : NamedType} {fields : List Field}
  {ref : TypeRef} {value : Json}

/-! ## Visited types that are not met -/

/-- No object of a visited type occurs in a default. -/
theorem not_visited_of_occurs (h : c.ofRef room visited ref = some value) {entries : Entries} {name : String}
    (hocc : Json.OccursIn (.obj entries) value) (htag : typename? entries = some name) : name ∉ visited := by
  have hunfolds : Unfolds c visited 0 room (.ref ref) value := by
    rw [unfolds_iff, show roomAt 0 (room : Int) = room by unfold roomAt; omega]
    exact h
  obtain ⟨path, hpath, hin⟩ := hocc.exists_path htag
  obtain ⟨names, htypes, _, hnew, _⟩ := hunfolds.path_fits hpath
  have hmem : some name ∈ names.map some := by
    rw [← htypes, ← htag]
    exact List.mem_map.mpr ⟨entries, hin, rfl⟩
  obtain ⟨name', hname', heq⟩ := List.mem_map.mp hmem
  cases heq
  exact hnew name hname'

/-- No object in a value is tagged with a name that is in the first list and not in the second. -/
def Untagged (visited visited' : List String) (value : Json) : Prop :=
  ∀ entries name, Json.OccursIn (.obj entries) value → typename? entries = some name →
    name ∈ visited → name ∈ visited'

/-- What is untagged in an object is untagged in its members, where its own type is in both lists. -/
theorem Untagged.member {name key : String} {members : Entries}
    (h : Untagged visited visited' (.obj ((typenameKey, .str name) :: members)))
    (hmem : (key, value) ∈ members) : Untagged (name :: visited) (name :: visited') value := by
  intro entries tag hocc htag hin
  rcases List.mem_cons.mp hin with rfl | hvisited
  · exact List.mem_cons_self
  · exact List.mem_cons_of_mem _
      (h entries tag (.member (List.mem_cons_of_mem _ hmem) hocc) htag hvisited)

/-- Where two runs both give a value and the second value is untagged, the values are equal. -/
def EqualWhereUntagged (visited visited' : List String) (o o' : Option Json) : Prop :=
  ∀ v v', o = some v → o' = some v' → Untagged visited visited' v' → v = v'

theorem EqualWhereUntagged.refl (o : Option Json) : EqualWhereUntagged visited visited' o o := by
  intro v v' hv hv' _
  exact Option.some.inj (hv.symm.trans hv')

/-- One record. With the same room, an object that only the second run makes has a tag that tells the runs
    apart. -/
theorem equalWhereUntagged_record (hvisited : visited' ⊆ visited)
    (below : ∀ r < room, ∀ visited visited' ref, visited' ⊆ visited →
      EqualWhereUntagged visited visited' (c.ofRef r visited ref) (c.ofRef r visited' ref))
    (record : t.body.recordFields? = some fields) :
    EqualWhereUntagged visited visited' (c.ofType room visited t) (c.ofType room visited' t) := by
  intro v v' hv hv' huntagged
  rcases two_records_cases (Nat.le_refl room) hvisited record hv hv' with
    rfl | ⟨_, hcut, hfresh', values', rfl⟩ | ⟨r, r', values, values', rfl, hroom, rfl, rfl, hvalues, hvalues'⟩
  · rfl
  · have hseen : t.name ∈ visited := hcut.resolve_right (Nat.lt_irrefl room)
    -- the object of the second run is itself tagged with a name that only the first run has visited
    rw [tagged_fieldEntries] at huntagged
    exact absurd (huntagged _ t.name .here (typename?_tagged _ _) hseen) hfresh'
  · cases hroom
    rw [tagged_fieldEntries] at huntagged
    rw [tagged_fieldEntries, tagged_fieldEntries,
      Entries.ext_of_keys (keys_ofPairs_fieldEntries fields values values')]
    intro key v w hv hw
    obtain ⟨f, hf, rfl, rfl⟩ := exists_field_of_mem_both hv hw
    exact below r (Nat.lt_succ_self r) _ _ f.type (List.cons_subset_cons _ hvisited) _ _ (hvalues f hf)
      (hvalues' f hf) (huntagged.member hw)

/-- **Visited types that are not met make no difference.** The induction is on the room. -/
theorem equal_of_untagged (ref : TypeRef) (hvisited : visited' ⊆ visited) :
    EqualWhereUntagged visited visited' (c.ofRef room visited ref) (c.ofRef room visited' ref) := by
  induction room using Nat.strong_induction_on generalizing visited visited' ref with
  | _ room ih =>
      refine rel_ofRef EqualWhereUntagged.refl (fun x _ fields record => ?_) ref
      exact equalWhereUntagged_record hvisited
        (fun r hlt visited visited' ref hsub => ih r hlt ref hsub) record

/-! ## Made and switched -/

/-- **The default of a type is what a field is switched to, but for the re-entry into the type.** In a schema
    with its types under their own names and without a cycle of first members, take an object type or input
    object type with a name. Its default with one level more and the value of a switch to it are both objects
    with its tag and with the same keys after it. Under each key the default has the switched value with some
    objects cut, and it has the same values throughout exactly where no object of the type occurs in a
    value of the switch. -/
theorem default_is_switched_but_for_reentry (c : MockContext) (own : c.schema.OwnNames)
    (hacyclic : ¬ c.schema.FirstMembersCycle) (ht : t ∈ c.schema.types.values)
    (record : t.body.recordFields? = some fields) (hname : t.name ≠ "") (maxDepth : Nat) :
    ∃ made switched : Entries,
      c.ofType (roomAt 0 (maxDepth + 1)) [] t = some (.obj ((typenameKey, .str t.name) :: made)) ∧
      c.switchMember maxDepth t.name = some (.obj ((typenameKey, .str t.name) :: switched)) ∧
      Entries.keys made = Entries.keys switched ∧
      (∀ key v w, (key, v) ∈ made → (key, w) ∈ switched → v.IsCutOf w) ∧
      (made = switched ↔ ∀ key w entries, (key, w) ∈ switched → Json.OccursIn (.obj entries) w →
        typename? entries ≠ some t.name) := by
  have hget : c.schema.get? t.name = some t := own.get?_of_mem ht hname
  have hfields : c.schema.fieldsOf t.name = fields := by
    rw [Schema.fieldsOf_of_get? hget, TypeBody.fields_of_recordFields record]
  have hroom : roomAt 0 (maxDepth + 1) = roomAt 0 maxDepth + 1 := by unfold roomAt; omega
  obtain ⟨made, hmade, hmakes⟩ := exists_fieldEntries hacyclic (roomAt 0 maxDepth) [t.name] fields
  obtain ⟨switched, hswitched, hswitches⟩ := exists_form hacyclic maxDepth fields
  -- field by field both runs have the same room, and the type itself is visited in the first alone
  have hcut : ∀ f ∈ ownFields fields, (made f).IsCutOf (switched f) := fun f hf =>
    cut_of_less f.type (Nat.le_refl _) (List.nil_subset _) _ _ (hmakes f hf) (hswitches f hf)
  have hequal : ∀ f ∈ ownFields fields, Untagged [t.name] [] (switched f) → made f = switched f :=
    fun f hf => equal_of_untagged f.type (List.nil_subset _) _ _ (hmakes f hf) (hswitches f hf)
  refine ⟨Entries.ofPairs (fieldEntries fields made), Entries.ofPairs (fieldEntries fields switched),
    ?default, ?switch, keys_ofPairs_fieldEntries fields made switched, ?cut, ?same, ?untagged⟩
  case default =>
    rw [hroom, ofType_of_record record (by simp), hmade, Option.map_some, tagged_fieldEntries]
  case switch =>
    rw [switchMember, if_neg fun h => hname (String.isEmpty_iff.mp h), hfields, hswitched]
    rfl
  case cut =>
    intro key v w hv hw
    obtain ⟨f, hf, rfl, rfl⟩ := exists_field_of_mem_both hv hw
    exact hcut f hf
  case same =>
    intro heq key w entries hw hocc htag
    rw [← heq] at hw
    obtain ⟨f, hf, _, rfl⟩ := fieldNamed_of_mem_fieldEntries hw
    exact not_visited_of_occurs (hmakes f hf) hocc htag (List.mem_singleton_self _)
  case untagged =>
    intro huntagged
    refine Entries.ext_of_keys (keys_ofPairs_fieldEntries fields made switched) fun key v w hv hw => ?_
    obtain ⟨f, hf, rfl, rfl⟩ := exists_field_of_mem_both hv hw
    refine hequal f hf fun entries name hocc htag hvisited => ?_
    rw [List.mem_singleton.mp hvisited] at htag
    exact absurd htag (huntagged key _ entries hw hocc)

/-- The boxes that are kept on shelves. -/
def box : NamedType := ⟨"Box", none, .object (Shelf.schema.fieldsOf "Box") []⟩

/-- A box by default: there is no box in it. -/
def boxMade : Entries :=
  [("id", .str ""), ("inner", .null), ("lid", .obj [("__typename", .str "Lid"), ("gap", .null)])]

/-- A box to which an item is switched: there is another one in it. -/
def boxSwitched : Entries :=
  [("id", .str ""),
    ("inner", .obj [("__typename", .str "Box"), ("id", .str ""), ("inner", .null), ("lid", .null)]),
    ("lid", .obj [("__typename", .str "Lid"), ("gap", .null)])]

/-- A box by default is the switched one but for the inner box, which makes the two differ. -/
theorem boxMade_is_switched_but_for_reentry :
    Shelf.schema.OwnNames ∧ ¬ Shelf.schema.FirstMembersCycle ∧ box ∈ Shelf.schema.types.values ∧
    box.body.recordFields? = some (Shelf.schema.fieldsOf "Box") ∧ box.name ≠ "" ∧
    Shelf.context.ofType (roomAt 0 2) [] box = some (.obj (("__typename", .str "Box") :: boxMade)) ∧
    Shelf.context.switchMember 1 "Box" = some (.obj (("__typename", .str "Box") :: boxSwitched)) ∧
    Entries.keys boxMade = Entries.keys boxSwitched ∧
    (∀ key v w, (key, v) ∈ boxMade → (key, w) ∈ boxSwitched → v.IsCutOf w) ∧
    boxMade ≠ boxSwitched := by
  have hacyclic : ¬ Shelf.schema.FirstMembersCycle := by decide
  have hmem : box ∈ Shelf.schema.types.values := by decide
  have hrecord : box.body.recordFields? = some (Shelf.schema.fieldsOf "Box") := rfl
  have hname : box.name ≠ "" := by decide
  have hdefault : Shelf.context.ofType (roomAt 0 2) [] box =
      some (.obj (("__typename", .str "Box") :: boxMade)) := rfl
  have hswitch : Shelf.context.switchMember 1 "Box" =
      some (.obj (("__typename", .str "Box") :: boxSwitched)) := rfl
  obtain ⟨made, switched, hmade, hswitched, hkeys, hcut, hsame⟩ :=
    default_is_switched_but_for_reentry Shelf.context Shelf.regular.ownNames hacyclic hmem hrecord hname 1
  cases hdefault.symm.trans hmade
  cases hswitch.symm.trans hswitched
  refine ⟨Shelf.regular.ownNames, hacyclic, hmem, hrecord, hname, hdefault, hswitch, hkeys, hcut, fun heq => ?_⟩
  exact hsame.mp heq "inner" _ _ (List.mem_cons_of_mem _ List.mem_cons_self) .here rfl

/-! ## Types without a name -/

/-- A type with neither a name nor fields. -/
def nameless : NamedType := ⟨"", none, .object [] []⟩

/-- A schema with nothing but this type. -/
def namelessSchema : Schema := { Schema.empty with types := .ofPairs [("", nameless)] }

/-- **A type without a name is made but not switched to.** Ingestion lets such a type through. Its default is an
    object, while a switch to the empty name means no type and gives null. -/
theorem nameless_not_switched :
    (∃ raw, ingest raw = .ok (namelessSchema, [])) ∧ namelessSchema.OwnNames ∧
    ¬ namelessSchema.FirstMembersCycle ∧ nameless ∈ namelessSchema.types.values ∧
    nameless.body.recordFields? = some [] ∧
    MockContext.ofType ⟨namelessSchema, .ofMicroseconds 0⟩ (roomAt 0 (0 + 1)) [] nameless =
      some (.obj [("__typename", .str nameless.name)]) ∧
    MockContext.switchMember ⟨namelessSchema, .ofMicroseconds 0⟩ 0 nameless.name = some .null := by
  refine ⟨⟨.obj [("__schema", .obj [("types", .arr [.obj [("kind", .str "OBJECT"), ("name", .str ""),
    ("fields", .arr [])]])])], rfl⟩, by decide, by decide, by decide, rfl, rfl, rfl⟩

end MockContext

end GraphQLCache
