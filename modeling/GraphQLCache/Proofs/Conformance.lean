import GraphQLCache.Proofs.Builder
import GraphQLCache.Proofs.Regular
import GraphQLCache.Proofs.Termination

/-!
# `Proofs.Conformance` — what every default looks like

`MockContext.Conforms` types a value against a reference or a named type, without visited types and without a
depth. Defaults conform (`Unfolds.conforms`); in a conforming value lists are empty and every object is a
tagged record of its type (`Conforms.items_eq_nil`, `Conforms.isRecordOf`). What bounds a default is a fact
about its paths, not about its type: the names of the objects on a path are distinct, new, and no more than
the room that depth and bound leave (`Unfolds.path_fits`). All three follow the unfolding of the default.
-/

namespace GraphQLCache

/-! ## Parts and paths of a value -/

namespace Json

/-- `sub` occurs in a value: it is the value, or it occurs in a member or in an item of it. -/
inductive OccursIn (sub : Json) : Json → Prop
  | here : OccursIn sub sub
  | member {key value} {entries : Entries} (mem : (key, value) ∈ entries) (within : OccursIn sub value) :
      OccursIn sub (.obj entries)
  | item {value items} (mem : value ∈ items) (within : OccursIn sub value) : OccursIn sub (.arr items)

/-- The objects on a path from a value inwards, outermost first. A path may stop anywhere, so the paths down
    to a leaf are among them. -/
inductive ObjectsOn : Json → List Entries → Prop
  | stop (j : Json) : ObjectsOn j []
  | member {key value} {entries : Entries} {path} (mem : (key, value) ∈ entries)
      (within : ObjectsOn value path) : ObjectsOn (.obj entries) (entries :: path)
  | item {value items path} (mem : value ∈ items) (within : ObjectsOn value path) :
      ObjectsOn (.arr items) path

theorem OccursIn.eq_of_isFlat {sub j : Json} (h : OccursIn sub j) (hflat : j.isFlat = true) : sub = j := by
  cases h with
  | here => rfl
  | member mem _ => exact absurd hflat Bool.noConfusion
  | @item value items mem _ =>
      cases items with
      | nil => exact absurd mem (by simp)
      | cons _ _ => exact absurd hflat Bool.noConfusion

/-- In a value with no parts no list has items. -/
theorem OccursIn.items_eq_nil_of_isFlat {items : List Json} {j : Json} (h : OccursIn (.arr items) j)
    (hflat : j.isFlat = true) : items = [] := by
  rw [← h.eq_of_isFlat hflat] at hflat
  cases items with
  | nil => rfl
  | cons _ _ => exact absurd hflat Bool.noConfusion

/-- A value with no parts holds no object. -/
theorem OccursIn.not_obj_of_isFlat {entries : Entries} {j : Json} (hflat : j.isFlat = true) :
    ¬ OccursIn (.obj entries) j := by
  intro h
  rw [← h.eq_of_isFlat hflat] at hflat
  exact absurd hflat Bool.noConfusion

/-- What occurs in a tagged object is the object, its tag, or a part of one of the other members. -/
theorem OccursIn.tagged_cases {sub : Json} {name : String} {members : Entries}
    (h : OccursIn sub (.obj ((typenameKey, .str name) :: members))) :
    sub = .obj ((typenameKey, .str name) :: members) ∨ sub = .str name ∨
      ∃ key value, (key, value) ∈ members ∧ OccursIn sub value := by
  cases h with
  | here => exact Or.inl rfl
  | @member key value _ mem within =>
      rcases List.mem_cons.mp mem with heq | hmem
      · cases heq
        exact Or.inr (Or.inl (within.eq_of_isFlat rfl))
      · exact Or.inr (Or.inr ⟨key, value, hmem, within⟩)

theorem ObjectsOn.eq_nil_of_isFlat {j : Json} {path : List Entries} (h : ObjectsOn j path)
    (hflat : j.isFlat = true) : path = [] := by
  cases h with
  | stop => rfl
  | member mem _ => exact absurd hflat Bool.noConfusion
  | @item value items _ mem _ =>
      cases items with
      | nil => exact absurd mem (by simp)
      | cons _ _ => exact absurd hflat Bool.noConfusion

end Json

namespace MockContext

/-! ## Conforming values -/

/-- **Conformance.** A list is empty, a leaf is the default of its type, an object is tagged with its type and
    has a conforming value under each own field of it, and an object that was cut is null. An interface or a
    union has the values of its first member. -/
inductive Conforms (c : MockContext) : Demand → Json → Prop
  | list {ref} (isList : ref.nullable.isList = true) : Conforms c (.ref ref) (.arr [])
  | unknown {ref} (noList : ref.nullable.isList = false)
      (missing : c.schema.get? ref.nullable.baseName = none) :
      Conforms c (.ref ref) (scalarDefault c.clock ref.nullable.baseName)
  | known {ref t value} (noList : ref.nullable.isList = false)
      (found : c.schema.get? ref.nullable.baseName = some t) (within : Conforms c (.type t) value) :
      Conforms c (.ref ref) value
  | scalar {t} (body : t.body = .scalar) : Conforms c (.type t) (scalarDefault c.clock t.name)
  | enum {t values} (body : t.body = .enum values) :
      Conforms c (.type t) (.str ((values.head?.map (·.name)).getD ""))
  | cut {t fields} (record : t.body.recordFields? = some fields) : Conforms c (.type t) .null
  | object {t fields} {members : Entries} (record : t.body.recordFields? = some fields)
      (keys : Entries.keys members = ((ownFields fields).map (·.name)).eraseDups)
      (values : ∀ key value f, (key, value) ∈ members → Schema.fieldNamed? fields key = some f →
        Conforms c (.ref f.type) value) :
      Conforms c (.type t) (.obj ((typenameKey, .str t.name) :: members))
  | noMember {t} (isAbstract : t.body.isAbstract = true) (none : c.schema.firstMember? t = none) :
      Conforms c (.type t) .null
  | member {t next value} (first : c.schema.FirstMember t next) (within : Conforms c (.type next) value) :
      Conforms c (.type t) value

/-- `entries` are a **record of `t`**: the name of `t` under `__typename` comes first, then each own field of
    `t` once, in order of first declaration, with a value that conforms to its last declaration. -/
def IsRecordOf (c : MockContext) (t : NamedType) (entries : Entries) : Prop :=
  ∃ fields members, t.body.recordFields? = some fields ∧
    entries = (typenameKey, .str t.name) :: members ∧
    Entries.keys members = ((ownFields fields).map (·.name)).eraseDups ∧
    ∀ key value, (key, value) ∈ members →
      ∃ f, Schema.fieldNamed? fields key = some f ∧ c.Conforms (.ref f.type) value

variable {c : MockContext} {visited : List String} {depth maxDepth : Int} {demand : Demand} {value : Json}

/-- Conformance sees through a non-null wrapper. -/
theorem Conforms.nonNull {name : Option String} {inner : TypeRef} (h : c.Conforms (.ref inner) value) :
    c.Conforms (.ref (.wrap .nonNull name inner)) value := by
  -- the wrapper and `inner` have the same reference left without non-null wrappers
  cases h with
  | list isList => exact .list isList
  | unknown noList missing =>
      show c.Conforms _ (scalarDefault c.clock (TypeRef.wrap .nonNull name inner).nullable.baseName)
      exact .unknown noList missing
  | known noList found within =>
      have hlist : (TypeRef.wrap .nonNull name inner).nullable.isList = false := noList
      exact .known hlist found within

/-- **Every default conforms** to what was asked for. -/
theorem Unfolds.conforms (h : Unfolds c visited depth maxDepth demand value) : c.Conforms demand value := by
  induction h with
  | nonNull _ ih => exact ih.nonNull
  | list plain isList => exact .list (by rw [TypeRef.nullable_of_plain plain]; exact isList)
  | @unknown visited depth maxDepth ref plain noList missing =>
      have hn := TypeRef.nullable_of_plain plain
      have hconforms : c.Conforms (.ref ref) (scalarDefault c.clock ref.nullable.baseName) :=
        .unknown (by rw [hn]; exact noList) (by rw [hn]; exact missing)
      rw [hn] at hconforms
      exact hconforms
  | known plain noList found _ ih =>
      have hn := TypeRef.nullable_of_plain plain
      exact .known (by rw [hn]; exact noList) (by rw [hn]; exact found) ih
  | scalar body => exact .scalar body
  | enum body => exact .enum body
  | seen record _ => exact .cut record
  | deep record _ => exact .cut record
  | object record _ _ _ ih =>
      rw [tagged_fieldEntries]
      refine .object record ?_ ?_
      · rw [Entries.keys_ofPairs, keys_fieldEntries]
      · intro key v f hmem hnamed
        obtain ⟨f', hf', hnamed', hv⟩ := fieldNamed_of_mem_fieldEntries hmem
        cases hnamed.symm.trans hnamed'
        rw [hv]
        exact ih f hf'
  | noMember isAbstract none => exact .noMember isAbstract none
  | member first _ ih => exact .member first ih

/-! ## Parts of conforming values -/

/-- A key of a record is the name of one of its fields. -/
theorem exists_fieldNamed {fields : List Field} {members : Entries} {key : String} {v : Json}
    (keys : Entries.keys members = ((ownFields fields).map (·.name)).eraseDups)
    (hmem : (key, v) ∈ members) : ∃ f, Schema.fieldNamed? fields key = some f := by
  have hkey := Entries.mem_keys_of_mem hmem
  rw [keys, List.mem_eraseDups] at hkey
  obtain ⟨f, hf, hname⟩ := List.mem_map.mp hkey
  have hsome : (Schema.fieldNamed? fields key).isSome := by
    rw [Schema.fieldNamed?, List.find?_isSome]
    exact ⟨f, List.mem_reverse.mpr (mem_ownFields.mp hf).1, decide_eq_true hname⟩
  exact Option.isSome_iff_exists.mp hsome

/-- **Every list in a conforming value is empty.** -/
theorem Conforms.items_eq_nil (h : c.Conforms demand value) {items : List Json}
    (hocc : Json.OccursIn (.arr items) value) : items = [] := by
  induction h with
  | list _ => exact hocc.items_eq_nil_of_isFlat rfl
  | unknown _ _ => exact hocc.items_eq_nil_of_isFlat (isFlat_scalarDefault _ _)
  | known _ _ _ ih => exact ih hocc
  | scalar _ => exact hocc.items_eq_nil_of_isFlat (isFlat_scalarDefault _ _)
  | enum _ => exact hocc.items_eq_nil_of_isFlat rfl
  | cut _ => exact hocc.items_eq_nil_of_isFlat rfl
  | object _ keys _ ih =>
      rcases hocc.tagged_cases with heq | heq | ⟨key, v, hmem, hin⟩
      · cases heq
      · cases heq
      · obtain ⟨f, hnamed⟩ := exists_fieldNamed keys hmem
        exact ih key v f hmem hnamed hin
  | noMember _ _ => exact hocc.items_eq_nil_of_isFlat rfl
  | member _ _ ih => exact ih hocc

/-- A demand for a type asks for a type that the schema finds by its name. -/
def Demand.Known (s : Schema) : Demand → Prop
  | .ref _ => True
  | .type t => s.get? t.name = some t

/-- **Every object in a conforming value is a record** of an object type or an input object type. -/
theorem Conforms.isRecordOf (own : c.schema.OwnNames) (h : c.Conforms demand value)
    (hknown : demand.Known c.schema) {entries : Entries} (hocc : Json.OccursIn (.obj entries) value) :
    ∃ t, c.schema.get? t.name = some t ∧ c.IsRecordOf t entries := by
  induction h with
  | list _ => exact absurd hocc (Json.OccursIn.not_obj_of_isFlat rfl)
  | unknown _ _ => exact absurd hocc (Json.OccursIn.not_obj_of_isFlat (isFlat_scalarDefault _ _))
  | known _ found _ ih => exact ih (own.get?_name found) hocc
  | scalar _ => exact absurd hocc (Json.OccursIn.not_obj_of_isFlat (isFlat_scalarDefault _ _))
  | enum _ => exact absurd hocc (Json.OccursIn.not_obj_of_isFlat rfl)
  | cut _ => exact absurd hocc (Json.OccursIn.not_obj_of_isFlat rfl)
  | @object t fields members record keys values ih =>
      rcases hocc.tagged_cases with heq | heq | ⟨key, v, hmem, hin⟩
      · cases heq
        refine ⟨t, hknown, fields, members, record, rfl, keys, fun key v hmem => ?_⟩
        obtain ⟨f, hnamed⟩ := exists_fieldNamed keys hmem
        exact ⟨f, hnamed, values key v f hmem hnamed⟩
      · cases heq
      · obtain ⟨f, hnamed⟩ := exists_fieldNamed keys hmem
        exact ih key v f hmem hnamed trivial hin
  | noMember _ _ => exact absurd hocc (Json.OccursIn.not_obj_of_isFlat rfl)
  | member first _ ih =>
      obtain ⟨name, found⟩ := first.exists_name
      exact ih (own.get?_name found) hocc

/-! ## Paths of defaults -/

/-- The objects on a path **fit**: they are tagged with distinct types, none of them visited, and there are
    no more of them than levels of room. -/
def PathFits (visited : List String) (depth maxDepth : Int) (path : List Entries) : Prop :=
  ∃ names : List String, path.map typename? = names.map some ∧ names.Nodup ∧
    (∀ name ∈ names, name ∉ visited) ∧ (path.length : Int) ≤ max (max maxDepth 0 - depth) 0

theorem PathFits.nil : PathFits visited depth maxDepth [] :=
  ⟨[], rfl, List.nodup_nil, by intro name h; exact absurd h (by simp), by rw [List.length_nil]; omega⟩

/-- A path that fits one level deeper, with the type of an object visited, fits with this object in front. -/
theorem PathFits.cons {name : String} {members : Entries} {path : List Entries} (fresh : name ∉ visited)
    (room : depth < max maxDepth 0) (h : PathFits (name :: visited) (depth + 1) (max maxDepth 0) path) :
    PathFits visited depth maxDepth (((typenameKey, .str name) :: members) :: path) := by
  obtain ⟨names, htypes, hnodup, hnew, hlen⟩ := h
  refine ⟨name :: names, ?_, List.nodup_cons.mpr ⟨?_, hnodup⟩, ?_, ?_⟩
  · rw [List.map_cons, List.map_cons, htypes, typename?_tagged]
  · intro hmem
    exact hnew name hmem List.mem_cons_self
  · intro n hn
    rcases List.mem_cons.mp hn with rfl | hrest
    · exact fresh
    · exact fun hv => hnew n hrest (List.mem_cons_of_mem _ hv)
  · rw [List.length_cons]
    omega

/-- A bound that is already clamped leaves the same room. -/
theorem PathFits.of_clamp {path : List Entries} (h : PathFits visited depth (max maxDepth 0) path) :
    PathFits visited depth maxDepth path := by
  obtain ⟨names, htypes, hnodup, hnew, hlen⟩ := h
  exact ⟨names, htypes, hnodup, hnew, by omega⟩

/-- **The objects on every path of a default fit** into what was asked for. -/
theorem Unfolds.path_fits (h : Unfolds c visited depth maxDepth demand value) {path : List Entries}
    (hpath : Json.ObjectsOn value path) : PathFits visited depth maxDepth path := by
  induction h generalizing path with
  | nonNull _ ih => exact (ih hpath).of_clamp
  | list _ _ => rw [hpath.eq_nil_of_isFlat rfl]; exact .nil
  | unknown _ _ _ => rw [hpath.eq_nil_of_isFlat (isFlat_scalarDefault _ _)]; exact .nil
  | known _ _ _ _ ih => exact (ih hpath).of_clamp
  | scalar _ => rw [hpath.eq_nil_of_isFlat (isFlat_scalarDefault _ _)]; exact .nil
  | enum _ => rw [hpath.eq_nil_of_isFlat rfl]; exact .nil
  | seen _ _ => rw [hpath.eq_nil_of_isFlat rfl]; exact .nil
  | deep _ _ => rw [hpath.eq_nil_of_isFlat rfl]; exact .nil
  | object _ fresh room _ ih =>
      rw [tagged_fieldEntries] at hpath
      cases hpath with
      | stop => exact .nil
      | @member key v _ rest mem within =>
          refine PathFits.cons fresh room ?_
          rcases List.mem_cons.mp mem with heq | hmem
          · cases heq
            rw [within.eq_nil_of_isFlat rfl]; exact .nil
          · obtain ⟨f, hf, _, hv⟩ := fieldNamed_of_mem_fieldEntries hmem
            rw [hv] at within
            exact ih f hf within
  | noMember _ _ => rw [hpath.eq_nil_of_isFlat rfl]; exact .nil
  | member _ _ ih => exact (ih hpath).of_clamp

/-! ## The shape of a default -/

/-- **Every default conforms and is bounded.** Where a call gives a value, the value conforms to the
    reference, its lists are empty, every object in it is a record of a type that the schema finds by its tag,
    and the objects on every path of it fit into the visited types and the room of the call. -/
theorem ofRef_conforms_and_fits (c : MockContext) (own : c.schema.OwnNames) {visited : List String}
    {depth maxDepth : Int} {ref : TypeRef} {value : Json}
    (h : c.ofRef (roomAt depth maxDepth) visited ref = some value) :
    c.Conforms (.ref ref) value ∧
    (∀ items, Json.OccursIn (.arr items) value → items = []) ∧
    (∀ entries, Json.OccursIn (.obj entries) value →
      ∃ t, c.schema.get? t.name = some t ∧ c.IsRecordOf t entries) ∧
    (∀ path, Json.ObjectsOn value path → PathFits visited depth maxDepth path) := by
  have hunfolds : Unfolds c visited depth maxDepth (.ref ref) value := unfolds_iff.mpr h
  have hconforms := hunfolds.conforms
  exact ⟨hconforms, fun _ => hconforms.items_eq_nil, fun _ => hconforms.isRecordOf own trivial,
    fun _ => hunfolds.path_fits⟩

/-- A shelf with a box, below which the inner box and the lid are cut: the one lies on the path, the other was
    visited from the start. -/
def shelfDefault : Json :=
  .obj [("__typename", .str "Shelf"),
    ("item", .obj [("__typename", .str "Box"), ("id", .str ""), ("inner", .null), ("lid", .null)]),
    ("boxes", .arr [])]

theorem shelfDefault_conforms_and_fits :
    Shelf.schema.OwnNames ∧
    Shelf.context.ofRef (roomAt (-1) 2) ["Lid"] (Shelf.ref "OBJECT" "Shelf") = some shelfDefault ∧
    Shelf.context.Conforms (.ref (Shelf.ref "OBJECT" "Shelf")) shelfDefault ∧
    (∀ items, Json.OccursIn (.arr items) shelfDefault → items = []) ∧
    (∀ entries, Json.OccursIn (.obj entries) shelfDefault →
      ∃ t, Shelf.schema.get? t.name = some t ∧ Shelf.context.IsRecordOf t entries) ∧
    (∀ path, Json.ObjectsOn shelfDefault path → PathFits ["Lid"] (-1) 2 path) := by
  have hdefault : Shelf.context.ofRef (roomAt (-1) 2) ["Lid"] (Shelf.ref "OBJECT" "Shelf") =
      some shelfDefault := rfl
  exact ⟨Shelf.regular.ownNames, hdefault,
    ofRef_conforms_and_fits Shelf.context Shelf.regular.ownNames hdefault⟩

end MockContext

end GraphQLCache
