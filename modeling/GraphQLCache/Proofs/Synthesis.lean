import GraphQLCache.Proofs.Entries
import GraphQLCache.Proofs.MemberChain
import GraphQLCache.Selection.OfValue

/-!
# `Proofs.Synthesis` — the equations that defaults satisfy

One equation for each way in which the default of a type or of a reference comes about, so that later modules
never open `MockContext.ofType` again: a type goes over to its first member (`ofType_of_member`), is a leaf,
is cut (`ofType_of_seen`, `ofType_of_noRoom`) or becomes an object of the defaults of its fields
(`ofType_of_record`). The defaults of the fields exist together exactly when each one does
(`fieldsBy_of_values`, `fieldsBy_eq_some`).
-/

namespace GraphQLCache

/-! ## References -/

namespace TypeRef

/-- A reference that is not a non-null wrapper around another one. -/
def IsPlain (ref : TypeRef) : Prop := ∀ name inner, ref ≠ .wrap .nonNull name inner

theorem nullable_of_plain {ref : TypeRef} (h : ref.IsPlain) : ref.nullable = ref := by
  unfold nullable
  split
  · exact absurd rfl (h _ _)
  · rfl

end TypeRef

/-! ## Leaves -/

/-- A value with no parts. -/
def Json.isFlat : Json → Bool
  | .obj _ | .arr (_ :: _) => false
  | _ => true

/-- The defaults of scalars have no parts. -/
theorem isFlat_scalarDefault (clock : Clock) (name : String) : (scalarDefault clock name).isFlat = true := by
  unfold scalarDefault
  split <;> rfl

theorem scalarDefault_ne_obj (clock : Clock) (name : String) (entries : Entries) :
    scalarDefault clock name ≠ .obj entries := by
  intro h
  have hflat := isFlat_scalarDefault clock name
  rw [h] at hflat
  exact absurd hflat Bool.noConfusion

/-! ## The room that a depth leaves -/

theorem roomAt_clamp (depth maxDepth : Int) : roomAt depth (max maxDepth 0) = roomAt depth maxDepth := by
  unfold roomAt
  omega

/-- Where the bound is reached no room is left. -/
theorem roomAt_eq_zero {depth maxDepth : Int} : roomAt depth maxDepth = 0 ↔ max maxDepth 0 ≤ depth := by
  unfold roomAt
  omega

/-- One level deeper there is one level less. -/
theorem roomAt_eq_succ {depth maxDepth : Int} {room : Nat} :
    roomAt depth maxDepth = room + 1 ↔ depth < max maxDepth 0 ∧ roomAt (depth + 1) maxDepth = room := by
  unfold roomAt
  omega

namespace MockContext

variable {c : MockContext}

/-! ## The defaults of fields -/

/-- The declared fields that an object of a type gets a default for. -/
def ownFields (fields : List Field) : List Field := fields.filter fun f => f.name ≠ typenameKey

/-- The entries of fields with the given values. -/
def fieldEntries (fields : List Field) (value : Field → Json) : List (String × Json) :=
  (ownFields fields).map fun f => (f.name, value f)

theorem mem_ownFields {f : Field} {fields : List Field} :
    f ∈ ownFields fields ↔ f ∈ fields ∧ f.name ≠ typenameKey := by
  unfold ownFields; rw [List.mem_filter, decide_eq_true_eq]

theorem ownFields_cons_typename {f : Field} {rest : List Field} (h : f.name = typenameKey) :
    ownFields (f :: rest) = ownFields rest := List.filter_cons_of_neg (by simp [h])

theorem ownFields_cons {f : Field} {rest : List Field} (h : f.name ≠ typenameKey) :
    ownFields (f :: rest) = f :: ownFields rest := List.filter_cons_of_pos (by simp [h])

/-- If every field has a default, the fields have theirs together. -/
theorem fieldsBy_of_values {g : TypeRef → Option Json} {fields : List Field} {value : Field → Json}
    (h : ∀ f ∈ ownFields fields, g f.type = some (value f)) :
    fieldsBy g fields = some (fieldEntries fields value) := by
  induction fields with
  | nil => rfl
  | cons f rest ih =>
      by_cases hf : f.name = typenameKey
      · have hrest := ih (fun f' hf' => h f' (by rw [ownFields_cons_typename hf]; exact hf'))
        rw [fieldsBy, if_pos hf, hrest, fieldEntries, fieldEntries, ownFields_cons_typename hf]
      · have hrest := ih (fun f' hf' => h f' (by rw [ownFields_cons hf]; exact List.mem_cons_of_mem _ hf'))
        have hhead := h f (by rw [ownFields_cons hf]; exact List.mem_cons_self)
        rw [fieldsBy, if_neg hf, hrest, hhead, fieldEntries, fieldEntries, ownFields_cons hf]
        rfl

/-- If the fields have defaults together, every field has one. -/
theorem fieldsBy_eq_some {g : TypeRef → Option Json} {fields : List Field} {pairs : List (String × Json)}
    (h : fieldsBy g fields = some pairs) :
    ∃ value : Field → Json, pairs = fieldEntries fields value ∧
      ∀ f ∈ ownFields fields, g f.type = some (value f) := by
  have hall : ∀ f ∈ ownFields fields, g f.type = some ((g f.type).getD .null) := by
    induction fields generalizing pairs with
    | nil => intro f hf; exact absurd hf (by simp [ownFields])
    | cons f rest ih =>
        intro f' hf'
        by_cases hf : f.name = typenameKey
        · rw [fieldsBy, if_pos hf] at h
          rw [ownFields_cons_typename hf] at hf'
          exact ih h f' hf'
        · rw [fieldsBy, if_neg hf] at h
          obtain ⟨v, hv, hbind⟩ := Option.bind_eq_some_iff.mp h
          obtain ⟨ps, hps, _⟩ := Option.bind_eq_some_iff.mp hbind
          rw [ownFields_cons hf] at hf'
          rcases List.mem_cons.mp hf' with rfl | hrest
          · rw [hv]; rfl
          · exact ih hps f' hrest
  refine ⟨fun f => (g f.type).getD .null, ?_, hall⟩
  exact Option.some.inj (h.symm.trans (fieldsBy_of_values hall))

/-! ## The entries of an object -/

variable {fields : List Field} {value : Field → Json} {key : String} {v : Json}

theorem keys_fieldEntries (fields : List Field) (value : Field → Json) :
    (fieldEntries fields value).map (·.1) = (ownFields fields).map (·.name) := by
  rw [fieldEntries, List.map_map]; rfl

theorem typenameKey_notMem_fieldEntries (fields : List Field) (value : Field → Json) :
    typenameKey ∉ (fieldEntries fields value).map (·.1) := by
  rw [keys_fieldEntries]
  intro h
  obtain ⟨f, hf, hname⟩ := List.mem_map.mp h
  exact (mem_ownFields.mp hf).2 hname

/-- **An object is its type under `__typename`, then its fields.** -/
theorem tagged_fieldEntries (name : String) (fields : List Field) (value : Field → Json) :
    tagged name (fieldEntries fields value) =
      .obj ((typenameKey, .str name) :: Entries.ofPairs (fieldEntries fields value)) := by
  rw [tagged, Entries.ofPairs_cons_of_not_mem (typenameKey_notMem_fieldEntries fields value)]

/-- The field of a name among pairs of names and values is looked up as the field itself. -/
theorem lookup_map_name (fields : List Field) (value : Field → Json) (key : String) :
    (fields.map fun f => (f.name, value f)).lookup key = (fields.find? (·.name = key)).map value := by
  induction fields with
  | nil => rfl
  | cons f rest ih =>
      rw [List.map_cons, List.lookup_cons, List.find?_cons]
      by_cases h : f.name = key
      · rw [h, beq_self_eq_true, decide_eq_true rfl]; rfl
      · rw [beq_false_of_ne (fun hk => h hk.symm), decide_eq_false h]; exact ih

/-- Apart from `__typename` an object has its own fields under the names that declare them last. -/
theorem find?_ownFields (h : key ≠ typenameKey) :
    (ownFields fields).reverse.find? (·.name = key) = Schema.fieldNamed? fields key := by
  rw [Schema.fieldNamed?, ownFields, ← List.filter_reverse, List.find?_filter]
  congr 1
  funext f
  by_cases hf : f.name = key
  · simp [hf, h]
  · simp [hf]

/-- **Every entry of an object is the value of the last field of its name.** -/
theorem fieldNamed_of_mem_fieldEntries (h : (key, v) ∈ Entries.ofPairs (fieldEntries fields value)) :
    ∃ f ∈ ownFields fields, Schema.fieldNamed? fields key = some f ∧ v = value f := by
  have hkey : key ∈ (ownFields fields).map (·.name) := by
    have hmem := Entries.mem_keys_of_mem h
    rw [Entries.keys_ofPairs, keys_fieldEntries] at hmem
    exact List.mem_eraseDups.mp hmem
  obtain ⟨f₀, hf₀, rfl⟩ := List.mem_map.mp hkey
  have hget := Entries.get?_of_mem (Entries.nodup_ofPairs _) h
  rw [Entries.get?_ofPairs, fieldEntries, ← List.map_reverse, lookup_map_name] at hget
  obtain ⟨f, hfind, hv⟩ := Option.map_eq_some_iff.mp hget
  refine ⟨f, List.mem_reverse.mp (List.mem_of_find?_eq_some hfind), ?_, hv.symm⟩
  rw [← find?_ownFields (mem_ownFields.mp hf₀).2]; exact hfind

/-! ## The default of a type -/

variable {room : Nat} {visited : List String} {t next : NamedType}

/-- The default of a type is decided where the chain of its first members ends. -/
theorem ofType_eq : c.ofType room visited t =
    match c.schema.landing t with
    | .endless => none
    | .nowhere => some .null
    | .concrete t =>
      match t.body with
      | .enum values => some (.str ((values.head?.map (·.name)).getD ""))
      | .object fields _ | .inputObject fields =>
        if visited.contains t.name then some .null
        else
          match room with
          | 0 => some .null
          | room + 1 => (fieldsBy (c.refBy (c.ofType room (t.name :: visited))) fields).map (tagged t.name)
      | _ => some (scalarDefault c.clock t.name) :=
  ofType.eq_def c room visited t

/-- An interface or a union has the default of its first member. -/
theorem ofType_of_member (h : c.schema.FirstMember t next) :
    c.ofType room visited t = c.ofType room visited next := by
  rw [ofType_eq, ofType_eq, Schema.landing_of_member h]

theorem ofType_of_noMember (h : t.body.isAbstract = true) (hn : c.schema.firstMember? t = none) :
    c.ofType room visited t = some .null := by
  rw [ofType_eq, Schema.landing_of_noMember h hn]

theorem ofType_of_endless (h : c.schema.landing t = .endless) : c.ofType room visited t = none := by
  rw [ofType_eq, h]

theorem ofType_of_scalar (h : t.body = .scalar) :
    c.ofType room visited t = some (scalarDefault c.clock t.name) := by
  rw [ofType_eq, Schema.landing_of_concrete (by rw [h]; rfl)]
  simp only [h]

theorem ofType_of_enum {values : List EnumValue} (h : t.body = .enum values) :
    c.ofType room visited t = some (.str ((values.head?.map (·.name)).getD "")) := by
  rw [ofType_eq, Schema.landing_of_concrete (by rw [h]; rfl)]
  simp only [h]

/-- What an object or an input object does, by its fields alone. -/
theorem ofType_of_recordFields (h : t.body.recordFields? = some fields) :
    c.ofType room visited t =
      if visited.contains t.name then some .null
      else
        match room with
        | 0 => some .null
        | room + 1 =>
          (fieldsBy (c.refBy (c.ofType room (t.name :: visited))) fields).map (tagged t.name) := by
  rw [ofType_eq, Schema.landing_of_concrete (TypeBody.isAbstract_of_recordFields h)]
  rcases TypeBody.recordFields?_cases h with ⟨_, hb⟩ | hb
  · cases room with
    | zero => simp only [hb]
    | succ room => simp only [hb]
  · cases room with
    | zero => simp only [hb]
    | succ room => simp only [hb]

/-- An object whose type is on the path is cut. -/
theorem ofType_of_seen (h : t.body.recordFields? = some fields) (hseen : t.name ∈ visited) :
    c.ofType room visited t = some .null := by
  rw [ofType_of_recordFields h, if_pos (List.contains_iff_mem.mpr hseen)]

/-- An object without room is cut. -/
theorem ofType_of_noRoom (h : t.body.recordFields? = some fields) :
    c.ofType 0 visited t = some .null := by
  rw [ofType_of_recordFields h]
  by_cases hseen : visited.contains t.name = true
  · rw [if_pos hseen]
  · rw [if_neg hseen]

/-- An object with room whose type is not on the path has the defaults of its fields. -/
theorem ofType_of_record (h : t.body.recordFields? = some fields) (hfresh : t.name ∉ visited) :
    c.ofType (room + 1) visited t =
      (fieldsBy (c.ofRef room (t.name :: visited)) fields).map (tagged t.name) := by
  rw [ofType_of_recordFields h, if_neg (fun hc => hfresh (List.contains_iff_mem.mp hc))]
  rfl

/-- **What a record comes out as**: null where its type is on the path or no room is left, and otherwise the
    object of the defaults of its fields, made with one level less. -/
theorem ofType_record_cases {value : Json} (h : t.body.recordFields? = some fields)
    (hvalue : c.ofType room visited t = some value) :
    (t.name ∈ visited ∧ value = .null) ∨ (room = 0 ∧ value = .null) ∨
      ∃ room' values, room = room' + 1 ∧ t.name ∉ visited ∧
        value = tagged t.name (fieldEntries fields values) ∧
        ∀ f ∈ ownFields fields, c.ofRef room' (t.name :: visited) f.type = some (values f) := by
  by_cases hseen : t.name ∈ visited
  · rw [ofType_of_seen h hseen] at hvalue
    exact Or.inl ⟨hseen, (Option.some.inj hvalue).symm⟩
  · cases room with
    | zero =>
        rw [ofType_of_noRoom h] at hvalue
        exact Or.inr (Or.inl ⟨rfl, (Option.some.inj hvalue).symm⟩)
    | succ room =>
        rw [ofType_of_record h hseen] at hvalue
        obtain ⟨pairs, hpairs, htagged⟩ := Option.map_eq_some_iff.mp hvalue
        obtain ⟨values, hentries, hvalues⟩ := fieldsBy_eq_some hpairs
        refine Or.inr (Or.inr ⟨room, values, rfl, hseen, ?_, hvalues⟩)
        rw [← htagged, hentries]

/-! ## The default of a reference -/

variable {ref : TypeRef}

theorem ofRef_of_list (h : ref.nullable.isList = true) : c.ofRef room visited ref = some (.arr []) := by
  unfold ofRef refBy
  simp only [h, if_pos]

theorem ofRef_of_unknown (h : ref.nullable.isList = false)
    (hget : c.schema.get? ref.nullable.baseName = none) :
    c.ofRef room visited ref = some (scalarDefault c.clock ref.nullable.baseName) := by
  unfold ofRef refBy
  simp only [h, hget, Bool.false_eq_true, if_false]

theorem ofRef_of_known (h : ref.nullable.isList = false)
    (hget : c.schema.get? ref.nullable.baseName = some t) :
    c.ofRef room visited ref = c.ofType room visited t := by
  unfold ofRef refBy
  simp only [h, hget, Bool.false_eq_true, if_false]

end MockContext

end GraphQLCache
