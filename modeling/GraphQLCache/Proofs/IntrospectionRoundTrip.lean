import GraphQLCache.Proofs.EntryLoop
import GraphQLCache.Proofs.Regular

/-!
# `Proofs.IntrospectionRoundTrip` — a schema survives as an introspection result

`Schema.toJson` writes a schema as the introspection result that a service would give for it: one entry a
type, with the arrays that belong to its kind, references as nested objects and root types by their names.
Reading undoes writing part by part (`readRef_toJson`, `readField_toJson`, `readEntry_toJson`, …), each entry
that is read adds the type that was written (`judge_toJson`), and so ingestion returns the schema itself
(`ingest_toJson`), alone or in the envelope of a response.
-/

namespace GraphQLCache

/-! ## Writing -/

/-- The number of wrappers around the innermost reference. -/
def TypeRef.wrappers : TypeRef → Nat
  | .leaf _ _ => 0
  | .wrap _ _ inner => inner.wrappers + 1

/-- A reference with its wrappers as nested objects. -/
def TypeRef.toJson : TypeRef → Json
  | .leaf kind name => .obj [("kind", .str kind.word), ("name", .ofText? name), ("ofType", .null)]
  | .wrap kind name inner =>
    .obj [("kind", .str kind.word), ("name", .ofText? name), ("ofType", inner.toJson)]

/-- A field or an input field, without arguments. -/
def Field.toJson (f : Field) : Json :=
  .obj [("name", .str f.name), ("description", .ofText? f.description), ("type", f.type.toJson),
    ("isDeprecated", .bool f.deprecated), ("args", .arr [])]

/-- A value of an enumeration. -/
def EnumValue.toJson (v : EnumValue) : Json :=
  .obj [("name", .str v.name), ("description", .ofText? v.description),
    ("isDeprecated", .bool v.deprecated)]

/-- What is referred to by its name alone. -/
def nameJson (name : String) : Json := .obj [("name", .str name)]

/-- An array of parts. -/
def arrayOf {α : Type} (write : α → Json) (parts : List α) : Json := .arr (parts.map write)

/-- The arrays that belong to the kind of a type. -/
def TypeBody.arrays : TypeBody → Entries
  | .scalar => []
  | .enum values => [("enumValues", arrayOf EnumValue.toJson values)]
  | .object fields interfaces =>
    [("fields", arrayOf Field.toJson fields), ("interfaces", arrayOf nameJson interfaces)]
  | .interface fields members =>
    [("fields", arrayOf Field.toJson fields), ("possibleTypes", arrayOf nameJson members)]
  | .union members => [("possibleTypes", arrayOf nameJson members)]
  | .inputObject fields => [("inputFields", arrayOf Field.toJson fields)]

/-- The entry of a type. -/
def NamedType.toJson (t : NamedType) : Json :=
  .obj (("kind", .str t.kind.word) :: ("name", .str t.name) :: ("description", .ofText? t.description) ::
    t.body.arrays)

/-- A root type by its name, or null. -/
def rootJson : Option String → Json
  | some name => nameJson name
  | none => .null

/-- The introspection result of a schema. -/
def Schema.toJson (s : Schema) : Json :=
  .obj [("__schema", .obj [("types", arrayOf NamedType.toJson s.types.values),
    ("queryType", rootJson s.query), ("mutationType", rootJson s.mutation),
    ("subscriptionType", rootJson s.subscription)])]

/-! ## Readings that find no fault -/

namespace Checked

variable {α β : Type}

@[simp] theorem map_valid (f : α → β) (a : α) : f <$> (.valid a : Checked α) = .valid (f a) := rfl

@[simp] theorem seq_valid (f : α → β) (a : α) :
    (.valid f : Checked (α → β)) <*> (.valid a : Checked α) = .valid (f a) := rfl

theorem all_map_valid {γ : Type} {read : γ → Checked α} {write : α → γ} {parts : List α}
    (h : ∀ a ∈ parts, read (write a) = .valid a) : all ((parts.map write).map read) = .valid parts := by
  induction parts with
  | nil => rfl
  | cons a rest ih =>
      have hrest := ih fun b hb => h b (List.mem_cons_of_mem _ hb)
      rw [List.map_cons, List.map_cons, all, hrest, h a List.mem_cons_self]
      rfl

end Checked

/-! ## Reading undoes writing -/

namespace Entry

variable {α : Type} {read : Json → Checked α} {write : α → Json} {parts : List α}

@[simp] theorem required_text (s : String) : required readText (some (.str s)) = .valid s := rfl

@[simp] theorem optional_text (s : Option String) :
    optional readText (some (.ofText? s)) = .valid s := by
  cases s <;> rfl

@[simp] theorem optionalFlag_bool (b : Bool) : optionalFlag (some (.bool b)) = .valid b := rfl

theorem optionalList_arrayOf (h : ∀ a ∈ parts, read (write a) = .valid a) :
    optionalList read (some (arrayOf write parts)) = .valid parts := by
  have hlist : readList read (arrayOf write parts) = .valid parts := Checked.all_map_valid h
  show Checked.map _ (Checked.map _ (readList read (arrayOf write parts))) = _
  rw [hlist]
  rfl

theorem readNamed_nameJson (name : String) : readNamed (nameJson name) = .valid name := rfl

theorem makeRef_none (kind : RefKind) (name : Option String) :
    makeRef kind.word name none = .leaf kind name := by
  rw [makeRef, RefKind.ofWord_word]

theorem makeRef_some (kind : RefKind) (name : Option String) (inner : TypeRef) :
    makeRef kind.word name (some inner) = .wrap kind name inner := by
  rw [makeRef, RefKind.ofWord_word]

/-- A written reference is an object, so it is read where one may be absent. -/
theorem optional_toJson (read : Json → Checked TypeRef) (ref : TypeRef) :
    optional read (some ref.toJson) = (read ref.toJson).map some := by
  cases ref <;> rfl

/-- **A reference** of no more wrappers than are admitted is read as it was written. -/
theorem readRef_toJson {ref : TypeRef} {limit : Nat} (h : ref.wrappers ≤ limit) :
    readRef limit ref.toJson = .valid ref := by
  induction ref generalizing limit with
  | leaf kind name =>
      have hparts : readRef limit (TypeRef.leaf kind name).toJson =
          makeRef <$> .valid kind.word <*> optional readText (some (.ofText? name)) <*> .valid none := by
        cases limit <;> rfl
      rw [hparts, optional_text, Checked.map_valid, Checked.seq_valid, Checked.seq_valid, makeRef_none]
  | wrap kind name inner ih =>
      rw [TypeRef.wrappers] at h
      obtain ⟨limit, rfl⟩ : ∃ n, limit = n + 1 := ⟨limit - 1, by omega⟩
      have hparts : readRef (limit + 1) (TypeRef.wrap kind name inner).toJson =
          makeRef <$> .valid kind.word <*> optional readText (some (.ofText? name)) <*>
            optional (readRef limit) (some inner.toJson) := rfl
      rw [hparts, optional_text, optional_toJson, ih (by omega)]
      show Checked.valid (makeRef kind.word name (some inner)) = _
      rw [makeRef_some]

theorem readField_toJson {f : Field} (h : f.type.wrappers ≤ maxWrappers) :
    readField f.toJson = .valid f := by
  have hparts : readField f.toJson =
      Field.mk <$> required readText (some (.str f.name)) <*> readRef maxWrappers f.type.toJson <*>
        optional readText (some (.ofText? f.description)) <*> optionalFlag (some (.bool f.deprecated)) := rfl
  rw [hparts, readRef_toJson h]
  simp only [required_text, optional_text, optionalFlag_bool, Checked.map_valid, Checked.seq_valid]

theorem readEnumValue_toJson (v : EnumValue) : readEnumValue v.toJson = .valid v := by
  have hparts : readEnumValue v.toJson =
      EnumValue.mk <$> required readText (some (.str v.name)) <*>
        optional readText (some (.ofText? v.description)) <*> optionalFlag (some (.bool v.deprecated)) := rfl
  rw [hparts]
  simp only [required_text, optional_text, optionalFlag_bool, Checked.map_valid, Checked.seq_valid]

end Entry

/-! ## One entry for each type -/

namespace TypeBody

/-- The fields of an object or an interface, which are written apart from those of an input object. -/
def outputFields : TypeBody → List Field
  | .object fields _ | .interface fields _ => fields
  | _ => []

/-- The fields of an input object. -/
def inputFields : TypeBody → List Field
  | .inputObject fields => fields
  | _ => []

/-- The values of an enumeration. -/
def enumValues : TypeBody → List EnumValue
  | .enum values => values
  | _ => []

variable {b : TypeBody}

open Entry

section

variable (h : ∀ f ∈ b.fields, f.type.wrappers ≤ maxWrappers)

include h

theorem read_outputFields :
    optionalList readField (Entries.get? b.arrays "fields") = .valid b.outputFields := by
  cases b with
  | object fields interfaces => exact optionalList_arrayOf fun f hf => readField_toJson (h f hf)
  | interface fields members => exact optionalList_arrayOf fun f hf => readField_toJson (h f hf)
  | _ => rfl

theorem read_inputFields :
    optionalList readField (member? b.arrays "inputFields" "input_fields") = .valid b.inputFields := by
  cases b with
  | inputObject fields => exact optionalList_arrayOf fun f hf => readField_toJson (h f hf)
  | _ => rfl

end

theorem read_enumValues :
    optionalList readEnumValue (member? b.arrays "enumValues" "enum_values") = .valid b.enumValues := by
  cases b with
  | enum values => exact optionalList_arrayOf fun v _ => readEnumValue_toJson v
  | _ => rfl

theorem read_interfaces :
    optionalList readNamed (Entries.get? b.arrays "interfaces") = .valid b.interfaces := by
  cases b with
  | object fields interfaces => exact optionalList_arrayOf fun name _ => readNamed_nameJson name
  | _ => rfl

theorem read_members :
    optionalList readNamed (member? b.arrays "possibleTypes" "possible_types") = .valid b.members := by
  cases b with
  | interface fields members => exact optionalList_arrayOf fun name _ => readNamed_nameJson name
  | union members => exact optionalList_arrayOf fun name _ => readNamed_nameJson name
  | _ => rfl

end TypeBody

namespace NamedType

variable {t : NamedType}

/-- The parts of the entry of a type. -/
def entry (t : NamedType) : Entry :=
  { kind := t.kind.word
    name := t.name
    description := t.description
    fields := t.body.outputFields
    inputFields := t.body.inputFields
    enumValues := t.body.enumValues
    interfaces := t.body.interfaces
    possibleTypes := t.body.members }

/-- The kind of a written entry is known, and with its arrays the entry describes the type that was written. -/
theorem toType?_entry (t : NamedType) : t.entry.toType? = some t := by
  obtain ⟨name, description, body⟩ := t
  cases body <;> rfl

open Entry in
/-- **An entry** is read as it was written, whatever its kind. -/
theorem readEntry_toJson (h : ∀ f ∈ t.body.fields, f.type.wrappers ≤ maxWrappers) :
    readEntry t.toJson = .valid t.entry := by
  have hparts : readEntry t.toJson =
      Entry.mk <$> required readText (some (.str t.kind.word)) <*> required readText (some (.str t.name)) <*>
        optional readText (some (.ofText? t.description)) <*>
        optionalList readField (Entries.get? t.body.arrays "fields") <*>
        optionalList readField (member? t.body.arrays "inputFields" "input_fields") <*>
        optionalList readEnumValue (member? t.body.arrays "enumValues" "enum_values") <*>
        optionalList readNamed (Entries.get? t.body.arrays "interfaces") <*>
        optionalList readNamed (member? t.body.arrays "possibleTypes" "possible_types") := rfl
  rw [hparts, TypeBody.read_outputFields h, TypeBody.read_inputFields h, TypeBody.read_enumValues,
    TypeBody.read_interfaces, TypeBody.read_members]
  simp only [required_text, optional_text, Checked.map_valid, Checked.seq_valid]
  rfl

/-- A written entry of a new name adds its type. -/
theorem judge_toJson {known : List String} (visible : Ingest.isReserved t.name = false)
    (h : ∀ f ∈ t.body.fields, f.type.wrappers ≤ Entry.maxWrappers) (fresh : t.name ∉ known) :
    Ingest.judge known t.toJson = .add t := by
  have visible' : Ingest.isReserved t.entry.name = false := visible
  rw [Ingest.judge_of_new (readEntry_toJson h) visible' fresh, toType?_entry, Option.elim_some]

end NamedType

/-! ## Whole schemas -/

namespace Keyed

variable {α : Type}

/-- Tables with the same entries are the same. -/
theorem ext_entries {k k' : Keyed α} (h : k.entries = k'.entries) : k = k' := by
  cases k
  cases k'
  cases h
  rfl

end Keyed

namespace Ingest

variable {types : Keyed NamedType} {listed : List NamedType}

/-- **The loop collects written types** behind those that it has, in order and without a note. -/
theorem ingestFrom_toJson (index : Nat) (visible : ∀ t ∈ listed, isReserved t.name = false)
    (shallow : ∀ t ∈ listed, ∀ f ∈ t.body.fields, f.type.wrappers ≤ Entry.maxWrappers)
    (distinct : (types.keys ++ listed.map (·.name)).Nodup) :
    (ingestFrom index types (listed.map NamedType.toJson)).1.entries =
        types.entries ++ listed.map (fun t => (t.name, t)) ∧
      (ingestFrom index types (listed.map NamedType.toJson)).2 = [] := by
  induction listed generalizing index types with
  | nil => exact ⟨(List.append_nil _).symm, rfl⟩
  | cons t rest ih =>
      have fresh : t.name ∉ types.keys := by
        intro hmem
        exact (List.nodup_append.mp distinct).2.2 _ hmem _ List.mem_cons_self rfl
      have hjudge := NamedType.judge_toJson (visible t List.mem_cons_self) (shallow t List.mem_cons_self) fresh
      obtain ⟨htypes, hnotes⟩ := step_of_add hjudge
      have hentries : (types.addNew t.name t).entries = types.entries ++ [(t.name, t)] := by
        rw [Keyed.addNew, dif_neg fresh, Keyed.add]
      have hkeys : (types.addNew t.name t).keys = types.keys ++ [t.name] := by
        rw [Keyed.keys, hentries, List.map_append, List.map_singleton, Keyed.keys]
      have hdistinct : ((types.addNew t.name t).keys ++ rest.map (·.name)).Nodup := by
        rw [hkeys, List.append_assoc, List.singleton_append]
        exact distinct
      obtain ⟨hall, hnone⟩ := ih (index + 1) (fun u hu => visible u (List.mem_cons_of_mem _ hu))
        (fun u hu => shallow u (List.mem_cons_of_mem _ hu)) hdistinct
      rw [List.map_cons, ingestFrom_cons, htypes, hnotes, List.nil_append, hall, hentries]
      refine ⟨?_, hnone⟩
      rw [List.append_assoc, List.map_cons, List.singleton_append]

end Ingest

namespace Schema

variable {s : Schema}

theorem rootName_rootJson (name : Option String) : Ingest.rootName (some (rootJson name)) = name := by
  cases name <;> rfl

/-- The root names of a written schema are its own. -/
theorem schemaAround_toJson (s : Schema) (types : Keyed NamedType) :
    schemaAround s.toJson types = { s with types := types } := by
  have hroots : schemaAround s.toJson types =
      { types
        query := Ingest.rootName (some (rootJson s.query))
        mutation := Ingest.rootName (some (rootJson s.mutation))
        subscription := Ingest.rootName (some (rootJson s.subscription)) } := rfl
  rw [hroots, rootName_rootJson, rootName_rootJson, rootName_rootJson]

/-- The types of a schema that stores them under their own names, each with its name. -/
theorem OwnNames.entries_eq (own : s.OwnNames) :
    s.types.values.map (fun t => (t.name, t)) = s.types.entries := by
  rw [Keyed.values, List.map_map]
  conv_rhs => rw [← List.map_id s.types.entries]
  refine List.map_congr_left fun e he => ?_
  show (e.2.name, e.2) = e
  rw [own e he]

/-- **Ingestion loses nothing.** A schema that stores its types under their own names, of which none belongs to
    the introspection system, and whose references have no more wrappers than are admitted is read back from
    its introspection result as it is, without a note; and so it is from the response around that result. -/
theorem ingest_toJson (s : Schema) (own : s.OwnNames)
    (visible : ∀ t ∈ s.types.values, Ingest.isReserved t.name = false)
    (shallow : ∀ t ∈ s.types.values, ∀ f ∈ t.body.fields, f.type.wrappers ≤ 252) :
    ingest s.toJson = .ok (s, []) ∧ ingestResponse s.toJson = .ok (s, []) ∧
      ingestResponse (.obj [("data", s.toJson)]) = .ok (s, []) := by
  have hitems : typeItems? s.toJson = some (s.types.values.map NamedType.toJson) := rfl
  have hnames : s.types.values.map (·.name) = s.types.keys := by
    rw [Keyed.keys, ← own.entries_eq, List.map_map]
    rfl
  have hdistinct : ((Keyed.empty : Keyed NamedType).keys ++ s.types.values.map (·.name)).Nodup := by
    rw [hnames]
    exact s.types.distinct
  obtain ⟨hentries, hnotes⟩ := Ingest.ingestFrom_toJson 0 visible shallow hdistinct
  have htypes : (Ingest.ingestFrom 0 .empty (s.types.values.map NamedType.toJson)).1 = s.types :=
    Keyed.ext_entries (hentries.trans own.entries_eq)
  have hresult : ingest s.toJson = .ok (s, []) := by
    rw [ingest_eq hitems, hnotes, htypes, schemaAround_toJson]
  exact ⟨hresult, hresult, hresult⟩

/-- A type of each kind, with descriptions, deprecated parts, nested wrappers and an empty root name. -/
def catalogue : Schema :=
  let id : Field := ⟨"id", .nonNull (.named (.ofWord "SCALAR") "ID"), none, false⟩
  let sizes : TypeRef := .nonNull (.listOf (.listOf (.nonNull (.named (.ofWord "ENUM") "Size"))))
  { types := .ofPairs
      [("Date", ⟨"Date", some "A day.", .scalar⟩),
        ("Size", ⟨"Size", none, .enum [⟨"S", none, false⟩, ⟨"XL", some "Rare.", true⟩]⟩),
        ("Node", ⟨"Node", none, .interface [id] ["Item"]⟩),
        ("Item", ⟨"Item", some "", .object [id, ⟨"sizes", sizes, some "All.", true⟩] ["Node"]⟩),
        ("Thing", ⟨"Thing", none, .union ["Item"]⟩),
        ("Filter", ⟨"Filter", none, .inputObject [⟨"sizes", sizes, none, true⟩]⟩)]
    query := some "Query"
    mutation := none
    subscription := some "" }

/-- The catalogue is read back as it is. -/
theorem catalogue_survives :
    catalogue.OwnNames ∧ (∀ t ∈ catalogue.types.values, Ingest.isReserved t.name = false) ∧
    (∀ t ∈ catalogue.types.values, ∀ f ∈ t.body.fields, f.type.wrappers ≤ 252) ∧
    ingest catalogue.toJson = .ok (catalogue, []) ∧ ingestResponse catalogue.toJson = .ok (catalogue, []) ∧
      ingestResponse (.obj [("data", catalogue.toJson)]) = .ok (catalogue, []) := by
  have own : catalogue.OwnNames := by decide
  have visible : ∀ t ∈ catalogue.types.values, Ingest.isReserved t.name = false := by decide
  have shallow : ∀ t ∈ catalogue.types.values, ∀ f ∈ t.body.fields, f.type.wrappers ≤ 252 := by decide
  exact ⟨own, visible, shallow, ingest_toJson catalogue own visible shallow⟩

end Schema

end GraphQLCache
