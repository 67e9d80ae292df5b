import GraphQLCache.Proofs.Builder
import GraphQLCache.Selection.Printer

/-!
# `Proofs.SelectedKeys` — a selection set selects the keys of one object

`Schema.SetSelects` says what a selection set is to an object: its fields are the selectable keys of the object,
in order, and every field that is nested has below it a set that selects, in the same sense, the object that
the value of the field shows. What can be nested is said by `Schema.Nestable` in terms of the schema and the
value alone, and the builder's own test agrees with it (`nesting?_eq_some_iff`). Everything that can be nested
is, unless the depth is used up or the base type is on the branch.

`selectionsOf_selects` shows this of the builder, level by level, and `document_selects_exactly` of documents.
-/

namespace GraphQLCache

/-! ## The object behind a value -/

/-- The object that a value shows under a declared type: the value itself or, for a list, its first item. -/
inductive Shows : TypeRef → Json → Entries → Prop
  | itself {type object} (single : type.isList = false) : Shows type (.obj object) object
  | first {type object rest} (list : type.isList = true) : Shows type (.arr (.obj object :: rest)) object

variable {type : TypeRef} {value : Json} {object : Entries}

theorem inlineObject?_eq_some_iff :
    inlineObject? value = some object ↔ value = .obj object ∧ Entries.has object refKey = false := by
  cases value with
  | obj entries =>
      cases href : Entries.has entries refKey with
      | false =>
          rw [inlineObject?_of_obj href, Option.some_inj, Json.obj.injEq]
          exact ⟨fun h => ⟨h, h ▸ href⟩, fun h => h.1⟩
      | true =>
          rw [inlineObject?, if_pos href]
          constructor
          · intro h
            cases h
          · rintro ⟨h, hnone⟩
            cases h
            exact absurd (href.symm.trans hnone) Bool.noConfusion
  | _ => exact ⟨fun h => absurd h (by simp [inlineObject?]), fun h => Json.noConfusion h.1⟩

/-- **The sample of a field** is the object that its value shows, provided that it is no reference. -/
theorem sampleOf?_eq_some_iff :
    sampleOf? type value = some object ↔ Shows type value object ∧ Entries.has object refKey = false := by
  unfold sampleOf?
  cases hlist : type.isList with
  | false =>
      rw [if_neg Bool.false_ne_true, inlineObject?_eq_some_iff]
      constructor
      · rintro ⟨rfl, href⟩
        exact ⟨.itself hlist, href⟩
      · rintro ⟨hshows, href⟩
        cases hshows with
        | itself _ => exact ⟨rfl, href⟩
        | first list => exact absurd (hlist.symm.trans list) Bool.noConfusion
  | true =>
      rw [if_pos rfl]
      constructor
      · intro h
        split at h
        · obtain ⟨rfl, href⟩ := inlineObject?_eq_some_iff.mp h
          exact ⟨.first hlist, href⟩
        · cases h
      · rintro ⟨hshows, href⟩
        cases hshows with
        | itself single => exact absurd (hlist.symm.trans single) Bool.noConfusion
        | first _ => exact inlineObject?_of_obj href

namespace Schema

variable {s : Schema} {n : Nesting}

/-! ## What can be nested -/

/-- **What can be nested** in a field of a declared type: an object that is written inline, under an object or
    input object type with the fields of this type, and under an interface or a union with the fields of the
    type under which the object is tagged, if that declares any. -/
inductive Nestable (s : Schema) : TypeRef → Json → Nesting → Prop
  | record {type value object t fields} (shown : Shows type value object)
      (written : Entries.has object refKey = false) (found : s.get? type.baseName = some t)
      (record : t.body.recordFields? = some fields) :
      Nestable s type value ⟨type.baseName, none, fields, object⟩
  | member {type value object t concrete} (shown : Shows type value object)
      (written : Entries.has object refKey = false) (found : s.get? type.baseName = some t)
      (isAbstract : t.body.isAbstract = true) (tagged : typename? object = some concrete)
      (declared : s.fieldsOf concrete ≠ []) :
      Nestable s type value ⟨type.baseName, some concrete, s.fieldsOf concrete, object⟩

/-- Scalars and enumerations are never nested, nor is what the schema does not know. -/
theorem body_of_nesting? (h : s.nesting? type value = some n) :
    ∃ t object, s.get? type.baseName = some t ∧ sampleOf? type value = some object ∧
      (t.body.isAbstract = true ∨ ∃ fields, t.body.recordFields? = some fields) := by
  obtain ⟨t, found, h⟩ := Option.bind_eq_some_iff.mp h
  obtain ⟨object, hsample, h⟩ := Option.bind_eq_some_iff.mp h
  refine ⟨t, object, found, hsample, ?_⟩
  cases hb : t.body with
  | scalar => rw [hb] at h; cases h
  | enum values => rw [hb] at h; cases h
  | object fields interfaces => exact Or.inr ⟨fields, rfl⟩
  | interface fields members => exact Or.inl rfl
  | union members => exact Or.inl rfl
  | inputObject fields => exact Or.inr ⟨fields, rfl⟩

/-- Under an interface or a union an object without a tag is not nested. -/
theorem nesting?_of_untagged {t : NamedType} (found : s.get? type.baseName = some t)
    (hsample : sampleOf? type value = some object) (habs : t.body.isAbstract = true)
    (htag : typename? object = none) : s.nesting? type value = none := by
  unfold typename? typenameKey at htag
  unfold nesting?
  rw [found, hsample]
  rcases TypeBody.isAbstract_cases habs with ⟨_, _, hb⟩ | ⟨_, hb⟩
  · simp [hb, htag]
  · simp [hb, htag]

/-- **The builder's test is the description above.** -/
theorem nesting?_eq_some_iff : s.nesting? type value = some n ↔ s.Nestable type value n := by
  constructor
  · intro h
    obtain ⟨t, object, found, hsample, hbody⟩ := body_of_nesting? h
    obtain ⟨shown, written⟩ := sampleOf?_eq_some_iff.mp hsample
    rcases hbody with habs | ⟨fields, record⟩
    · cases htag : typename? object with
      | none => rw [nesting?_of_untagged found hsample habs htag] at h; cases h
      | some concrete =>
          rw [nesting?_of_abstract found hsample habs htag] at h
          split at h
          · cases h
          · rename_i declared
            rw [← Option.some.inj h]
            exact .member shown written found habs htag (by rwa [List.isEmpty_iff] at declared)
    · rw [nesting?_of_record found hsample record] at h
      rw [← Option.some.inj h]
      exact .record shown written found record
  · intro h
    cases h with
    | record shown written found record =>
        exact nesting?_of_record found (sampleOf?_eq_some_iff.mpr ⟨shown, written⟩) record
    | member shown written found isAbstract tagged declared =>
        rw [nesting?_of_abstract found (sampleOf?_eq_some_iff.mpr ⟨shown, written⟩) isAbstract tagged,
          if_neg (by rw [List.isEmpty_iff]; exact declared)]

end Schema

/-! ## Sets that select an object -/

/-- The keys of an object that can be selected, in order. -/
def selectableKeys (object : Entries) : List String := (Entries.keys object).filter isSelectedKey

/-- The name of a field; inline fragments have none. -/
def Selection.fieldName? : Selection → Option String
  | .field name _ => some name
  | .inlineOn _ _ => none

/-- What stands below a field that is nested, around the set that selects its sample. -/
def Schema.Nesting.around (n : Schema.Nesting) (set : List Selection) : List Selection :=
  match n.concrete with
  | none => set
  | some concrete => [.inlineOn concrete set]

namespace Schema

mutual

/-- **A selection set selects an object**, with `room` levels left below the types on `branch` and under the
    declarations `fields`. Its fields are the selectable keys of the object in order, each as often as the
    object has it, and each of them selects a value of its key; without any such key the set is the field
    `__typename` alone. -/
inductive SetSelects (s : Schema) :
    (room : Nat) → (branch : List String) → List Field → Entries → List Selection → Prop
  | tag {room branch fields object} (none : selectableKeys object = []) :
      SetSelects s room branch fields object [.bare "__typename"]
  | keys {room branch fields object selections} (some : selectableKeys object ≠ [])
      (names : selections.map Selection.fieldName? = (selectableKeys object).map Option.some)
      (once : (Entries.keys object).Nodup → (selections.map Selection.fieldName?).Nodup)
      (each : ∀ key below, Selection.field key below ∈ selections →
        FieldSelects s room branch fields object key below) :
      SetSelects s room branch fields object selections

/-- **A field selects a value of an object.** It is nested exactly when its key is declared, the value can be
    nested under the declared type, a level is left and the base type is not on the branch. The set below it
    then selects the sample, one level deeper and below the types that were passed. -/
inductive FieldSelects (s : Schema) :
    (room : Nat) → (branch : List String) → List Field → Entries → String → List Selection → Prop
  | bare {room branch fields object key value} (held : (key, value) ∈ object)
      (cut : ∀ f n, fieldNamed? fields key = some f → s.Nestable f.type value n →
        room = 0 ∨ n.base ∈ branch) :
      FieldSelects s room branch fields object key []
  | nested {room branch fields object key value f n set} (held : (key, value) ∈ object)
      (declared : fieldNamed? fields key = some f) (nestable : s.Nestable f.type value n)
      (fresh : n.base ∉ branch) (below : SetSelects s room (n.names ++ branch) n.fields n.sample set) :
      FieldSelects s (room + 1) branch fields object key (n.around set)

end

variable {s : Schema} {room : Nat} {branch : List String} {fields : List Field} {key : String}

/-! ## The builder -/

/-- Every selection of a level is a field under the key of its entry. -/
theorem fieldName?_fieldSelection (e : String × Json) :
    (s.fieldSelection room branch fields e).fieldName? = some e.1 := by
  unfold fieldSelection
  split
  · rfl
  · split
    · rfl
    · split
      · rfl
      · unfold Nesting.selection
        split <;> rfl

/-- The names of a level are the selectable keys. -/
theorem fieldNames_selectionsOf :
    (s.selectionsOf room branch fields object).map Selection.fieldName? =
      (selectableKeys object).map some := by
  rw [selectionsOf_eq, selectableKeys, Entries.keys, List.filter_map, List.map_map, List.map_map]
  exact List.map_congr_left fun e _ => fieldName?_fieldSelection e

/-- A nested field with a set below it that is not empty. -/
theorem Nesting.selection_eq (n : Nesting) (key : String) (below : List Selection) :
    n.selection key below = .field key (n.around (Selection.orTypename below)) := by
  unfold Nesting.selection Nesting.around
  cases n.concrete <;> rfl

/-- **One field**: bare where nothing can be nested or a cut applies, and nested otherwise. -/
theorem fieldSelection_selects
    (below : ∀ room' < room, ∀ branch fields object, s.SetSelects room' branch fields object
      (Selection.orTypename (s.selectionsOf room' branch fields object)))
    (held : (key, value) ∈ object) :
    ∃ set, s.fieldSelection room branch fields (key, value) = .field key set ∧
      s.FieldSelects room branch fields object key set := by
  cases hn : s.entryNesting? fields key value with
  | none =>
      refine ⟨[], fieldSelection_of_none hn, .bare held fun f n hnamed hnestable => ?_⟩
      rw [entryNesting?_of_named hnamed, nesting?_eq_some_iff.mpr hnestable] at hn
      cases hn
  | some n =>
      obtain ⟨f, declared, hnesting⟩ := Option.bind_eq_some_iff.mp hn
      have unique : ∀ f' n', fieldNamed? fields key = some f' → s.Nestable f'.type value n' → n' = n := by
        intro f' n' hnamed hnestable
        rw [entryNesting?_of_named hnamed, nesting?_eq_some_iff.mpr hnestable] at hn
        exact Option.some.inj hn
      by_cases hvisited : n.base ∈ branch
      · refine ⟨[], fieldSelection_of_visited fun n' hn' => ?_, .bare held fun f' n' hf' hn' => ?_⟩
        · rw [← Option.some.inj (hn.symm.trans hn')]; exact hvisited
        · exact Or.inr (unique f' n' hf' hn' ▸ hvisited)
      · cases room with
        | zero =>
            unfold entryNesting? at hn
            exact ⟨[], by rw [fieldSelection, hn]; rfl, .bare held fun _ _ _ _ => Or.inl rfl⟩
        | succ room =>
            refine ⟨_, (fieldSelection_of_nesting hn hvisited).trans (n.selection_eq key _), ?_⟩
            exact .nested held declared (nesting?_eq_some_iff.mp hnesting) hvisited
              (below room (Nat.lt_succ_self room) _ _ _)

/-- **The builder selects exactly the object**, level by level. The induction is on the levels that are left. -/
theorem selectionsOf_selects (room : Nat) (branch : List String) (fields : List Field) (object : Entries) :
    s.SetSelects room branch fields object
      (Selection.orTypename (s.selectionsOf room branch fields object)) := by
  induction room using Nat.strong_induction_on generalizing branch fields object with
  | _ room ih =>
      have hnames : (s.selectionsOf room branch fields object).map Selection.fieldName? =
          (selectableKeys object).map some := fieldNames_selectionsOf
      by_cases hkeys : selectableKeys object = []
      · rw [hkeys, List.map_nil, List.map_eq_nil_iff] at hnames
        rw [hnames]
        exact .tag hkeys
      · have hsome : (s.selectionsOf room branch fields object).isEmpty = false := by
          rw [← Bool.not_eq_true, List.isEmpty_iff]
          intro hnil
          rw [hnil, List.map_nil, eq_comm, List.map_eq_nil_iff] at hnames
          exact hkeys hnames
        rw [Selection.orTypename, hsome, if_neg Bool.false_ne_true]
        refine .keys hkeys hnames (fun hdistinct => ?_) fun key below hmem => ?_
        · rw [hnames]
          exact (hdistinct.filter _).map fun _ _ h => Option.some.inj h
        · rw [selectionsOf_eq] at hmem
          obtain ⟨e, he, heq⟩ := List.mem_map.mp hmem
          obtain ⟨set, hset, hselects⟩ := fieldSelection_selects ih (List.mem_of_mem_filter he)
          cases hset.symm.trans heq
          exact hselects

/-! ## Documents -/

/-- **A document selects exactly what was filled in.** For a type with declared fields, whatever the schema, the
    value and the depth bound, the root set selects the value itself, and below every nested field stands a
    set that selects the sample of that field. -/
theorem document_selects_exactly (s : Schema) {type : String} (hfields : s.fieldsOf type ≠ [])
    (value : Entries) (fragment : String) (maxDepth : Int) :
    s.SetSelects maxDepth.toNat [] (s.fieldsOf type) value
      (s.selectionDocument type value fragment maxDepth).selections := by
  rw [selections_of_document hfields]
  exact selectionsOf_selects _ _ _ _

/-- A shelf with a box of which the lid is a reference, boxes of which the first shows what is selected, an
    entry that shelves do not declare and one whose key is no name. -/
def filledShelf : Entries :=
  [("__typename", .str "Shelf"),
    ("item", .obj [("lid", .obj [("__ref", .str "Lid:1")]), ("__typename", .str "Box"), ("id", .str "b")]),
    ("boxes", .arr [.obj [("lid", .obj [])], .obj [("id", .str "c")]]),
    ("note", .obj [("text", .null)]), ("two words", .null)]

/-- What a document selects of such a shelf. -/
theorem filledShelf_selected_exactly :
    Shelf.schema.fieldsOf "Shelf" ≠ [] ∧
    Shelf.schema.SetSelects 3 [] (Shelf.schema.fieldsOf "Shelf") filledShelf
      (Shelf.schema.selectionDocument "Shelf" filledShelf "" 3).selections ∧
    (Shelf.schema.selectionDocument "Shelf" filledShelf "" 3).print =
      "fragment ShelfMock on Shelf \x7b\n  item \x7b\n    ... on Box \x7b\n      lid\n      id\n    \x7d\n  \x7d\n" ++
        "  boxes \x7b\n    lid \x7b\n      __typename\n    \x7d\n  \x7d\n  note\n\x7d" := by
  have hfields : Shelf.schema.fieldsOf "Shelf" ≠ [] := by decide
  exact ⟨hfields, document_selects_exactly Shelf.schema hfields filledShelf "" 3, by decide +kernel⟩

end Schema

end GraphQLCache
