import GraphQLCache.Introspection.Ingest
import GraphQLCache.Mock.Synthesis
import GraphQLCache.Name
import GraphQLCache.Proofs.Keyed
import GraphQLCache.Selection.Basic

/-!
# `Proofs.Regular` — what callers promise about a schema

`Schema.OwnNames` says that every type is stored under its own name, `TypeRef.wellFormed` that a reference is
a tower of wrappers over a name, and `Schema.Regular` puts them together with the demand that fields have
names that a document can select. The first is more than a promise: every schema that ingestion returns has
it (`ownNames_of_ingest`), because each entry is filed under the name that it carries.
-/

namespace GraphQLCache

/-! ## References -/

namespace TypeRef

/-- Whether the wrappers of a reference are in order: a list or a non-null wrapper goes around something and
    has no name of its own, and the reference comes to a proper name. -/
def wellFormed : TypeRef → Bool
  | .leaf (.named _ _) name => (properName? name).isSome
  | .leaf _ _ => false
  | .wrap (.named _ _) name inner => (properName? name).isSome || inner.wellFormed
  | .wrap _ name inner => (properName? name).isNone && inner.wellFormed

/-- A wrapper without a name of its own has the base name of what it wraps. -/
theorem baseName_wrap {kind : RefKind} {name : Option String} {inner : TypeRef}
    (h : (properName? name).isNone = true) : (wrap kind name inner).baseName = inner.baseName := by
  rw [baseName, Option.isNone_iff_eq_none.mp h, Option.getD_none]

/-- Non-null wrappers do not decide whether a reference is a list. -/
theorem isList_nullable (ref : TypeRef) : ref.nullable.isList = ref.isList := by
  induction ref with
  | leaf kind name => rfl
  | wrap kind name inner ih =>
      cases kind with
      | nonNull => exact ih
      | list => rfl
      | named w hw => rfl

/-- The non-null wrappers of a well-formed reference do not hide its base name. -/
theorem baseName_nullable {ref : TypeRef} (h : ref.wellFormed = true) :
    ref.nullable.baseName = ref.baseName := by
  induction ref with
  | leaf kind name => rfl
  | wrap kind name inner ih =>
      cases kind with
      | nonNull =>
          obtain ⟨hname, hinner⟩ := Bool.and_eq_true_iff.mp h
          rw [baseName_wrap hname]
          exact ih hinner
      | list => rfl
      | named w hw => rfl

/-- A well-formed list has a well-formed element with the same base name. -/
theorem element_of_isList {ref : TypeRef} (h : ref.wellFormed = true) (hlist : ref.isList = true) :
    ∃ element, ref.element? = some element ∧ element.wellFormed = true ∧
      element.baseName = ref.baseName := by
  induction ref with
  | leaf kind name =>
      cases kind with
      | list => exact absurd h Bool.noConfusion
      | nonNull => exact absurd h Bool.noConfusion
      | named w hw => exact absurd hlist (by simp [isList])
  | wrap kind name inner ih =>
      cases kind with
      | list =>
          obtain ⟨hname, hinner⟩ := Bool.and_eq_true_iff.mp h
          exact ⟨inner, rfl, hinner, (baseName_wrap hname).symm⟩
      | nonNull =>
          obtain ⟨hname, hinner⟩ := Bool.and_eq_true_iff.mp h
          obtain ⟨element, helement, hwf, hbase⟩ := ih hinner hlist
          exact ⟨element, helement, hwf, hbase.trans (baseName_wrap hname).symm⟩
      | named w hw => exact absurd hlist Bool.noConfusion

end TypeRef

/-! ## Schemas -/

namespace Schema

variable {s : Schema} {t : NamedType} {name : String}

/-- Every type is stored under its own name. -/
def OwnNames (s : Schema) : Prop := ∀ e ∈ s.types.entries, e.2.name = e.1

instance (s : Schema) : Decidable s.OwnNames :=
  inferInstanceAs (Decidable (∀ e ∈ s.types.entries, e.2.name = e.1))

/-- **A regular schema**: types under their own names, and fields of well-formed types whose names a document
    can select and that do not look like references. -/
structure Regular (s : Schema) : Prop where
  ownNames : s.OwnNames
  wellFormed : ∀ t ∈ s.types.values, ∀ f ∈ t.body.fields, f.type.wellFormed = true
  accepted : ∀ t ∈ s.types.values, ∀ f ∈ t.body.fields, isAcceptedName f.name = true
  noReference : ∀ t ∈ s.types.values, ∀ f ∈ t.body.fields, f.name ≠ refKey

/-- The type found by a name is filed under it, and the name is not empty. -/
theorem mem_entries_of_get? (h : s.get? name = some t) :
    name.isEmpty = false ∧ (name, t) ∈ s.types.entries := by
  unfold get? at h
  cases hempty : name.isEmpty with
  | true => rw [if_pos hempty] at h; exact absurd h (by simp)
  | false =>
      rw [if_neg (by rw [hempty]; exact Bool.noConfusion)] at h
      exact ⟨rfl, Keyed.mem_entries_of_get? h⟩

/-- A type found by its name is one of the types of the schema. -/
theorem mem_values_of_get? (h : s.get? name = some t) : t ∈ s.types.values :=
  List.mem_map.mpr ⟨(name, t), (mem_entries_of_get? h).2, rfl⟩

theorem fieldsOf_of_get? (h : s.get? name = some t) : s.fieldsOf name = t.body.fields := by
  unfold fieldsOf
  rw [h]

/-- Only a type of the schema has fields. -/
theorem exists_of_fieldsOf_ne_nil (h : s.fieldsOf name ≠ []) : ∃ t, s.get? name = some t := by
  cases hget : s.get? name with
  | some t => exact ⟨t, rfl⟩
  | none =>
      unfold fieldsOf at h
      rw [hget] at h
      exact absurd rfl h

/-- Under its own name a type is found by the name that it carries. -/
theorem OwnNames.name_eq (own : s.OwnNames) (h : s.get? name = some t) : t.name = name :=
  own (name, t) (mem_entries_of_get? h).2

theorem OwnNames.get?_name (own : s.OwnNames) (h : s.get? name = some t) : s.get? t.name = some t := by
  rw [own.name_eq h]; exact h

/-- Every type that has a name is found by it. -/
theorem OwnNames.get?_of_mem (own : s.OwnNames) (ht : t ∈ s.types.values)
    (hname : t.name ≠ "") : s.get? t.name = some t := by
  obtain ⟨⟨key, t'⟩, hmem, rfl⟩ := List.mem_map.mp ht
  have hkey : t'.name = key := own (key, t') hmem
  unfold get?
  rw [if_neg fun h => hname (String.isEmpty_iff.mp h)]
  exact Keyed.get?_eq_some_iff.mpr (hkey ▸ hmem)

end Schema

/-! ## Ingestion -/

namespace Ingest

/-- Every type of a table is stored under its own name. -/
def Filed (types : Keyed NamedType) : Prop := ∀ e ∈ types.entries, e.2.name = e.1

theorem filed_addNew {types : Keyed NamedType} (h : Filed types) (t : NamedType) :
    Filed (types.addNew t.name t) := by
  unfold Keyed.addNew
  by_cases hmem : t.name ∈ types.keys
  · rw [dif_pos hmem]; exact h
  · rw [dif_neg hmem]
    intro e he
    rcases List.mem_append.mp he with hold | hnew
    · exact h e hold
    · rw [List.mem_singleton] at hnew
      rw [hnew]

/-- Whatever the entries are, ingestion files every type under its own name. -/
theorem filed_ingestFrom {index : Nat} {types : Keyed NamedType} (items : List Json) (h : Filed types) :
    Filed (ingestFrom index types items).1 := by
  induction items generalizing index types with
  | nil => exact h
  | cons j rest ih =>
      rw [ingestFrom]
      cases judge types.keys j with
      | add t => exact ih (filed_addNew h t)
      | pass => exact ih h
      | skip reason => exact ih h

end Ingest

/-- **Every schema that ingestion returns has its types under their own names.** -/
theorem ownNames_of_ingest {raw : Json} {s : Schema} {skips : List Skip} (h : ingest raw = .ok (s, skips)) :
    s.OwnNames := by
  unfold ingest at h
  split at h
  · exact absurd h (by simp)
  · split at h
    · split at h
      · cases h
        exact Ingest.filed_ingestFrom _ (by intro e he; exact absurd he (by simp [Keyed.empty]))
      · exact absurd h (by simp)
    · exact absurd h (by simp)

/-! ## A small regular schema -/

namespace Shelf

def ref (kind name : String) : TypeRef := .named (.ofWord kind) name

def field (name : String) (type : TypeRef) : Field := ⟨name, type, none, false⟩

def object (name : String) (fields : List Field) : String × NamedType :=
  (name, ⟨name, none, .object fields []⟩)

def union (name : String) (members : List String) : String × NamedType :=
  (name, ⟨name, none, .union members⟩)

/-- Shelves hold boxes, also through a union, and boxes hold boxes. A lid leads to a type without fields, and
    a label declares a field under the name of the tag and one name twice. -/
def schema : Schema :=
  { Schema.empty with
    types := .ofPairs
      [object "Shelf" [field "item" (ref "UNION" "Item"),
          field "boxes" (.listOf (.nonNull (ref "OBJECT" "Box")))],
        union "Item" ["Box"],
        object "Box" [field "id" (ref "SCALAR" "ID"), field "inner" (ref "OBJECT" "Box"),
          field "lid" (ref "OBJECT" "Lid")],
        object "Lid" [field "gap" (ref "UNION" "Gap")],
        union "Gap" ["Void"],
        object "Void" [],
        object "Label" [field "__typename" (ref "UNION" "Item"), field "item" (ref "UNION" "Item"),
          field "item" (ref "SCALAR" "ID")]] }

theorem regular : schema.Regular := ⟨by decide, by decide, by decide, by decide⟩

def context : MockContext := ⟨schema, .ofMicroseconds 0⟩

end Shelf

end GraphQLCache
