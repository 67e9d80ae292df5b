import GraphQLCache.Proofs.DefinitionLoading
import GraphQLCache.Proofs.Keyed
import GraphQLCache.Proofs.ReadNames
import GraphQLCache.Proofs.RuleRuns
import Mathlib.Data.List.Flatten

/-!
# `Proofs.DeclaredTypes` — what loading keeps of the types of fields

A text declares a field where a definition or an extension of a type lists it. A text that loads is orderly,
so its extensions are put to the definitions that they extend, each field of a type comes from one place, and
the schema has one field for it (`exists_field_of_declares`).

The type of that field is what is seen of the declared type through the nine wrappers that a service is asked
to open (`TypeExpr.seen`). A type with more wrappers loses its name, so a declared type is kept if and only if
it has nine wrappers at most, or ten and the very name that stands for what cannot be named. A type that a
text defines under the name of a standard one is not loaded, and its fields are not kept either.
-/

namespace GraphQLCache

namespace Sdl

/-! ## Types through their wrappers -/

namespace TypeExpr

/-- The number of list and non-null wrappers of a type. -/
def wrappers : TypeExpr → Nat
  | .named _ => 0
  | .listOf inner => inner.wrappers + 1
  | .nonNull inner => inner.wrappers + 1

/-- What is seen of a type if so many wrappers are opened: of what the next one wraps, nothing. -/
def seen : (wrappers : Nat) → TypeExpr → TypeExpr
  | _, .named name => .named name
  | 0, .listOf _ => .listOf (.named TypeRef.unknownName)
  | 0, .nonNull _ => .nonNull (.named TypeRef.unknownName)
  | n + 1, .listOf inner => .listOf (inner.seen n)
  | n + 1, .nonNull inner => .nonNull (inner.seen n)

variable {e : TypeExpr} {n : Nat}

/-- Each wrapper lengthens the spelling. -/
theorem baseName_length_add_wrappers_le (e : TypeExpr) :
    e.baseName.length + e.wrappers ≤ e.spelling.length := by
  induction e with
  | named name => exact Nat.le_refl _
  | listOf inner ih =>
      show inner.baseName.length + (inner.wrappers + 1) ≤ ("[" ++ inner.spelling ++ "]").length
      have hlength : ("[" ++ inner.spelling ++ "]").length = inner.spelling.length + 2 := by
        rw [String.length_append, String.length_append, show "[".length = 1 from rfl,
          show "]".length = 1 from rfl]
        omega
      omega
  | nonNull inner ih =>
      show inner.baseName.length + (inner.wrappers + 1) ≤ (inner.spelling ++ "!").length
      have hlength : (inner.spelling ++ "!").length = inner.spelling.length + 1 := by
        rw [String.length_append, show "!".length = 1 from rfl]
      omega

/-- A type that is spelt as its name has no wrappers. -/
theorem wrappers_eq_zero_of_spelling (h : e.spelling = e.baseName) : e.wrappers = 0 := by
  have hle := baseName_length_add_wrappers_le e
  rw [h] at hle
  omega

theorem eq_named_of_wrappers (h : e.wrappers = 0) : e = .named e.baseName := by
  cases e with
  | named name => rfl
  | listOf inner => exact absurd h (Nat.succ_ne_zero _)
  | nonNull inner => exact absurd h (Nat.succ_ne_zero _)

/-- What stands behind the last wrapper that is opened is taken for what it is only if it is a type of the
    name that stands for the unknown. -/
theorem named_unknown_iff :
    (TypeRef.unknownName = e.spelling ∧ TypeRef.unknownName = e.baseName) ↔
      e.wrappers = 0 ∧ e.baseName = TypeRef.unknownName := by
  constructor
  · rintro ⟨hspelling, hname⟩
    exact ⟨wrappers_eq_zero_of_spelling (hspelling.symm.trans hname), hname.symm⟩
  · rintro ⟨hwrappers, hname⟩
    rw [eq_named_of_wrappers hwrappers, hname]
    exact ⟨rfl, rfl⟩

/-- **What is seen of a type is the type** if no wrapper is left closed, or the last one wraps the name that
    stands for the unknown. -/
theorem seen_iff (e : TypeExpr) (n : Nat) :
    ((e.seen n).spelling = e.spelling ∧ (e.seen n).baseName = e.baseName) ↔
      e.wrappers ≤ n ∨ (e.wrappers = n + 1 ∧ e.baseName = TypeRef.unknownName) := by
  -- Each wrapper of the type meets one that is opened, until there are no more of either.
  induction e generalizing n with
  | named name =>
      have hseen : (named name).seen n = .named name := by cases n <;> rfl
      rw [hseen]
      exact ⟨fun _ => Or.inl (Nat.zero_le n), fun _ => ⟨rfl, rfl⟩⟩
  | listOf inner ih =>
      cases n with
      | zero =>
          show "[" ++ TypeRef.unknownName ++ "]" = "[" ++ inner.spelling ++ "]" ∧
            TypeRef.unknownName = inner.baseName ↔ inner.wrappers + 1 ≤ 0 ∨
              (inner.wrappers + 1 = 0 + 1 ∧ inner.baseName = TypeRef.unknownName)
          rw [String.append_left_inj, String.append_right_inj, named_unknown_iff, Nat.add_right_cancel_iff]
          exact ⟨Or.inr, fun h => h.resolve_left (Nat.not_succ_le_zero _)⟩
      | succ n =>
          show "[" ++ (inner.seen n).spelling ++ "]" = "[" ++ inner.spelling ++ "]" ∧
            (inner.seen n).baseName = inner.baseName ↔ inner.wrappers + 1 ≤ n + 1 ∨
              (inner.wrappers + 1 = n + 1 + 1 ∧ inner.baseName = TypeRef.unknownName)
          rw [String.append_left_inj, String.append_right_inj, ih, Nat.add_le_add_iff_right,
            Nat.add_right_cancel_iff]
  | nonNull inner ih =>
      cases n with
      | zero =>
          show TypeRef.unknownName ++ "!" = inner.spelling ++ "!" ∧
            TypeRef.unknownName = inner.baseName ↔ inner.wrappers + 1 ≤ 0 ∨
              (inner.wrappers + 1 = 0 + 1 ∧ inner.baseName = TypeRef.unknownName)
          rw [String.append_left_inj, named_unknown_iff, Nat.add_right_cancel_iff]
          exact ⟨Or.inr, fun h => h.resolve_left (Nat.not_succ_le_zero _)⟩
      | succ n =>
          show (inner.seen n).spelling ++ "!" = inner.spelling ++ "!" ∧
            (inner.seen n).baseName = inner.baseName ↔ inner.wrappers + 1 ≤ n + 1 ∨
              (inner.wrappers + 1 = n + 1 + 1 ∧ inner.baseName = TypeRef.unknownName)
          rw [String.append_left_inj, ih, Nat.add_le_add_iff_right, Nat.add_right_cancel_iff]

end TypeExpr

namespace TypeSystem

variable {s : TypeSystem} {document : Document} {type field : String} {e : TypeExpr}

/-- The kind of a named type is no wrapper. -/
theorem exists_kindOf (s : TypeSystem) (name : String) : ∃ word plain, s.kindOf name = .named word plain := by
  have hword : ∀ kind : TypeKind, ∃ word plain, RefKind.ofWord kind.word = .named word plain := by
    intro kind
    cases kind <;> exact ⟨_, by decide, rfl⟩
  unfold kindOf
  cases s.contentOf? name with
  | none => exact hword .scalar
  | some content => exact hword content.kind

/-- **The reference that is reported shows what is seen of the type**, if the type has a name inside. -/
theorem opened_refOf (s : TypeSystem) (n : Nat) (e : TypeExpr) (h : e.baseName.isEmpty = false) :
    (opened n (s.refOf e)).display = (e.seen n).spelling ∧
      (opened n (s.refOf e)).baseName = (e.seen n).baseName := by
  induction e generalizing n with
  | named name =>
      have hproper : TypeRef.properName? (some name) = some name := by
        show (if name.isEmpty = true then none else some name) = some name
        rw [show name.isEmpty = false from h]
        rfl
      have hseen : (TypeExpr.named name).seen n = .named name := by cases n <;> rfl
      have hopened : opened n (s.refOf (.named name)) = .leaf (s.kindOf name) (some name) := by
        cases n <;> rfl
      obtain ⟨word, plain, hkind⟩ := exists_kindOf s name
      rw [hseen, hopened, hkind]
      simp only [TypeRef.display, TypeRef.baseName, hproper, TypeExpr.spelling, TypeExpr.baseName,
        Option.getD_some, and_self]
  | listOf inner ih =>
      cases n with
      | zero => exact ⟨rfl, rfl⟩
      | succ n =>
          obtain ⟨hdisplay, hname⟩ := ih n h
          refine ⟨?_, hname⟩
          show "[" ++ (opened n (s.refOf inner)).display ++ "]" = "[" ++ (inner.seen n).spelling ++ "]"
          rw [hdisplay]
  | nonNull inner ih =>
      cases n with
      | zero => exact ⟨rfl, rfl⟩
      | succ n =>
          obtain ⟨hdisplay, hname⟩ := ih n h
          refine ⟨?_, hname⟩
          show (opened n (s.refOf inner)).display ++ "!" = (inner.seen n).spelling ++ "!"
          rw [hdisplay]

end TypeSystem

/-! ## Declared fields -/

variable {document : Document} {type field : String} {e : TypeExpr} {d added : Declaration}

/-- **A document declares a field** of a type: its definition or an extension of it lists the field. -/
def Declares (document : Document) (type field : String) (e : TypeExpr) : Prop :=
  ∃ d : Declaration, (.type d ∈ document ∨ .extendType d ∈ document) ∧ d.name = type ∧
    (field, e) ∈ d.content.declaredFields

/-- A name is not empty. -/
theorem isEmpty_of_isName {word : String} (h : isName word = true) : word.isEmpty = false := by
  cases hempty : word.isEmpty with
  | false => rfl
  | true =>
      rw [String.isEmpty_iff.mp hempty] at h
      cases h

/-- What a document declares, it declares under names. -/
theorem Declares.isName (h : Declares document type field e) (named : ∀ d ∈ document, d.IsNamed) :
    isName type = true ∧ isName e.baseName = true := by
  obtain ⟨d, hd, rfl, hfield⟩ := h
  have hnamed : d.IsNamed := by
    rcases hd with hdefined | hextended
    · exact named _ hdefined
    · exact named _ hextended
  exact ⟨hnamed.name, (hnamed.content _ hfield).2⟩

theorem kindWord_extend (first added : Content) : kindWord (first.extend added) = kindWord first := by
  cases first <;> cases added <;> rfl

/-- An extension of the same kind adds its fields. -/
theorem declaredFields_extend {first added : Content} (h : kindWord first = kindWord added) :
    (first.extend added).declaredFields = first.declaredFields ++ added.declaredFields := by
  cases first <;> cases added
  case object.object => exact List.map_append
  case interface.interface => exact List.map_append
  case input.input => exact List.map_append
  all_goals first
    | rfl
    | exact absurd h (by simp [kindWord])

/-- Extensions keep the name of a type and add all their fields. -/
theorem foldl_extend {extensions : List Declaration} (d : Declaration)
    (h : ∀ added ∈ extensions, kindWord d.content = kindWord added.content) :
    (extensions.foldl Declaration.extend d).name = d.name ∧
      (extensions.foldl Declaration.extend d).content.declaredFields =
        d.content.declaredFields ++ extensions.flatMap (·.content.declaredFields) := by
  induction extensions generalizing d with
  | nil => exact ⟨rfl, (List.append_nil _).symm⟩
  | cons first rest ih =>
      obtain ⟨hfirst, hrest⟩ := List.forall_mem_cons.mp h
      have hkind : kindWord (d.extend first).content = kindWord d.content := kindWord_extend _ _
      obtain ⟨hname, hfields⟩ := ih (d.extend first) fun added hmem => hkind.trans (hrest added hmem)
      refine ⟨hname, ?_⟩
      rw [List.foldl_cons, hfields, List.flatMap_cons, ← List.append_assoc]
      congr 1
      exact declaredFields_extend hfirst

/-! ## Types with their extensions -/

/-- The extensions that a document makes to a type. -/
def additions (document : Document) (d : Declaration) : List Declaration :=
  (extensions document).filter (·.name = d.name)

/-- A type with the extensions that a document makes to it. -/
def extended (document : Document) (d : Declaration) : Declaration :=
  (additions document d).foldl Declaration.extend d

theorem mem_extensions_iff : d ∈ extensions document ↔ .extendType d ∈ document := by
  unfold extensions
  rw [List.mem_filterMap]
  constructor
  · rintro ⟨definition, hmem, h⟩
    cases definition with
    | extendType d' => cases h; exact hmem
    | _ => cases h
  · intro hmem
    exact ⟨.extendType d, hmem, rfl⟩

theorem mem_additions_iff :
    added ∈ additions document d ↔ .extendType added ∈ document ∧ added.name = d.name := by
  unfold additions
  rw [List.mem_filter, mem_extensions_iff, decide_eq_true_iff]

section Orderly

variable (orderly : Orderly document)
include orderly

/-- A name has one definition. -/
theorem Orderly.eq_of_name {first second : Declaration} (hfirst : .type first ∈ document)
    (hsecond : .type second ∈ document) (h : first.name = second.name) : first = second := by
  have hnodup : ((declarations document).map (·.name)).Nodup := by
    rw [map_name_declarations]
    exact orderly.types
  exact List.inj_on_of_nodup_map hnodup (mem_declarations_iff.mpr hfirst) (mem_declarations_iff.mpr hsecond) h

/-- The extensions of a type are of its kind. -/
theorem Orderly.kindWord_eq (hd : .type d ∈ document)
    (hadded : added ∈ additions document d) : kindWord d.content = kindWord added.content := by
  obtain ⟨hmem, hname⟩ := mem_additions_iff.mp hadded
  obtain ⟨first, hfirst, hfirstName, hkind⟩ := orderly.extensions added hmem
  have heq : first = d := orderly.eq_of_name hfirst hd (hfirstName.trans hname)
  rw [← heq, hkind]

theorem Orderly.name_extended (hd : .type d ∈ document) : (extended document d).name = d.name :=
  (foldl_extend d fun _ hadded => orderly.kindWord_eq hd hadded).1

theorem Orderly.declaredFields_extended (hd : .type d ∈ document) :
    (extended document d).content.declaredFields = d.content.declaredFields ++
      (additions document d).flatMap (·.content.declaredFields) :=
  (foldl_extend d fun _ hadded => orderly.kindWord_eq hd hadded).2

/-- **A field that is declared is one of the type with its extensions**, wherever it is declared. -/
theorem Orderly.exists_extended (h : Declares document type field e) :
    ∃ d, .type d ∈ document ∧ d.name = type ∧ (field, e) ∈ (extended document d).content.declaredFields := by
  obtain ⟨added, hmem, hname, hfield⟩ := h
  -- The fields of the definition come first, those of each extension behind them.
  rcases hmem with hdefined | hextended
  · refine ⟨added, hdefined, hname, ?_⟩
    rw [orderly.declaredFields_extended hdefined]
    exact List.mem_append_left _ hfield
  · obtain ⟨d, hd, hdname, _⟩ := orderly.extensions added hextended
    refine ⟨d, hd, hdname.trans hname, ?_⟩
    rw [orderly.declaredFields_extended hd]
    have hkept : added ∈ additions document d := mem_additions_iff.mpr ⟨hextended, hdname.symm⟩
    exact List.mem_append_right _ (List.mem_flatMap.mpr ⟨added, hkept, hfield⟩)

/-- The type with its extensions is what its name finds. -/
theorem Orderly.find?_extendedTypes (hd : .type d ∈ document) :
    (extendedTypes document).find? (·.name = d.name) = some (extended document d) := by
  have hmem : extended document d ∈ extendedTypes document :=
    List.mem_map.mpr ⟨d, mem_declarations_iff.mpr hd, rfl⟩
  cases hfind : (extendedTypes document).find? (·.name = d.name) with
  | none =>
      have hnot := List.find?_eq_none.mp hfind _ hmem
      exact absurd (decide_eq_true (orderly.name_extended hd)) hnot
  | some found =>
      have hname : found.name = d.name := by
        have hfound := List.find?_some hfind
        exact of_decide_eq_true hfound
      obtain ⟨d', hd', rfl⟩ := List.mem_map.mp (List.mem_of_find?_eq_some hfind)
      have hdefined : .type d' ∈ document := mem_declarations_iff.mp hd'
      have heq : d' = d := orderly.eq_of_name hdefined hd ((orderly.name_extended hdefined).symm.trans hname)
      rw [heq]
      rfl

end Orderly

/-! ### The fields of a type are declared once -/

theorem fieldNames_eq (d : Declaration) :
    fieldNames d = d.content.declaredFields.map fun p => (d.name, p.1) := by
  unfold fieldNames
  cases d.content <;> simp [Content.declaredFields]

/-- The fields of a document are those of its definitions and those of its extensions. -/
theorem addedFields_perm (document : Document) :
    (document.flatMap addedFields).Perm
      ((declarations document).flatMap fieldNames ++ (extensions document).flatMap fieldNames) := by
  induction document with
  | nil => exact List.Perm.nil
  | cons definition rest ih =>
      rw [List.flatMap_cons]
      cases definition with
      | type d =>
          show (fieldNames d ++ rest.flatMap addedFields).Perm
            ((fieldNames d ++ (declarations rest).flatMap fieldNames) ++ (extensions rest).flatMap fieldNames)
          rw [List.append_assoc]
          exact ih.append_left _
      | extendType d =>
          show (fieldNames d ++ rest.flatMap addedFields).Perm
            ((declarations rest).flatMap fieldNames ++ (fieldNames d ++ (extensions rest).flatMap fieldNames))
          exact (ih.append_left _).trans (List.perm_append_comm_assoc _ _ _)
      | _ => exact ih

/-- **A type with its extensions has each field once.** -/
theorem Orderly.nodup_declaredFields (orderly : Orderly document) (hd : .type d ∈ document) :
    ((extended document d).content.declaredFields.map (·.1)).Nodup := by
  -- An extension may stand before the definition, so the order of the document is of no use here: only which
  -- fields it declares is.
  have hnodup := (addedFields_perm document).nodup_iff.mp orderly.fields
  have hsublist : (fieldNames d ++ (additions document d).flatMap fieldNames).Sublist
      ((declarations document).flatMap fieldNames ++ (Sdl.extensions document).flatMap fieldNames) := by
    refine List.Sublist.append ?_ ?_
    · have hsingle : [d].Sublist (declarations document) :=
        List.singleton_sublist.mpr (mem_declarations_iff.mpr hd)
      simpa using hsingle.flatMap fieldNames
    · exact List.Sublist.flatMap List.filter_sublist fieldNames
  have hkeys : (extended document d).content.declaredFields.map (fun p => (d.name, p.1)) =
      fieldNames d ++ (additions document d).flatMap fieldNames := by
    rw [orderly.declaredFields_extended hd, List.map_append, List.map_flatMap, fieldNames_eq]
    congr 1
    refine List.flatMap_congr fun added hadded => ?_
    rw [fieldNames_eq, (mem_additions_iff.mp hadded).2]
  have hpairs := hnodup.sublist hsublist
  rw [← hkeys] at hpairs
  have hmap : (extended document d).content.declaredFields.map (fun p => (d.name, p.1)) =
      ((extended document d).content.declaredFields.map (·.1)).map fun field => (d.name, field) :=
    (List.map_map ..).symm
  rw [hmap] at hpairs
  exact hpairs.of_map

/-! ## The types of the schema -/

/-- The type that a service lists under a name: the standard one, if it is a scalar, else that of the
    document. -/
def listedType? (document : Document) (name : String) : Option Declaration :=
  match standardType? name with
  | some standard => if (standardScalars.lookup name).isSome then some standard else none
  | none => (extendedTypes document).find? (·.name = name)

theorem types_ofDocument (document : Document) :
    (TypeSystem.ofDocument document).types =
      (typeOrder document (Operation.all.filterMap (rootOf document))).filterMap (listedType? document) :=
  rfl

theorem name_of_listedType? {name : String} (h : listedType? document name = some d) : d.name = name := by
  unfold listedType? at h
  split at h
  next standard hstandard =>
    have hfound := List.find?_some hstandard
    split at h
    · cases h
      exact of_decide_eq_true hfound
    · cases h
  next =>
    have hfound := List.find?_some h
    exact of_decide_eq_true hfound

/-- A standard type that is listed has no fields. -/
theorem declaredFields_of_standard {name : String} {standard : Declaration}
    (hstandard : standardType? name = some standard) (h : listedType? document name = some d) :
    d.content.declaredFields = [] := by
  have hscalars : ∀ t ∈ standardTypes, (standardScalars.lookup t.name).isSome = true →
      t.content.declaredFields = [] := by
    decide
  have hname := name_of_listedType? h
  unfold listedType? at h
  rw [hstandard] at h
  simp only at h
  split at h
  next hscalar =>
    cases h
    refine hscalars _ (List.mem_of_find?_eq_some hstandard) ?_
    rw [hname]
    exact hscalar
  next => cases h

/-- A type that the document defines has its place in the order of the types. -/
theorem mem_typeOrder {roots : List String} (h : d ∈ extendedTypes document) :
    d.name ∈ typeOrder document roots := by
  unfold typeOrder arrange
  rw [List.mem_eraseDups, List.mem_flatMap]
  refine ⟨listedNames d, ?_, List.mem_cons_self⟩
  exact List.mem_append_left _ (List.mem_map.mpr ⟨d, h, rfl⟩)

namespace TypeSystem

/-- What a name finds in the schema of a document is the type that is listed under it. -/
theorem exists_of_get?_schema {name : String} {t : NamedType}
    (h : (ofDocument document).schema.types.get? name = some t) :
    ∃ d, listedType? document name = some d ∧ t = (ofDocument document).reportedType d := by
  have hpairs := (Keyed.get?_ofPairs _ _).symm.trans h
  obtain ⟨before, after, hsplit, _⟩ := List.lookup_eq_some_iff.mp hpairs
  have hmem : (name, t) ∈ (ofDocument document).types.map
      fun d => (d.name, (ofDocument document).reportedType d) := by
    rw [hsplit]
    exact List.mem_append_right _ List.mem_cons_self
  obtain ⟨d, hd, hpair⟩ := List.mem_map.mp hmem
  obtain ⟨hname, ht⟩ := Prod.mk.inj hpair
  rw [types_ofDocument] at hd
  obtain ⟨listed, _, hlisted⟩ := List.mem_filterMap.mp hd
  rw [← hname, name_of_listedType? hlisted]
  exact ⟨d, hlisted, ht.symm⟩

/-- A type that is listed is found in the schema. -/
theorem get?_schema (h : listedType? document d.name = some d) (hmem : d ∈ extendedTypes document) :
    (ofDocument document).schema.types.get? d.name = some ((ofDocument document).reportedType d) := by
  have htype : d ∈ (ofDocument document).types := by
    rw [types_ofDocument]
    exact List.mem_filterMap.mpr ⟨d.name, mem_typeOrder hmem, h⟩
  cases hget : (ofDocument document).schema.types.get? d.name with
  | none =>
      have hnone := (Keyed.get?_ofPairs _ _).symm.trans hget
      have hnot := List.lookup_eq_none_iff.mp hnone _ (List.mem_map.mpr ⟨d, htype, rfl⟩)
      simp at hnot
  | some t =>
      -- What is found is listed under the same name, and under a name one type is listed.
      obtain ⟨d', hd', rfl⟩ := exists_of_get?_schema hget
      cases h.symm.trans hd'
      rfl

/-- The fields of a type are reported under their names, each with what is seen of its type. -/
theorem fields_reportedBody (s : TypeSystem) (d : Declaration) :
    (s.reportedBody d).fields.map (fun f => (f.name, f.type)) =
      d.content.declaredFields.map fun p => (p.1, s.reportedRef p.2) := by
  unfold reportedBody
  cases d.content <;> simp [TypeBody.fields, Content.declaredFields, reportedField, reportedInput]

end TypeSystem

end Sdl

/-! ## What is loaded of a field -/

open Sdl

/-- The fields of a type under a name. -/
def Schema.fieldsNamed (s : Schema) (type field : String) : List Field :=
  (s.fieldsOf type).filter (·.name = field)

/-- Under distinct names a field is all that its name finds. -/
theorem filter_name_of_mem {fields : List Field} {f : Field} (hnodup : (fields.map (·.name)).Nodup)
    (h : f ∈ fields) : fields.filter (·.name = f.name) = [f] := by
  induction fields with
  | nil => cases h
  | cons first rest ih =>
      obtain ⟨hnot, hrest⟩ := List.nodup_cons.mp hnodup
      rcases List.mem_cons.mp h with rfl | hmem
      · have hnone : rest.filter (·.name = f.name) = [] := by
          rw [List.filter_eq_nil_iff]
          intro g hg hname
          exact hnot (List.mem_map.mpr ⟨g, hg, of_decide_eq_true hname⟩)
        rw [List.filter_cons_of_pos (by simp), hnone]
      · have hne : first.name ≠ f.name := by
          intro hname
          exact hnot (List.mem_map.mpr ⟨f, hmem, hname.symm⟩)
        rw [List.filter_cons_of_neg (by simpa using hne)]
        exact ih hrest hmem

section Loading

variable {text : List Char} {document : Document} {loaded : LoadedSchema} {type field : String} {e : TypeExpr}

/-- **A declared field is kept** if it is loaded once, with its type as it is spelt and the name inside. -/
def Schema.Keeps (s : Schema) (type field : String) (e : TypeExpr) : Prop :=
  ∃ f, s.fieldsNamed type field = [f] ∧ f.type.display = e.spelling ∧ f.type.baseName = e.baseName

/-- A document that loads is orderly, and its schema is what is loaded. -/
theorem orderly_of_loadSdl (load : loadSdl text = .ok loaded) (read : Sdl.readDocument text = .ok document) :
    Orderly document ∧ loaded.1 = (TypeSystem.ofDocument document).schema := by
  obtain ⟨document', put, _, rfl⟩ := exists_of_loadSdl load
  cases read.symm.trans put.read
  exact ⟨orderly_of_ruleFaults put.keepsRules, rfl⟩

/-- **A declared field is loaded once**, with what is seen of its type through the wrappers that are
    opened. -/
theorem exists_field_of_declares (load : loadSdl text = .ok loaded)
    (read : Sdl.readDocument text = .ok document) (declares : Declares document type field e)
    (own : standardType? type = none) :
    ∃ f, loaded.1.fieldsNamed type field = [f] ∧ f.type.display = (e.seen openedWrappers).spelling ∧
      f.type.baseName = (e.seen openedWrappers).baseName := by
  obtain ⟨orderly, hschema⟩ := orderly_of_loadSdl load read
  obtain ⟨htype, hname⟩ := declares.isName (isNamed_of_readDocument read)
  obtain ⟨d, hd, rfl, hfield⟩ := orderly.exists_extended declares
  -- The name of the type finds the definition with all its extensions, as it is reported.
  have hfields : loaded.1.fieldsOf d.name =
      ((TypeSystem.ofDocument document).reportedBody (extended document d)).fields := by
    have hmem : extended document d ∈ extendedTypes document :=
      List.mem_map.mpr ⟨d, mem_declarations_iff.mpr hd, rfl⟩
    have hlisted : listedType? document d.name = some (extended document d) := by
      unfold listedType?
      rw [own]
      exact orderly.find?_extendedTypes hd
    rw [← orderly.name_extended hd] at hlisted htype ⊢
    unfold Schema.fieldsOf Schema.get?
    rw [isEmpty_of_isName htype, hschema, if_neg Bool.false_ne_true, TypeSystem.get?_schema hlisted hmem]
    rfl
  have hreported := TypeSystem.fields_reportedBody (TypeSystem.ofDocument document) (extended document d)
  rw [← hfields] at hreported
  -- Reporting keeps the names of the fields, and these are distinct.
  have hnodup : ((loaded.1.fieldsOf d.name).map (·.name)).Nodup := by
    have hnames := congrArg (List.map Prod.fst) hreported
    rw [List.map_map, List.map_map] at hnames
    have hdeclared := orderly.nodup_declaredFields hd
    exact (hnames.symm ▸ hdeclared :)
  have hpair : (field, (TypeSystem.ofDocument document).reportedRef e) ∈
      (loaded.1.fieldsOf d.name).map fun f => (f.name, f.type) := by
    rw [hreported]
    exact List.mem_map.mpr ⟨(field, e), hfield, rfl⟩
  obtain ⟨f, hf, hpair⟩ := List.mem_map.mp hpair
  obtain ⟨rfl, hreference⟩ := Prod.mk.inj hpair
  refine ⟨f, filter_name_of_mem hnodup hf, ?_⟩
  rw [hreference]
  exact TypeSystem.opened_refOf _ _ _ (isEmpty_of_isName hname)

/-- A standard type has no fields, whatever is declared under its name. -/
theorem fieldsOf_of_standard (load : loadSdl text = .ok loaded) {standard : Declaration}
    (hstandard : standardType? type = some standard) : loaded.1.fieldsOf type = [] := by
  obtain ⟨document, _, _, rfl⟩ := exists_of_loadSdl load
  unfold Schema.fieldsOf Schema.get?
  cases type.isEmpty with
  | true => rfl
  | false =>
      rw [if_neg Bool.false_ne_true]
      cases hget : (TypeSystem.ofDocument document).schema.types.get? type with
      | none => rfl
      | some t =>
          obtain ⟨d, hlisted, rfl⟩ := TypeSystem.exists_of_get?_schema hget
          have hreported := TypeSystem.fields_reportedBody (TypeSystem.ofDocument document) d
          rw [declaredFields_of_standard hstandard hlisted] at hreported
          exact List.map_eq_nil_iff.mp hreported

/-- **Which declared types loading keeps.** For a field that a text declares, the schema has one field, and
    its type is what is seen of the declared type through the wrappers that are opened; only the fields that
    are declared under the name of a standard type are not loaded, because the standard type stands in its
    place. So the spelling of the declared type and the name inside are kept if and only if the field is not of
    a standard type and its type has no more wrappers than are opened, or one more around the very name that
    stands for the unknown. -/
theorem loadSdl_keeps_type_iff (load : loadSdl text = .ok loaded)
    (read : Sdl.readDocument text = .ok document) (declares : Declares document type field e) :
    (loaded.1.Keeps type field e ↔ standardType? type = none ∧
      (e.wrappers ≤ openedWrappers ∨
        (e.wrappers = openedWrappers + 1 ∧ e.baseName = TypeRef.unknownName))) ∧
    (standardType? type = none → ∃ f, loaded.1.fieldsNamed type field = [f] ∧
      f.type.display = (e.seen openedWrappers).spelling ∧
      f.type.baseName = (e.seen openedWrappers).baseName) ∧
    (standardType? type ≠ none → loaded.1.fieldsOf type = []) := by
  cases hstandard : standardType? type with
  | some standard =>
      have hfields := fieldsOf_of_standard load hstandard
      refine ⟨⟨?_, fun h => absurd h.1 (by simp)⟩, fun h => absurd h (by simp), fun _ => hfields⟩
      rintro ⟨f, hf, _⟩
      unfold Schema.fieldsNamed at hf
      rw [hfields] at hf
      cases hf
  | none =>
      have hexists := exists_field_of_declares load read declares hstandard
      refine ⟨?_, fun _ => hexists, fun h => absurd rfl h⟩
      obtain ⟨f, hf, hdisplay, hname⟩ := hexists
      rw [← e.seen_iff openedWrappers]
      constructor
      · rintro ⟨g, hg, hgdisplay, hgname⟩
        cases hf.symm.trans hg
        exact ⟨rfl, hdisplay.symm.trans hgdisplay, hname.symm.trans hgname⟩
      · rintro ⟨_, hspelling, hbase⟩
        exact ⟨f, hf, hdisplay.trans hspelling, hname.trans hbase⟩

/-! ### Types with five and with ten wrappers -/

/-- A matrix without gaps. -/
def matrix : TypeExpr := .nonNull (.listOf (.nonNull (.listOf (.nonNull (.named "Int")))))

/-- A list of lists, ten of them deep. -/
def deepList : TypeExpr := Nat.repeat TypeExpr.listOf 10 (.named "Int")

/-- A root with a field of either type. -/
def layeredText : List Char := "type Query { whole: [[Int!]!]! cut: [[[[[[[[[[Int]]]]]]]]]] }".toList

/-- The text loads, it declares both fields, and the type of the second is shown without its name. -/
theorem layeredText_loads :
    ∃ loaded document, loadSdl layeredText = .ok loaded ∧ Sdl.readDocument layeredText = .ok document ∧
      Declares document "Query" "whole" matrix ∧ Declares document "Query" "cut" deepList ∧
      (loaded.1.fieldsNamed "Query" "cut").map (fun f => (f.type.display, f.type.baseName)) =
        [("[[[[[[[[[[Unknown]]]]]]]]]]", "Unknown")] := by
  have hshown : (loadSdl layeredText).toOption.map (fun loaded =>
      (loaded.1.fieldsNamed "Query" "cut").map fun f => (f.type.display, f.type.baseName)) =
        some [("[[[[[[[[[[Unknown]]]]]]]]]]", "Unknown")] := by
    decide +kernel
  have hread : (Sdl.readDocument layeredText).toOption.map (fun document =>
      (declarations document).map fun d => (d.name, d.content.declaredFields)) =
        some [("Query", [("whole", matrix), ("cut", deepList)])] := by
    decide +kernel
  cases load : loadSdl layeredText with
  | error e => rw [load] at hshown; cases hshown
  | ok loaded =>
      cases read : Sdl.readDocument layeredText with
      | error e => rw [read] at hread; cases hread
      | ok document =>
          rw [load] at hshown
          rw [read] at hread
          have hlist : (declarations document).map (fun d => (d.name, d.content.declaredFields)) =
              [("Query", [("whole", matrix), ("cut", deepList)])] := Option.some.inj hread
          have hpair : ("Query", [("whole", matrix), ("cut", deepList)]) ∈
              (declarations document).map fun d => (d.name, d.content.declaredFields) := by
            rw [hlist]
            exact List.mem_cons_self
          obtain ⟨d, hd, hpair⟩ := List.mem_map.mp hpair
          obtain ⟨hname, hfields⟩ := Prod.mk.inj hpair
          have hdeclares : ∀ field e, (field, e) ∈ d.content.declaredFields →
              Declares document "Query" field e :=
            fun field e hfield => ⟨d, Or.inl (mem_declarations_iff.mp hd), hname, hfield⟩
          rw [hfields] at hdeclares
          refine ⟨loaded, document, rfl, rfl, ?_, ?_, Option.some.inj hshown⟩
          · exact hdeclares _ _ List.mem_cons_self
          · exact hdeclares _ _ (List.mem_cons_of_mem _ List.mem_cons_self)

/-- The matrix is kept. -/
theorem matrix_kept :
    ∃ loaded document, loadSdl layeredText = .ok loaded ∧ Sdl.readDocument layeredText = .ok document ∧
      Declares document "Query" "whole" matrix ∧ loaded.1.Keeps "Query" "whole" matrix := by
  obtain ⟨loaded, document, load, read, declares, _, _⟩ := layeredText_loads
  have hkeeps := (loadSdl_keeps_type_iff load read declares).1
  have hwrappers : matrix.wrappers ≤ openedWrappers := by decide
  exact ⟨loaded, document, load, read, declares, hkeeps.mpr ⟨by decide, Or.inl hwrappers⟩⟩

/-- The deep list is loaded with a name inside that nobody declared. -/
theorem deepList_not_kept :
    ∃ loaded document,
      loadSdl "type Query { whole: [[Int!]!]! cut: [[[[[[[[[[Int]]]]]]]]]] }".toList = .ok loaded ∧
      Sdl.readDocument "type Query { whole: [[Int!]!]! cut: [[[[[[[[[[Int]]]]]]]]]] }".toList = .ok document ∧
      Declares document "Query" "cut" deepList ∧ deepList.spelling = "[[[[[[[[[[Int]]]]]]]]]]" ∧
      ∃ f, loaded.1.fieldsNamed "Query" "cut" = [f] ∧ f.type.display = "[[[[[[[[[[Unknown]]]]]]]]]]" ∧
        f.type.baseName = "Unknown" ∧ ¬ loaded.1.Keeps "Query" "cut" deepList := by
  obtain ⟨loaded, document, load, read, _, declares, hshown⟩ := layeredText_loads
  obtain ⟨f, hf, hpair⟩ := List.map_eq_singleton_iff.mp hshown
  obtain ⟨hdisplay, hname⟩ := Prod.mk.inj hpair
  refine ⟨loaded, document, load, read, declares, by decide, f, hf, hdisplay, hname, ?_⟩
  rintro ⟨g, hg, _, hgname⟩
  cases hf.symm.trans hg
  exact absurd (hname.symm.trans hgname) (by decide)

end Loading

end GraphQLCache
