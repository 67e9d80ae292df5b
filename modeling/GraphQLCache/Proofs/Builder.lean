import GraphQLCache.Proofs.Synthesis

/-!
# `Proofs.Builder` — the equations of the selection builder

`Schema.selectionsOf` treats the entries of a level one by one, so it is `Schema.fieldSelection` mapped over
the selected entries (`selectionsOf_eq`). A field is bare where nothing can be nested, where the depth is used
up or where its base type is on the branch, and nested otherwise; what can be nested is told by the declared
type and the sample alone (`nesting?_of_record`, `nesting?_of_member`, …).
-/

namespace GraphQLCache

/-- The entries of an object other than its tag. -/
def ownEntries (entries : Entries) : Entries := entries.filter fun e => e.1 ≠ typenameKey

theorem mem_ownEntries {entries : Entries} {e : String × Json} :
    e ∈ ownEntries entries ↔ e ∈ entries ∧ e.1 ≠ typenameKey := by
  unfold ownEntries; rw [List.mem_filter, decide_eq_true_eq]

/-- The type under which an object is tagged. -/
def typename? (entries : Entries) : Option String := (Entries.get? entries typenameKey).bind Json.str?

theorem typename?_tagged (name : String) (members : Entries) :
    typename? ((typenameKey, .str name) :: members) = some name := by
  rw [typename?, Entries.get?_cons, if_pos rfl]; rfl

/-- The object that shows the shape of a field, whether or not it looks like a reference: the value itself, or
    the first item of a list. -/
def sampleObject? (type : TypeRef) (value : Json) : Option Entries :=
  if type.isList then value.arr?.bind fun items => items.head?.bind Json.obj? else value.obj?

theorem Json.eq_obj_of_obj? {value : Json} {entries : Entries} (h : value.obj? = some entries) :
    value = .obj entries := by
  cases value with
  | obj _ => cases h; rfl
  | _ => exact absurd h (by simp [Json.obj?])

theorem inlineObject?_of_obj {entries : Entries} (h : Entries.has entries refKey = false) :
    inlineObject? (.obj entries) = some entries := by
  rw [inlineObject?, h]; rfl

/-- Where no sample looks like a reference, the sample is the object that shows the shape. -/
theorem sampleOf?_eq {type : TypeRef} {value : Json}
    (h : ∀ sample, sampleObject? type value = some sample → Entries.has sample refKey = false) :
    sampleOf? type value = sampleObject? type value := by
  unfold sampleObject? at h ⊢
  unfold sampleOf?
  cases hlist : type.isList with
  | true =>
      simp only [hlist, if_true] at h ⊢
      cases value with
      | arr items =>
          cases items with
          | nil => rfl
          | cons first rest =>
              cases first with
              | obj entries => exact inlineObject?_of_obj (h entries rfl)
              | _ => rfl
      | _ => rfl
  | false =>
      simp only [hlist, Bool.false_eq_true, if_false] at h ⊢
      cases value with
      | obj entries => exact inlineObject?_of_obj (h entries rfl)
      | _ => rfl

theorem sampleOf?_of_some {type : TypeRef} {value : Json} {sample : Entries}
    (h : sampleObject? type value = some sample) (noReference : Entries.has sample refKey = false) :
    sampleOf? type value = some sample := by
  rw [sampleOf?_eq, h]
  intro sample' h'
  cases h.symm.trans h'
  exact noReference

theorem sampleOf?_of_none {type : TypeRef} {value : Json} (h : sampleObject? type value = none) :
    sampleOf? type value = none := by
  rw [sampleOf?_eq, h]
  intro sample h'
  cases h.symm.trans h'

namespace Schema

variable {s : Schema} {room : Nat} {visited : List String} {fields : List Field} {key : String} {value : Json}

theorem name_of_fieldNamed? {f : Field} (h : fieldNamed? fields key = some f) : f.name = key := by
  have hname := List.find?_some h
  exact of_decide_eq_true hname

theorem mem_of_fieldNamed? {f : Field} (h : fieldNamed? fields key = some f) : f ∈ fields :=
  List.mem_reverse.mp (List.mem_of_find?_eq_some h)

/-! ## One level -/

/-- The selection of one entry with `room` levels left, below the types in `visited`. -/
def fieldSelection (s : Schema) (room : Nat) (visited : List String) (fields : List Field)
    (e : String × Json) : Selection :=
  match (fieldNamed? fields e.1).bind fun f => s.nesting? f.type e.2 with
  | none => .bare e.1
  | some n =>
    match room with
    | 0 => .bare e.1
    | room + 1 =>
      if visited.contains n.base then .bare e.1
      else n.selection e.1 (s.selectionsOf room (n.names ++ visited) n.fields n.sample)

/-- **A level is built entry by entry**, in the order of the selected keys. -/
theorem selectionsOf_eq (entries : Entries) :
    s.selectionsOf room visited fields entries =
      (entries.filter fun e => isSelectedKey e.1).map (s.fieldSelection room visited fields) := by
  rw [selectionsOf]
  refine List.map_congr_left fun e _ => ?_
  unfold fieldSelection
  cases (fieldNamed? fields e.1).bind fun f => s.nesting? f.type e.2 with
  | none => rfl
  | some n => cases room <;> rfl

/-- Where all names are accepted, all keys but `__typename` are selected. -/
theorem filter_isSelectedKey {entries : Entries}
    (h : ∀ e ∈ ownEntries entries, isAcceptedName e.1 = true) :
    (entries.filter fun e => isSelectedKey e.1) = ownEntries entries := by
  refine List.filter_congr fun e he => ?_
  by_cases hkey : e.1 = typenameKey
  · rw [isSelectedKey, decide_eq_false (not_not_intro hkey), hkey]; rfl
  · rw [isSelectedKey, h e (mem_ownEntries.mpr ⟨he, hkey⟩), Bool.and_true]; rfl

/-- The nesting of an entry under the declaration of its key. -/
def entryNesting? (s : Schema) (fields : List Field) (key : String) (value : Json) : Option Nesting :=
  (fieldNamed? fields key).bind fun f => s.nesting? f.type value

theorem entryNesting?_of_named {f : Field} (h : fieldNamed? fields key = some f) :
    s.entryNesting? fields key value = s.nesting? f.type value := by
  rw [entryNesting?, h, Option.bind_some]

/-- A field that cannot be nested is bare. -/
theorem fieldSelection_of_none (h : s.entryNesting? fields key value = none) :
    s.fieldSelection room visited fields (key, value) = .bare key := by
  unfold entryNesting? at h
  rw [fieldSelection, h]

/-- A field whose base type is on the branch is bare. -/
theorem fieldSelection_of_visited
    (h : ∀ n, s.entryNesting? fields key value = some n → n.base ∈ visited) :
    s.fieldSelection room visited fields (key, value) = .bare key := by
  cases hn : s.entryNesting? fields key value with
  | none => exact fieldSelection_of_none hn
  | some n =>
      have hmem := List.contains_iff_mem.mpr (h n hn)
      unfold entryNesting? at hn
      rw [fieldSelection, hn]
      cases room with
      | zero => rfl
      | succ room => exact if_pos hmem

/-- A field that can be nested is, where a level is left and its base type is not on the branch. -/
theorem fieldSelection_of_nesting {n : Nesting} (h : s.entryNesting? fields key value = some n)
    (hfresh : n.base ∉ visited) :
    s.fieldSelection (room + 1) visited fields (key, value) =
      n.selection key (s.selectionsOf room (n.names ++ visited) n.fields n.sample) := by
  unfold entryNesting? at h
  rw [fieldSelection, h]
  exact if_neg fun hc => hfresh (List.contains_iff_mem.mp hc)

/-! ## What can be nested -/

variable {type : TypeRef} {t : NamedType} {sample : Entries}

/-- Whatever is nested has the base name of the declared type. -/
theorem base_of_nesting? {n : Nesting} (h : s.nesting? type value = some n) : n.base = type.baseName := by
  obtain ⟨t, _, h⟩ := Option.bind_eq_some_iff.mp h
  obtain ⟨sample, _, h⟩ := Option.bind_eq_some_iff.mp h
  split at h
  · cases h; rfl
  · cases h; rfl
  · obtain ⟨concrete, _, h⟩ := Option.bind_eq_some_iff.mp h
    dsimp only at h
    split at h
    · exact absurd h (by simp)
    · cases h; rfl
  · obtain ⟨concrete, _, h⟩ := Option.bind_eq_some_iff.mp h
    dsimp only at h
    split at h
    · exact absurd h (by simp)
    · cases h; rfl
  · exact absurd h (by simp)
  · exact absurd h (by simp)

/-- Without a sample nothing is nested. -/
theorem nesting?_of_noSample (h : sampleOf? type value = none) : s.nesting? type value = none := by
  unfold nesting?
  cases s.get? type.baseName with
  | none => rfl
  | some t => rw [h]; rfl

/-- Under an object type the fields of the type are nested. -/
theorem nesting?_of_record (hget : s.get? type.baseName = some t)
    (hsample : sampleOf? type value = some sample) (h : t.body.recordFields? = some fields) :
    s.nesting? type value = some ⟨type.baseName, none, fields, sample⟩ := by
  unfold nesting?
  rw [hget, hsample]
  rcases TypeBody.recordFields?_cases h with ⟨_, hb⟩ | hb
  · simp [hb]
  · simp [hb]

/-- Under an interface or a union the fields of the tagged type are nested, if it has any. -/
theorem nesting?_of_abstract (hget : s.get? type.baseName = some t)
    (hsample : sampleOf? type value = some sample) (h : t.body.isAbstract = true) {concrete : String}
    (htag : typename? sample = some concrete) :
    s.nesting? type value =
      if (s.fieldsOf concrete).isEmpty then none
      else some ⟨type.baseName, some concrete, s.fieldsOf concrete, sample⟩ := by
  unfold nesting?
  unfold typename? typenameKey at htag
  rw [hget, hsample]
  rcases TypeBody.isAbstract_cases h with ⟨_, _, hb⟩ | ⟨_, hb⟩
  · simp [hb, htag]
  · simp [hb, htag]

end Schema

/-! ## Documents -/

/-- The selections of a document are those of its tree, where the type has fields. -/
theorem selections_of_document {s : Schema} {type : String} (hfields : s.fieldsOf type ≠ []) (tree : Entries)
    (fragment : String) (maxDepth : Int) :
    (s.selectionDocument type tree fragment maxDepth).selections =
      Selection.orTypename (s.selectionsOf maxDepth.toNat [] (s.fieldsOf type) tree) := by
  have hempty : (s.fieldsOf type).isEmpty = false := by
    rw [← Bool.not_eq_true, List.isEmpty_iff]; exact hfields
  simp only [Schema.selectionDocument, hempty, Bool.false_eq_true, if_false]

end GraphQLCache
