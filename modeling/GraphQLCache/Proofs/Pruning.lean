import GraphQLCache.Proofs.SelectedKeys

/-!
# `Proofs.Pruning` — what a schema leaves of the shape of a value

A value has two documents: one is guided by the declarations of its type, the other by the shape of the value
alone. The first is a pruning of the second. To be compared they are brought into one form: `plainSet` puts
the contents of inline fragments in their place and takes a set that is nothing but the field `__typename`
for no set. `IsPruning` then says that both have the same fields in the same order, and that a field which
the first one nests is nested by the second as well, with a pruning below it.

The two builders sample values by rules of their own. What makes them agree is that a declaration only ever
withholds a sample: where it allows one, the shape shows the same object (`shapeOf?_of_nesting?`).
-/

namespace GraphQLCache

/-! ## Selection sets in plain form -/

/-- A set without the field that stands in an empty one. -/
def withoutTag : List Selection → List Selection
  | [.field "__typename" []] => []
  | set => set

mutual

/-- A selection as plain fields: itself, or the contents of an inline fragment. -/
def Selection.plain : Selection → List Selection
  | .field name below => [.field name (withoutTag (plainFields below))]
  | .inlineOn _ below => withoutTag (plainFields below)

/-- Selections as plain fields, one after the other. -/
def plainFields : List Selection → List Selection
  | [] => []
  | s :: rest => s.plain ++ plainFields rest

end

/-- **A selection set in plain form**: at no level is there an inline fragment, or the field that stands in an
    empty set. -/
def plainSet (set : List Selection) : List Selection := withoutTag (plainFields set)

theorem withoutTag_of_ne {set : List Selection} (h : set ≠ [.bare "__typename"]) : withoutTag set = set := by
  unfold withoutTag
  split
  · exact absurd rfl h
  · rfl

theorem withoutTag_withoutTag (set : List Selection) : withoutTag (withoutTag set) = withoutTag set := by
  by_cases h : set = [.bare "__typename"]
  · rw [h]; rfl
  · rw [withoutTag_of_ne h, withoutTag_of_ne h]

theorem plain_bare (name : String) : (Selection.bare name).plain = [.bare name] := by
  rw [Selection.bare, Selection.plain, plainFields]
  rfl

/-- In plain form the field that stands in an empty set is gone. -/
theorem plainSet_tag : plainSet [.bare "__typename"] = [] := by
  rw [plainSet, plainFields, plain_bare, plainFields]
  rfl

/-- The inline fragment of a nesting does not show in plain form. -/
theorem plain_selection (n : Schema.Nesting) (key : String) (below : List Selection) :
    (n.selection key below).plain = [.field key (plainSet (Selection.orTypename below))] := by
  unfold Schema.Nesting.selection
  cases n.concrete with
  | none => rw [Selection.plain, plainSet]
  | some concrete =>
      rw [Selection.plain, plainFields, plainFields, List.append_nil, Selection.plain, withoutTag_withoutTag,
        plainSet]

/-! ## Prunings -/

/-- **A pruning of a selection set**: the same fields in the same order, each of them bare, or nested in both
    with a pruning below. -/
inductive IsPruning : List Selection → List Selection → Prop
  | nil : IsPruning [] []
  | bare {name below pruned set} (rest : IsPruning pruned set) :
      IsPruning (.bare name :: pruned) (.field name below :: set)
  | nested {name kept below pruned set} (nestedHere : kept ≠ []) (nestedThere : below ≠ [])
      (within : IsPruning kept below) (rest : IsPruning pruned set) :
      IsPruning (.field name kept :: pruned) (.field name below :: set)

variable {pruned set : List Selection}

/-- A pruning has the names of the set, in the same order. -/
theorem IsPruning.fieldNames_eq (h : IsPruning pruned set) :
    pruned.map Selection.fieldName? = set.map Selection.fieldName? := by
  induction h with
  | nil => rfl
  | bare rest ih => rw [List.map_cons, List.map_cons, ih]; rfl
  | nested _ _ _ rest _ ih => rw [List.map_cons, List.map_cons, ih]; rfl

theorem IsPruning.eq_nil_iff (h : IsPruning pruned set) : pruned = [] ↔ set = [] := by
  rw [← List.map_eq_nil_iff (f := Selection.fieldName?), h.fieldNames_eq, List.map_eq_nil_iff]

/-- A field with a pruning below it, empty or not, in front of a pruning. -/
theorem IsPruning.cons {name : String} {kept below : List Selection} (within : IsPruning kept below)
    (rest : IsPruning pruned set) : IsPruning (.field name kept :: pruned) (.field name below :: set) := by
  by_cases h : kept = []
  · rw [h]; exact .bare rest
  · exact .nested h (fun hbelow => h (within.eq_nil_iff.mpr hbelow)) within rest

/-! ## One level of the two builders -/

/-- The selection of one entry by its shape, with `room` levels left. -/
def shapeSelection (room : Nat) (e : String × Json) : Selection :=
  match shapeOf? e.2 with
  | none => .bare e.1
  | some sample =>
    match room with
    | 0 => .bare e.1
    | room + 1 => .field e.1 (shapeSelections room sample)

theorem shapeSelections_eq (room : Nat) (entries : Entries) :
    shapeSelections room entries =
      (entries.filter fun e => isSelectedKey e.1).map (shapeSelection room) := by
  rw [shapeSelections]
  refine List.map_congr_left fun e _ => ?_
  unfold shapeSelection
  cases shapeOf? e.2 with
  | none => rfl
  | some sample => cases room <;> rfl

theorem fieldName?_shapeSelection (room : Nat) (e : String × Json) :
    (shapeSelection room e).fieldName? = some e.1 := by
  unfold shapeSelection
  cases shapeOf? e.2 with
  | none => rfl
  | some sample => cases room <;> rfl

theorem fieldNames_shapeSelections (room : Nat) (object : Entries) :
    (shapeSelections room object).map Selection.fieldName? = (selectableKeys object).map some := by
  rw [shapeSelections_eq, selectableKeys, Entries.keys, List.filter_map, List.map_map, List.map_map]
  exact List.map_congr_left fun e _ => fieldName?_shapeSelection room e

theorem shapeSelection_of_shape {room : Nat} {e : String × Json} {sample : Entries}
    (h : shapeOf? e.2 = some sample) :
    shapeSelection (room + 1) e = .field e.1 (shapeSelections room sample) := by
  rw [shapeSelection, h]

/-- `__typename` is no selectable key, so no level comes to this field alone. -/
theorem selectableKeys_ne_tag (object : Entries) : (selectableKeys object).map some ≠ [some "__typename"] := by
  intro h
  have hsome : some "__typename" ∈ (selectableKeys object).map some := by
    rw [h]
    exact List.mem_singleton_self _
  obtain ⟨key, hkey, heq⟩ := List.mem_map.mp hsome
  cases heq
  exact absurd (List.mem_filter.mp hkey).2 (by decide)

namespace Schema

variable {s : Schema} {room : Nat}

/-- **A sample that a declaration allows is the one that the shape shows.** -/
theorem shapeOf?_of_nesting? {type : TypeRef} {value : Json} {n : Nesting}
    (h : s.nesting? type value = some n) :
    shapeOf? value = some n.sample := by
  have hshows : ∀ object, Shows type value object → Entries.has object refKey = false →
      shapeOf? value = some object := by
    intro object shown written
    cases shown with
    | itself _ => exact inlineObject?_of_obj written
    | first _ => exact inlineObject?_of_obj written
  cases nesting?_eq_some_iff.mp h with
  | record shown written _ _ => exact hshows _ shown written
  | member shown written _ _ _ _ => exact hshows _ shown written

/-- **One field**: where the schema nests it, so does the shape, with a pruning below. -/
theorem exists_plain_fieldSelection
    (below : ∀ room' < room, ∀ branch fields object,
      IsPruning (plainSet (Selection.orTypename (s.selectionsOf room' branch fields object)))
        (shapeSelections room' object))
    (branch : List String) (fields : List Field) (e : String × Json) :
    ∃ kept, (s.fieldSelection room branch fields e).plain = [.field e.1 kept] ∧
      (kept = [] ∨ ∃ set, shapeSelection room e = .field e.1 set ∧ IsPruning kept set) := by
  unfold fieldSelection
  cases hn : (fieldNamed? fields e.1).bind fun f => s.nesting? f.type e.2 with
  | none => exact ⟨[], plain_bare e.1, Or.inl rfl⟩
  | some n =>
      obtain ⟨f, _, hnesting⟩ := Option.bind_eq_some_iff.mp hn
      cases room with
      | zero => exact ⟨[], plain_bare e.1, Or.inl rfl⟩
      | succ room =>
          dsimp only
          by_cases hvisited : branch.contains n.base = true
          · rw [if_pos hvisited]
            exact ⟨[], plain_bare e.1, Or.inl rfl⟩
          · rw [if_neg hvisited]
            refine ⟨_, plain_selection n e.1 _, Or.inr ⟨shapeSelections room n.sample, ?_, ?_⟩⟩
            · exact shapeSelection_of_shape (shapeOf?_of_nesting? hnesting)
            · exact below room (Nat.lt_succ_self room) _ _ _

/-- The plain form of one level prunes the shape, if the levels below do. -/
theorem plainFields_prunes
    (below : ∀ room' < room, ∀ branch fields object,
      IsPruning (plainSet (Selection.orTypename (s.selectionsOf room' branch fields object)))
        (shapeSelections room' object))
    (branch : List String) (fields : List Field) (object : Entries) :
    IsPruning (plainFields (s.selectionsOf room branch fields object)) (shapeSelections room object) := by
  rw [selectionsOf_eq, shapeSelections_eq]
  induction object.filter fun e => isSelectedKey e.1 with
  | nil => rw [List.map_nil, List.map_nil, plainFields]; exact .nil
  | cons e rest ih =>
      obtain ⟨kept, hplain, hkept⟩ := exists_plain_fieldSelection below branch fields e
      rw [List.map_cons, List.map_cons, plainFields, hplain, List.singleton_append]
      rcases hkept with rfl | ⟨set, hset, within⟩
      · have hname := fieldName?_shapeSelection room e
        cases hshape : shapeSelection room e with
        | field name set =>
            rw [hshape] at hname
            cases hname
            exact .bare ih
        | inlineOn type set =>
            rw [hshape] at hname
            cases hname
      · rw [hset]
        exact .cons within ih

/-- **The builder that is guided by a schema prunes the shape**, level by level. The induction is on the levels
    that are left. -/
theorem selectionsOf_prunes (room : Nat) (branch : List String) (fields : List Field) (object : Entries) :
    IsPruning (plainSet (Selection.orTypename (s.selectionsOf room branch fields object)))
      (shapeSelections room object) := by
  induction room using Nat.strong_induction_on generalizing branch fields object with
  | _ room ih =>
      have hlevel := plainFields_prunes ih branch fields object
      -- an empty level gets the field that stands in an empty set, which plain form takes away again
      cases hempty : (s.selectionsOf room branch fields object).isEmpty with
      | true =>
          rw [List.isEmpty_iff.mp hempty] at hlevel ⊢
          rw [plainFields] at hlevel
          show IsPruning (plainSet [.bare "__typename"]) _
          rw [plainSet_tag]
          exact hlevel
      | false =>
          rw [Selection.orTypename, hempty, if_neg Bool.false_ne_true, plainSet, withoutTag_of_ne]
          · exact hlevel
          · intro htag
            refine selectableKeys_ne_tag object ?_
            rw [← fieldNames_shapeSelections room, ← hlevel.fieldNames_eq, htag]
            rfl

/-! ## Documents -/

/-- The root set is the field `__typename` alone exactly where the shape selects nothing. -/
theorem orTypename_eq_tag_iff (branch : List String) (fields : List Field) (object : Entries) :
    Selection.orTypename (s.selectionsOf room branch fields object) = [.bare "__typename"] ↔
      shapeSelections room object = [] := by
  have hkeys : s.selectionsOf room branch fields object = [] ↔ shapeSelections room object = [] := by
    rw [selectionsOf_eq, shapeSelections_eq, List.map_eq_nil_iff, List.map_eq_nil_iff]
  rw [← hkeys, Selection.orTypename]
  constructor
  · intro h
    by_cases hempty : (s.selectionsOf room branch fields object).isEmpty = true
    · exact List.isEmpty_iff.mp hempty
    · rw [if_neg hempty] at h
      have hnames : (s.selectionsOf room branch fields object).map Selection.fieldName? =
          (selectableKeys object).map some := fieldNames_selectionsOf
      rw [h] at hnames
      exact absurd hnames.symm (selectableKeys_ne_tag object)
  · intro h
    rw [h]
    rfl

/-- **The document that is guided by a schema prunes the one that goes by the shape.** For a type with declared
    fields, whatever the schema, the value and the depth bound, there is no document by the shape exactly where
    the root set of the other one is the field `__typename` alone, and where there is one, the other one in
    plain form is a pruning of it. -/
theorem document_prunes_shape (s : Schema) {type : String} (hfields : s.fieldsOf type ≠ []) (value : Entries)
    (fragment : String) (maxDepth : Int) :
    (shapeDocument? type value maxDepth = none ↔
      (s.selectionDocument type value fragment maxDepth).selections = [.bare "__typename"]) ∧
    ∀ shape, shapeDocument? type value maxDepth = some shape →
      IsPruning (plainSet (s.selectionDocument type value fragment maxDepth).selections) shape.selections := by
  rw [selections_of_document hfields, orTypename_eq_tag_iff, shapeDocument?]
  by_cases hempty : (shapeSelections maxDepth.toNat value).isEmpty = true
  · rw [if_pos hempty]
    refine ⟨⟨fun _ => List.isEmpty_iff.mp hempty, fun _ => rfl⟩, ?_⟩
    intro shape h
    cases h
  · rw [if_neg hempty]
    refine ⟨⟨?_, fun h => absurd (List.isEmpty_iff.mpr h) hempty⟩, ?_⟩
    · intro h
      cases h
    · intro shape h
      cases h
      exact selectionsOf_prunes _ _ _ _

/-- What is left of the shape of a filled shelf: the box, through its inline fragment, but neither what stands
    in a lid without keys nor what is below an entry that shelves do not declare. -/
theorem filledShelf_document_prunes_shape :
    Shelf.schema.fieldsOf "Shelf" ≠ [] ∧
    ∃ shape, shapeDocument? "Shelf" filledShelf 3 = some shape ∧
      shape.print =
        "fragment CacheEdit on Shelf \x7b\n  item \x7b\n    lid\n    id\n  \x7d\n  boxes \x7b\n    lid\n  \x7d\n" ++
          "  note \x7b\n    text\n  \x7d\n\x7d" ∧
      IsPruning (plainSet (Shelf.schema.selectionDocument "Shelf" filledShelf "" 3).selections)
        shape.selections := by
  have hfields : Shelf.schema.fieldsOf "Shelf" ≠ [] := by decide
  have hprint : (shapeDocument? "Shelf" filledShelf 3).map Fragment.print = some
      ("fragment CacheEdit on Shelf \x7b\n  item \x7b\n    lid\n    id\n  \x7d\n  boxes \x7b\n    lid\n  \x7d\n" ++
        "  note \x7b\n    text\n  \x7d\n\x7d") := by decide +kernel
  obtain ⟨shape, hshape, htext⟩ := Option.map_eq_some_iff.mp hprint
  exact ⟨hfields, shape, hshape, htext,
    (document_prunes_shape Shelf.schema hfields filledShelf "" 3).2 shape hshape⟩

end Schema

end GraphQLCache
