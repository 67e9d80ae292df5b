import Mathlib
import GraphQLCache.Proofs.Regular
import GraphQLCache.Proofs.SelectedKeys

/-!
# `Proofs.Branches` — nesting is cut on every branch

A branch goes down a selection tree, through fields that have a selection set and through inline fragments
(`Schema.IsBranch`). It is read off the tree and the schema alone: the base type of a field is that of its
declaration, in the type of the inline fragment or the base type that the branch has come through last.

`document_branches_are_cut` says that however deep the data and however cyclic the schema, a branch has no more
such fields than the depth bound, their base types are distinct, and none of them is the type condition of an
inline fragment above. The induction goes down the branch; what it carries is where in the tree the branch has
come to (`Schema.IsLevel`), and that all types that were passed stand among those the builder has visited.
-/

namespace GraphQLCache

/-- What a branch goes through: a field that has a selection set, known by the base type of its declaration, if
    it is declared, or an inline fragment, known by its type condition. -/
inductive Passage where
  | field (base : Option String)
  | fragment (condition : String)

/-- A field below an inline fragment has another base type than the type condition. -/
def Passage.Apart : (above below : Passage) → Prop
  | .fragment condition, .field base => base ≠ some condition
  | _, _ => True

/-- The base types of the fields on a branch, from above. -/
def baseNames : List Passage → List (Option String)
  | [] => []
  | .field base :: rest => base :: baseNames rest
  | .fragment _ :: rest => baseNames rest

theorem mem_baseNames {branch : List Passage} {base : Option String} :
    base ∈ baseNames branch ↔ .field base ∈ branch := by
  induction branch with
  | nil => simp [baseNames]
  | cons passage rest ih =>
      cases passage with
      | field base' => simp [baseNames, ih]
      | fragment condition => simp [baseNames, ih]

/-- **A branch that is cut**: it goes through no more fields than the depth bound, all of them declared, with
    base types that are distinct, and none of these is the type condition of an inline fragment above. -/
structure IsCutBranch (maxDepth : Int) (branch : List Passage) : Prop where
  few : ((baseNames branch).length : Int) ≤ max maxDepth 0
  declared : none ∉ baseNames branch
  distinct : (baseNames branch).Nodup
  apart : branch.Pairwise Passage.Apart

namespace Schema

/-- The base type of a field under the declarations of its level. -/
def baseIn? (fields : List Field) (key : String) : Option String :=
  (fieldNamed? fields key).map fun f => f.type.baseName

/-- The declarations below a field of that base type; a field that is not declared has none. -/
def fieldsUnder (s : Schema) : Option String → List Field
  | some base => s.fieldsOf base
  | none => []

/-- **A branch of a selection set** that stands under the declarations `fields`. It may stop anywhere. -/
inductive IsBranch (s : Schema) : List Field → List Selection → List Passage → Prop
  | stop {fields set} : IsBranch s fields set []
  | field {fields set key below branch} (held : Selection.field key below ∈ set) (nested : below ≠ [])
      (rest : IsBranch s (s.fieldsUnder (baseIn? fields key)) below branch) :
      IsBranch s fields set (.field (baseIn? fields key) :: branch)
  | fragment {fields set condition below branch} (held : Selection.inlineOn condition below ∈ set)
      (rest : IsBranch s (s.fieldsOf condition) below branch) :
      IsBranch s fields set (.fragment condition :: branch)

variable {s : Schema} {room : Nat} {visited : List String} {fields : List Field} {object : Entries}
  {set below : List Selection} {branch : List Passage} {key base condition : String}

/-! ## Below the types that were visited -/

/-- **What is left of a branch** with `room` levels left below the types in `visited`. -/
structure CutBelow (room : Nat) (visited : List String) (branch : List Passage) : Prop where
  few : (baseNames branch).length ≤ room
  fresh : ∀ base ∈ baseNames branch, ∃ name, base = some name ∧ name ∉ visited
  distinct : (baseNames branch).Nodup
  apart : branch.Pairwise Passage.Apart

theorem CutBelow.nil : CutBelow room visited [] where
  few := Nat.zero_le room
  fresh := by simp [baseNames]
  distinct := List.nodup_nil
  apart := List.Pairwise.nil

/-- A type that was visited is no base type further down. -/
theorem CutBelow.not_mem (h : CutBelow room visited branch) (hvisited : base ∈ visited) :
    some base ∉ baseNames branch := by
  intro hmem
  obtain ⟨name, heq, hfresh⟩ := h.fresh _ hmem
  cases heq
  exact hfresh hvisited

/-- A field of a new base type comes before a branch below which this type, and maybe others, are visited. -/
theorem CutBelow.field {visited' : List String} (h : CutBelow room visited' branch) (hfresh : base ∉ visited)
    (hbase : base ∈ visited') (hsub : visited ⊆ visited') :
    CutBelow (room + 1) visited (.field (some base) :: branch) where
  few := Nat.succ_le_succ h.few
  fresh := by
    intro b hb
    rcases List.mem_cons.mp hb with rfl | hrest
    · exact ⟨base, rfl, hfresh⟩
    · obtain ⟨name, heq, hnew⟩ := h.fresh b hrest
      exact ⟨name, heq, fun hold => hnew (hsub hold)⟩
  distinct := List.nodup_cons.mpr ⟨h.not_mem hbase, h.distinct⟩
  apart := by
    refine List.pairwise_cons.mpr ⟨?_, h.apart⟩
    intro below _
    cases below <;> trivial

/-- An inline fragment on a type that is visited comes before any branch. -/
theorem CutBelow.fragment (h : CutBelow room visited branch) (hvisited : condition ∈ visited) :
    CutBelow room visited (.fragment condition :: branch) where
  few := h.few
  fresh := h.fresh
  distinct := h.distinct
  apart := by
    refine List.pairwise_cons.mpr ⟨?_, h.apart⟩
    intro below hbelow
    cases below with
    | field base =>
        rintro rfl
        exact h.not_mem hvisited (mem_baseNames.mpr hbelow)
    | fragment condition' => trivial

theorem CutBelow.isCutBranch {maxDepth : Int} (h : CutBelow maxDepth.toNat [] branch) :
    IsCutBranch maxDepth branch where
  few := by
    have hfew := h.few
    omega
  declared := by
    intro hnone
    obtain ⟨name, heq, -⟩ := h.fresh none hnone
    cases heq
  distinct := h.distinct
  apart := h.apart

/-! ## Down the tree -/

/-- **Where a branch has come to**: a set that selects an object, or the inline fragment around such a set, on a
    type that is visited. -/
inductive IsLevel (s : Schema) (room : Nat) (visited : List String) : List Field → List Selection → Prop
  | set {fields : List Field} {object : Entries} {set : List Selection}
      (selects : s.SetSelects room visited fields object set) : IsLevel s room visited fields set
  | fragment {fields : List Field} {condition : String} {object : Entries} {set : List Selection}
      (hvisited : condition ∈ visited)
      (selects : s.SetSelects room visited (s.fieldsOf condition) object set) :
      IsLevel s room visited fields [.inlineOn condition set]

/-- A set that selects an object has no inline fragments among its fields. -/
theorem SetSelects.not_inlineOn (h : s.SetSelects room visited fields object set) :
    Selection.inlineOn condition below ∉ set := by
  intro hmem
  cases h with
  | tag hnone => simp [Selection.bare] at hmem
  | keys _ names _ _ =>
      have hname : Option.none ∈ (selectableKeys object).map Option.some := by
        rw [← names]
        exact List.mem_map.mpr ⟨_, hmem, rfl⟩
      simp at hname

/-- The fields that a nesting puts below are those of the type of its inline fragment or, where there is none, of
    its base type. -/
theorem Nestable.fields_eq {type : TypeRef} {value : Json} {n : Nesting} (h : s.Nestable type value n) :
    n.fields = s.fieldsOf (n.concrete.getD n.base) := by
  cases h with
  | record _ _ found record =>
      rw [Option.getD_none, fieldsOf_of_get? found, TypeBody.fields_of_recordFields record]
  | member => rfl

/-- What stands below a nested field is a level below the types that its nesting has passed. -/
theorem Nestable.isLevel_around {type : TypeRef} {value : Json} {n : Nesting} (h : s.Nestable type value n)
    (selects : s.SetSelects room (n.names ++ visited) n.fields n.sample set) :
    s.IsLevel room (n.names ++ visited) (s.fieldsOf n.base) (n.around set) := by
  have hfields := h.fields_eq
  unfold Nesting.around
  cases hconcrete : n.concrete with
  | none =>
      rw [hconcrete, Option.getD_none] at hfields
      rw [hfields] at selects
      exact .set selects
  | some concrete =>
      rw [hconcrete, Option.getD_some] at hfields
      rw [hfields] at selects
      have hvisited : concrete ∈ n.names ++ visited := by
        simp [Nesting.names, hconcrete]
      exact .fragment hvisited selects

/-- **One step down**: a field that has a selection set uses up a level, its base type is new, and below it stands
    a level where this type is visited as well. -/
theorem SetSelects.exists_below (h : s.SetSelects room visited fields object set)
    (held : Selection.field key below ∈ set) (nested : below ≠ []) :
    ∃ room' base visited', room = room' + 1 ∧ baseIn? fields key = some base ∧ base ∉ visited ∧
      base ∈ visited' ∧ visited ⊆ visited' ∧ s.IsLevel room' visited' (s.fieldsOf base) below := by
  cases h with
  | tag hnone =>
      simp [Selection.bare] at held
      exact absurd held.2 nested
  | keys _ _ _ each =>
      cases each key below held with
      | bare _ _ => exact absurd rfl nested
      | @nested room' _ _ _ _ value f n set _ declared nestable fresh selects =>
          have hbase : n.base = f.type.baseName := base_of_nesting? (nesting?_eq_some_iff.mpr nestable)
          have hdeclared : baseIn? fields key = some n.base := by
            rw [baseIn?, declared, Option.map_some, hbase]
          refine ⟨room', n.base, n.names ++ visited, rfl, hdeclared, fresh, ?_, ?_, nestable.isLevel_around selects⟩
          · simp [Nesting.names]
          · exact List.subset_append_right _ _

/-- **Every branch below a level is cut**, by induction down the branch. -/
theorem IsBranch.cutBelow (hbranch : s.IsBranch fields set branch) (hlevel : s.IsLevel room visited fields set) :
    CutBelow room visited branch := by
  induction hbranch generalizing room visited with
  | stop => exact .nil
  | field held nested rest ih =>
      cases hlevel with
      | set selects =>
          obtain ⟨room', base, visited', rfl, hdeclared, hfresh, hbase, hsub, hbelow⟩ :=
            selects.exists_below held nested
          rw [hdeclared] at ih ⊢
          exact (ih hbelow).field hfresh hbase hsub
      | fragment => simp at held
  | fragment held rest ih =>
      cases hlevel with
      | set selects => exact absurd held selects.not_inlineOn
      | fragment hvisited selects =>
          obtain ⟨rfl, rfl⟩ := Selection.inlineOn.inj (List.mem_singleton.mp held)
          exact (ih (.set selects)).fragment hvisited

/-! ## Documents -/

/-- The root set of a document selects an object, the value itself where the type has fields. -/
theorem exists_selects_document (s : Schema) (type : String) (value : Entries) (fragment : String)
    (maxDepth : Int) :
    ∃ object, s.SetSelects maxDepth.toNat [] (s.fieldsOf type) object
      (s.selectionDocument type value fragment maxDepth).selections := by
  by_cases hfields : s.fieldsOf type = []
  · refine ⟨[], ?_⟩
    have hselections : (s.selectionDocument type value fragment maxDepth).selections = [.bare "__typename"] := by
      simp [selectionDocument, hfields, Selection.orTypename]
    rw [hselections]
    exact .tag rfl
  · refine ⟨value, ?_⟩
    rw [selections_of_document hfields]
    exact selectionsOf_selects _ _ _ _

/-- **Nesting is cut on every branch** of a document, for every schema, type name, value and depth bound. The
    fields that have a selection set are no more than the bound, and none if that is negative; their base types
    are distinct; and no such field has for its base type the type condition of an inline fragment above. -/
theorem document_branches_are_cut (s : Schema) (type : String) (value : Entries) (fragment : String)
    (maxDepth : Int) (branch : List Passage)
    (hbranch : s.IsBranch (s.fieldsOf type) (s.selectionDocument type value fragment maxDepth).selections branch) :
    IsCutBranch maxDepth branch := by
  obtain ⟨object, selects⟩ := exists_selects_document s type value fragment maxDepth
  have hcut : CutBelow maxDepth.toNat [] branch := hbranch.cutBelow (.set selects)
  exact hcut.isCutBranch

/-- A shelf with boxes in a box, and with something in the lid of the outer one. -/
def deepShelf : Entries :=
  [("item", .obj [("__typename", .str "Box"), ("inner", .obj [("inner", .obj [("id", .null)])]),
    ("lid", .obj [("gap", .obj [("__typename", .str "Void")])])])]

/-- The lid is as deep as two levels go; the inner box, which is no deeper, stays bare, for `Box` has been passed
    by the inline fragment. -/
theorem deepShelf_branches_are_cut :
    (Shelf.schema.selectionDocument "Shelf" deepShelf "" 2).selections =
      [.field "item" [.inlineOn "Box" [.bare "inner", .field "lid" [.bare "gap"]]]] ∧
    Shelf.schema.IsBranch (Shelf.schema.fieldsOf "Shelf")
      (Shelf.schema.selectionDocument "Shelf" deepShelf "" 2).selections
      [.field (some "Item"), .fragment "Box", .field (some "Lid")] ∧
    IsCutBranch 2 [.field (some "Item"), .fragment "Box", .field (some "Lid")] := by
  have hselections : (Shelf.schema.selectionDocument "Shelf" deepShelf "" 2).selections =
      [.field "item" [.inlineOn "Box" [.bare "inner", .field "lid" [.bare "gap"]]]] := by cbv
  have hbranch : Shelf.schema.IsBranch (Shelf.schema.fieldsOf "Shelf")
      (Shelf.schema.selectionDocument "Shelf" deepShelf "" 2).selections
      [.field (some "Item"), .fragment "Box", .field (some "Lid")] := by
    rw [hselections]
    have hlid : Shelf.schema.IsBranch (Shelf.schema.fieldsOf "Box") [.bare "inner", .field "lid" [.bare "gap"]]
        [.field (baseIn? (Shelf.schema.fieldsOf "Box") "lid")] :=
      .field (List.mem_cons_of_mem _ (List.mem_singleton_self _)) (List.cons_ne_nil _ _) .stop
    have hitem : Shelf.schema.IsBranch (Shelf.schema.fieldsOf "Shelf")
        [.field "item" [.inlineOn "Box" [.bare "inner", .field "lid" [.bare "gap"]]]]
        [.field (baseIn? (Shelf.schema.fieldsOf "Shelf") "item"), .fragment "Box",
          .field (baseIn? (Shelf.schema.fieldsOf "Box") "lid")] :=
      .field (List.mem_singleton_self _) (List.cons_ne_nil _ _) (.fragment (List.mem_singleton_self _) hlid)
    exact hitem
  exact ⟨hselections, hbranch, document_branches_are_cut Shelf.schema "Shelf" deepShelf "" 2 _ hbranch⟩

end Schema

end GraphQLCache
