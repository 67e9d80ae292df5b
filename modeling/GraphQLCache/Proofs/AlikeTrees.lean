import GraphQLCache.Proofs.JsonRoundTrip
import GraphQLCache.Proofs.Pruning

/-!
# `Proofs.AlikeTrees` — documents depend on the shape of the data alone

Two builders turn a value tree into a document. What they may read of the values is said once, by
`Json.Alike`: which keys an inline object has and in which order, the type it is tagged with, and whether a
list has a first item, which stands for the others. Whatever else is in the tree may hold data of a user and
must not come into a document.

A value shows an object in one of two ways, by itself or by its first item, and a declared type that does not
fit the value lets it show nothing. So each of the samplers is compared first: on alike values both runs find
a sample or neither does, and the samples are alike (`Json.Alike.sampleOf?`, `Json.Alike.shapeOf?`). The
levels follow by induction on the room that is left. `Json.outline` puts everything that cannot be seen to null,
and as a value is like its outline, a document can be built from the outline alone.
-/

namespace GraphQLCache

/-! ## Own entries -/

theorem ownEntries_cons_of_tag {e : String × Json} (h : e.1 = typenameKey) (rest : Entries) :
    ownEntries (e :: rest) = ownEntries rest :=
  List.filter_cons_of_neg fun hown => of_decide_eq_true hown h

theorem ownEntries_cons_of_ne {e : String × Json} (h : e.1 ≠ typenameKey) (rest : Entries) :
    ownEntries (e :: rest) = e :: ownEntries rest :=
  List.filter_cons_of_pos (decide_eq_true h)

theorem ownEntries_ownEntries (entries : Entries) : ownEntries (ownEntries entries) = ownEntries entries := by
  unfold ownEntries
  rw [List.filter_filter]
  exact List.filter_congr fun e _ => Bool.and_self _

/-- The tag is never selected. -/
theorem filter_ownEntries (entries : Entries) :
    ((ownEntries entries).filter fun e => isSelectedKey e.1) = entries.filter fun e => isSelectedKey e.1 := by
  rw [ownEntries, List.filter_filter]
  refine List.filter_congr fun e _ => ?_
  by_cases hkey : e.1 = typenameKey
  · rw [isSelectedKey, hkey]; rfl
  · rw [decide_eq_true hkey, Bool.and_true]

/-- What is inserted under the tag is no own entry. -/
theorem ownEntries_insert_of_tag {key : String} (hkey : key = typenameKey) (entries : Entries) (value : Json) :
    ownEntries (Entries.insert entries key value) = ownEntries entries := by
  induction entries with
  | nil => exact ownEntries_cons_of_tag hkey []
  | cons e rest ih =>
      by_cases hfound : e.1 = key
      · rw [Entries.insert, if_pos hfound, ownEntries_cons_of_tag hkey,
          ownEntries_cons_of_tag (hfound.trans hkey)]
      · have hown : e.1 ≠ typenameKey := fun h => hfound (h.trans hkey.symm)
        rw [Entries.insert_cons_of_ne hfound, ownEntries_cons_of_ne hown, ownEntries_cons_of_ne hown, ih]

/-- What is inserted under another key is inserted among the own entries. -/
theorem ownEntries_insert_of_ne {key : String} (hkey : key ≠ typenameKey) (entries : Entries) (value : Json) :
    ownEntries (Entries.insert entries key value) = Entries.insert (ownEntries entries) key value := by
  induction entries with
  | nil => exact ownEntries_cons_of_ne hkey []
  | cons e rest ih =>
      by_cases hfound : e.1 = key
      · have hown : e.1 ≠ typenameKey := fun h => hkey (hfound.symm.trans h)
        rw [Entries.insert, if_pos hfound, ownEntries_cons_of_ne hkey, ownEntries_cons_of_ne hown,
          Entries.insert, if_pos hfound]
      · rw [Entries.insert_cons_of_ne hfound]
        by_cases hown : e.1 = typenameKey
        · rw [ownEntries_cons_of_tag hown, ownEntries_cons_of_tag hown, ih]
        · rw [ownEntries_cons_of_ne hown, ownEntries_cons_of_ne hown, ih, Entries.insert_cons_of_ne hfound]

theorem ownEntries_ofPairs (pairs : List (String × Json)) :
    ownEntries (Entries.ofPairs pairs) = Entries.ofPairs (ownEntries pairs) := by
  induction pairs using List.reverseRecOn with
  | nil => rfl
  | append_singleton pairs p ih =>
      have hsplit : ownEntries (pairs ++ [p]) = ownEntries pairs ++ ownEntries [p] := List.filter_append ..
      rw [Entries.ofPairs_concat, hsplit]
      by_cases hkey : p.1 = typenameKey
      · rw [ownEntries_insert_of_tag hkey, ownEntries_cons_of_tag hkey, ih]
        exact congrArg Entries.ofPairs (List.append_nil _).symm
      · rw [ownEntries_insert_of_ne hkey, ownEntries_cons_of_ne hkey, ih]
        exact (Entries.ofPairs_concat _ p).symm

/-- The data to write has the own entries of the form. -/
theorem ownEntries_fragmentData (type : String) {form : Entries} (h : (Entries.keys form).Nodup) :
    ownEntries (fragmentData type form) = ownEntries form := by
  have hown : (Entries.keys (ownEntries form)).Nodup := h.sublist (List.filter_sublist.map _)
  calc ownEntries (fragmentData type form)
      = Entries.ofPairs (ownEntries ((typenameKey, .str type) :: form)) := ownEntries_ofPairs _
    _ = Entries.ofPairs (ownEntries form) := by rw [ownEntries_cons_of_tag rfl]
    _ = ownEntries form := Entries.ofPairs_of_nodup hown

/-! ## Alike values -/

/-- Whether no object can be seen through a value: it is neither a list with items nor an object that is
    written inline. -/
def Json.showsNothing : Json → Bool
  | .arr (_ :: _) => false
  | .obj entries => Entries.has entries refKey
  | _ => true

mutual

/-- **Two values are alike** if nothing can be seen through either of them, if they are lists with alike first
    items, or if they are inline objects that are tagged with the same type, or both with none, and have
    otherwise the same keys in the same order with alike values. -/
inductive Json.Alike : Json → Json → Prop
  | bare {v w} (left : v.showsNothing = true) (right : w.showsNothing = true) : Json.Alike v w
  | list {first first' rest rest'} (head : Json.Alike first first') :
      Json.Alike (.arr (first :: rest)) (.arr (first' :: rest'))
  | object {a b} (left : Entries.has a refKey = false) (right : Entries.has b refKey = false)
      (tag : typename? a = typename? b) (own : AlikeEntries (ownEntries a) (ownEntries b)) :
      Json.Alike (.obj a) (.obj b)

/-- The same keys in the same order, with alike values under them. -/
inductive AlikeEntries : Entries → Entries → Prop
  | nil : AlikeEntries [] []
  | cons {key v w a b} (value : Json.Alike v w) (rest : AlikeEntries a b) :
      AlikeEntries ((key, v) :: a) ((key, w) :: b)

end

/-- **Two value trees are alike** if they have the same keys in the same order with alike values under them,
    whatever they are tagged with. -/
def AlikeTrees (a b : Entries) : Prop := AlikeEntries (ownEntries a) (ownEntries b)

/-- Two samples of alike values: alike trees, and tagged alike. -/
structure AlikeSamples (a b : Entries) : Prop where
  tag : typename? a = typename? b
  own : AlikeTrees a b

variable {a b : Entries} {v w : Json}

/-- On alike entries, a level is built alike if each of its selections is. The keys that are selected are the
    same, so the induction is on the entries side by side. -/
theorem AlikeEntries.map_selected {select : String × Json → Selection}
    (hselect : ∀ key v w, v.Alike w → select (key, v) = select (key, w)) {a b : Entries} :
    AlikeEntries a b →
      (a.filter fun e => isSelectedKey e.1).map select = (b.filter fun e => isSelectedKey e.1).map select
  | .nil => rfl
  | @AlikeEntries.cons key _ _ _ _ value rest => by
      have ih := map_selected hselect rest
      rw [List.filter_cons, List.filter_cons]
      by_cases hkey : isSelectedKey key = true
      · rw [if_pos hkey, if_pos hkey, List.map_cons, List.map_cons, ih, hselect key _ _ value]
      · rw [if_neg hkey, if_neg hkey, ih]

theorem AlikeTrees.map_selected {select : String × Json → Selection} (h : AlikeTrees a b)
    (hselect : ∀ key v w, v.Alike w → select (key, v) = select (key, w)) :
    (a.filter fun e => isSelectedKey e.1).map select = (b.filter fun e => isSelectedKey e.1).map select := by
  rw [← filter_ownEntries a, ← filter_ownEntries b]
  exact AlikeEntries.map_selected hselect h

/-! ## Samples of alike values -/

theorem inlineObject?_of_showsNothing (h : v.showsNothing = true) : inlineObject? v = none := by
  cases v with
  | obj entries =>
      rw [Json.showsNothing] at h
      rw [inlineObject?, if_pos h]
  | _ => rfl

/-- A value through which nothing can be seen is no list with items. -/
theorem ne_arr_cons_of_showsNothing (h : v.showsNothing = true) (first : Json) (rest : List Json) :
    v ≠ .arr (first :: rest) := by
  rintro rfl
  cases h

/-- **Inline objects**: both of two alike values are some, and alike, or neither is one. -/
theorem Json.Alike.inlineObject? (h : v.Alike w) :
    Option.Rel AlikeSamples (inlineObject? v) (inlineObject? w) := by
  cases h with
  | bare left right =>
      rw [inlineObject?_of_showsNothing left, inlineObject?_of_showsNothing right]
      exact .none
  | list head => exact .none
  | object left right tag own =>
      rw [inlineObject?_of_obj left, inlineObject?_of_obj right]
      exact .some ⟨tag, own⟩

theorem shapeOf?_of_showsNothing (h : v.showsNothing = true) : shapeOf? v = none := by
  unfold shapeOf?
  split
  · exact absurd rfl (ne_arr_cons_of_showsNothing h _ _)
  · exact inlineObject?_of_showsNothing h

/-- **Shapes**: alike values show alike objects, or neither shows one. -/
theorem Json.Alike.shapeOf? (h : v.Alike w) : Option.Rel AlikeSamples (shapeOf? v) (shapeOf? w) := by
  cases h with
  | bare left right =>
      rw [shapeOf?_of_showsNothing left, shapeOf?_of_showsNothing right]
      exact .none
  | list head => exact head.inlineObject?
  | object left right tag own => exact (Json.Alike.object left right tag own).inlineObject?

theorem sampleOf?_of_showsNothing (type : TypeRef) (h : v.showsNothing = true) : sampleOf? type v = none := by
  unfold sampleOf?
  split
  · split
    · exact absurd rfl (ne_arr_cons_of_showsNothing h _ _)
    · rfl
  · exact inlineObject?_of_showsNothing h

/-- **Samples**: under one declared type alike values have alike samples, or neither has one. A type that does
    not fit, such as that of a list for an object, fits neither value. -/
theorem Json.Alike.sampleOf? (type : TypeRef) (h : v.Alike w) :
    Option.Rel AlikeSamples (sampleOf? type v) (sampleOf? type w) := by
  cases h with
  | bare left right =>
      rw [sampleOf?_of_showsNothing type left, sampleOf?_of_showsNothing type right]
      exact .none
  | list head =>
      unfold GraphQLCache.sampleOf?
      split
      -- a list type looks at the first items, any other type at the lists, which are no objects
      · exact head.inlineObject?
      · exact .none
  | object left right tag own =>
      unfold GraphQLCache.sampleOf?
      split
      -- a list type has no sample of an object
      · exact .none
      · exact (Json.Alike.object left right tag own).inlineObject?

/-! ## The two builders on alike trees -/

/-- **By shape** alike trees have the same selections. The induction is on the room that is left. -/
theorem shapeSelections_congr (room : Nat) (h : AlikeTrees a b) :
    shapeSelections room a = shapeSelections room b := by
  induction room using Nat.strong_induction_on generalizing a b with
  | _ room ih =>
      rw [shapeSelections_eq, shapeSelections_eq]
      refine h.map_selected fun key v w hvw => ?_
      have hshape := hvw.shapeOf?
      unfold shapeSelection
      dsimp only
      generalize shapeOf? v = x, shapeOf? w = y at hshape
      cases hshape with
      | none => rfl
      | some hsamples =>
          cases room with
          | zero => rfl
          | succ room =>
              dsimp only
              rw [ih room (Nat.lt_succ_self room) hsamples.own]

namespace Schema

variable {s : Schema}

/-- Two nestings of alike values: they differ at most in their samples, which are alike. -/
structure AlikeNestings (n n' : Nesting) : Prop where
  base : n.base = n'.base
  concrete : n.concrete = n'.concrete
  fields : n.fields = n'.fields
  sample : AlikeTrees n.sample n'.sample

/-- **What can be nested** is alike for alike values: the type of the tag is the only text of a value that the
    builder reads. -/
theorem alike_nesting? (type : TypeRef) (h : v.Alike w) :
    Option.Rel AlikeNestings (s.nesting? type v) (s.nesting? type w) := by
  have hsample := h.sampleOf? type
  unfold nesting?
  generalize sampleOf? type v = x, sampleOf? type w = y at hsample
  cases s.get? type.baseName with
  | none => exact .none
  | some t =>
      cases hsample with
      | none => exact .none
      | some hsamples =>
          have htag := hsamples.tag
          unfold typename? typenameKey at htag
          simp only [Option.bind_eq_bind, Option.bind_some, htag]
          cases t.body with
          | scalar => exact .none
          | enum values => exact .none
          | object fields interfaces => exact .some ⟨rfl, rfl, rfl, hsamples.own⟩
          | inputObject fields => exact .some ⟨rfl, rfl, rfl, hsamples.own⟩
          | _ =>
              -- an interface or a union: what can be nested hangs on the tag, which the samples share
              cases (Entries.get? _ "__typename").bind Json.str? with
              | none => exact .none
              | some concrete =>
                  dsimp only [Option.bind_some]
                  split
                  · exact .none
                  · exact .some ⟨rfl, rfl, rfl, hsamples.own⟩

/-- **Guided by a schema** alike trees have the same selections. The induction is on the room that is left, for
    all branches and declarations at once. -/
theorem selectionsOf_congr (room : Nat) (branch : List String) (fields : List Field) (h : AlikeTrees a b) :
    s.selectionsOf room branch fields a = s.selectionsOf room branch fields b := by
  induction room using Nat.strong_induction_on generalizing branch fields a b with
  | _ room ih =>
      rw [selectionsOf_eq, selectionsOf_eq]
      refine h.map_selected fun key v w hvw => ?_
      unfold fieldSelection
      dsimp only
      cases fieldNamed? fields key with
      | none => rfl
      | some f =>
          have hnesting := alike_nesting? (s := s) f.type hvw
          rw [Option.bind_some, Option.bind_some]
          generalize s.nesting? f.type v = x, s.nesting? f.type w = y at hnesting
          cases hnesting with
          | none => rfl
          | @some n n' hn =>
              cases room with
              | zero => rfl
              | succ room =>
                  -- the branch and the declarations below are the same, so only the samples are left
                  obtain ⟨base, concrete, fields, sample⟩ := n
                  obtain ⟨base', concrete', fields', sample'⟩ := n'
                  obtain ⟨rfl, rfl, rfl, hsample⟩ := hn
                  dsimp only [Nesting.names, Nesting.selection]
                  rw [ih room (Nat.lt_succ_self room) _ _ hsample]

end Schema

/-! ## Outlines -/

mutual

/-- **The outline of a value**: lists have only their first item, and everything through which nothing can be
    seen is null. -/
def Json.outline : Json → Json
  | .arr (first :: _) => .arr [first.outline]
  | .obj entries => if Entries.has entries refKey then .null else .obj (outlineEntries entries)
  | _ => .null

/-- The outlines of the values of an object; its tag stays. -/
def outlineEntries : Entries → Entries
  | [] => []
  | (key, value) :: rest =>
    (key, if key = typenameKey then value else value.outline) :: outlineEntries rest

end

theorem has_outlineEntries (entries : Entries) (key : String) :
    Entries.has (outlineEntries entries) key = Entries.has entries key := by
  induction entries with
  | nil => rfl
  | cons e rest ih =>
      unfold Entries.has at ih ⊢
      rw [outlineEntries, List.any_cons, List.any_cons, ih]

theorem typename?_outlineEntries (entries : Entries) : typename? (outlineEntries entries) = typename? entries := by
  have htag : Entries.get? (outlineEntries entries) typenameKey = Entries.get? entries typenameKey := by
    induction entries with
    | nil => rfl
    | cons e rest ih =>
        rw [outlineEntries, Entries.get?_cons, Entries.get?_cons, ih]
        by_cases hkey : typenameKey = e.1
        · rw [if_pos hkey, if_pos hkey, if_pos hkey.symm]
        · rw [if_neg hkey, if_neg hkey]
  rw [typename?, typename?, htag]

mutual

/-- A value is like its outline. -/
theorem Json.alike_outline : (v : Json) → v.Alike v.outline
  | .arr (first :: rest) => by
      rw [Json.outline]
      exact .list first.alike_outline
  | .obj entries => by
      rw [Json.outline]
      cases href : Entries.has entries refKey with
      | true => exact .bare href rfl
      | false =>
          exact .object href ((has_outlineEntries entries refKey).trans href)
            (typename?_outlineEntries entries).symm (alikeTrees_outlineEntries entries)
  | .arr [] | .null | .bool _ | .int _ | .float _ | .str _ => .bare rfl rfl

theorem alikeTrees_outlineEntries : (entries : Entries) → AlikeTrees entries (outlineEntries entries)
  | [] => .nil
  | (key, value) :: rest => by
      have ih := alikeTrees_outlineEntries rest
      unfold AlikeTrees at ih ⊢
      rw [outlineEntries]
      by_cases hkey : key = typenameKey
      · rw [ownEntries_cons_of_tag hkey, ownEntries_cons_of_tag hkey]
        exact ih
      · rw [ownEntries_cons_of_ne hkey, ownEntries_cons_of_ne hkey, if_neg hkey]
        exact .cons value.alike_outline ih

end

/-- A tree is like the outline of its own entries, where its tag is gone. -/
theorem alikeTrees_outline_ownEntries (tree : Entries) : AlikeTrees tree (outlineEntries (ownEntries tree)) := by
  have h := alikeTrees_outlineEntries (ownEntries tree)
  unfold AlikeTrees at h ⊢
  rwa [ownEntries_ownEntries] at h

/-! ## Documents -/

theorem shapeDocument?_congr (type : String) (maxDepth : Int) (h : AlikeTrees a b) :
    shapeDocument? type a maxDepth = shapeDocument? type b maxDepth := by
  rw [shapeDocument?, shapeDocument?, shapeSelections_congr _ h]

namespace Schema

variable {s : Schema}

theorem selectionDocument_congr (type fragment : String) (maxDepth : Int) (h : AlikeTrees a b) :
    s.selectionDocument type a fragment maxDepth = s.selectionDocument type b fragment maxDepth := by
  rw [selectionDocument, selectionDocument, selectionsOf_congr _ _ _ h]

/-- **Documents depend on the shape of the data alone.** Whatever the schema, the names and the depth bound,
    alike trees have the same document under the schema, and without one the same document or none. So a
    document can be built from the outline of the own entries of a tree, in which there are no scalars, no
    later items, no contents of references and no root tag. And the data to write through a fragment, which
    is the form with a tag, has the document of the form. -/
theorem documents_depend_on_shape_alone (s : Schema) (type fragment : String) (maxDepth : Int) :
    (∀ a b, AlikeTrees a b →
      (s.selectionDocument type a fragment maxDepth).print =
        (s.selectionDocument type b fragment maxDepth).print ∧
      (shapeDocument? type a maxDepth).map Fragment.print =
        (shapeDocument? type b maxDepth).map Fragment.print) ∧
    (∀ tree,
      (s.selectionDocument type tree fragment maxDepth).print =
        (s.selectionDocument type (outlineEntries (ownEntries tree)) fragment maxDepth).print ∧
      (shapeDocument? type tree maxDepth).map Fragment.print =
        (shapeDocument? type (outlineEntries (ownEntries tree)) maxDepth).map Fragment.print) ∧
    ∀ form, (Entries.keys form).Nodup →
      (s.selectionDocument type (fragmentData type form) fragment maxDepth).print =
        (s.selectionDocument type form fragment maxDepth).print := by
  have hdocuments : ∀ a b, AlikeTrees a b →
      (s.selectionDocument type a fragment maxDepth).print =
        (s.selectionDocument type b fragment maxDepth).print ∧
      (shapeDocument? type a maxDepth).map Fragment.print =
        (shapeDocument? type b maxDepth).map Fragment.print := by
    intro a b h
    rw [selectionDocument_congr type fragment maxDepth h, shapeDocument?_congr type maxDepth h]
    exact ⟨rfl, rfl⟩
  refine ⟨hdocuments, fun tree => hdocuments _ _ (alikeTrees_outline_ownEntries tree), fun form hkeys => ?_⟩
  have hdata := alikeTrees_outline_ownEntries (fragmentData type form)
  rw [ownEntries_fragmentData type hkeys] at hdata
  -- both are like the outline of the form
  exact (hdocuments _ _ hdata).1.trans (hdocuments _ _ (alikeTrees_outline_ownEntries form)).1.symm

/-- A shelf that is like the filled one. It has no tag, there is nothing under the lid of its item, its only
    box has a lid whose tag is no type, and where there was nothing to be seen there is something else. -/
def otherShelf : Entries :=
  [("item", .obj [("__typename", .str "Box"), ("lid", .null), ("id", .arr [])]),
    ("boxes", .arr [.obj [("lid", .obj [("__typename", .null)])]]),
    ("note", .obj [("text", .bool true)]), ("two words", .obj [("__ref", .str "Note:1")])]

/-- The two shelves have the same documents, and tagging the second one changes nothing. -/
theorem otherShelf_has_documents_of_filledShelf :
    AlikeTrees filledShelf otherShelf ∧ (Entries.keys otherShelf).Nodup ∧
    (Shelf.schema.selectionDocument "Shelf" filledShelf "" 3).print =
      (Shelf.schema.selectionDocument "Shelf" otherShelf "" 3).print ∧
    (shapeDocument? "Shelf" filledShelf 3).map Fragment.print =
      (shapeDocument? "Shelf" otherShelf 3).map Fragment.print ∧
    (Shelf.schema.selectionDocument "Shelf" (fragmentData "Shelf" otherShelf) "" 3).print =
      (Shelf.schema.selectionDocument "Shelf" otherShelf "" 3).print := by
  have halike : AlikeTrees filledShelf otherShelf :=
    .cons (.object rfl rfl rfl (.cons (.bare rfl rfl) (.cons (.bare rfl rfl) .nil)))
      (.cons (.list (.object rfl rfl rfl (.cons (.object rfl rfl rfl .nil) .nil)))
        (.cons (.object rfl rfl rfl (.cons (.bare rfl rfl) .nil)) (.cons (.bare rfl rfl) .nil)))
  have hkeys : (Entries.keys otherShelf).Nodup := by decide
  obtain ⟨hdocuments, -, htagged⟩ := documents_depend_on_shape_alone Shelf.schema "Shelf" "" 3
  exact ⟨halike, hkeys, (hdocuments _ _ halike).1, (hdocuments _ _ halike).2, htagged _ hkeys⟩

end Schema

end GraphQLCache
