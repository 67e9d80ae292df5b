import GraphQLCache.Proofs.Pruning
import GraphQLCache.Proofs.Regular

/-!
# `Proofs.DocumentDepth` — what a larger depth bound adds to a document

Two documents of one value that differ in their depth bounds have the same selections, but that some fields which
are nested under the larger bound stay bare under the smaller one (`IsCutBack`). This holds of both builders, and
for one reason: a level decides entry by entry, the bound only ever withholds what stands below a field, and
whether a set is empty is decided by the keys of the object alone, so the fields that stand in an empty set are
the same.

Each level that is passed is an object inside an object. So a bound that is no smaller than the height of the
value (`nestingHeight`) withholds nothing, and all such bounds give the same document.
-/

namespace GraphQLCache

/-! ## Selection sets that are cut back -/

/-- **A selection set cut back**: the same fields and inline fragments in the same order, where a field is made
    bare, or has below it what it had, cut back. -/
inductive IsCutBack : List Selection → List Selection → Prop
  | nil : IsCutBack [] []
  | bare {name below cut set} (rest : IsCutBack cut set) :
      IsCutBack (.bare name :: cut) (.field name below :: set)
  | nested {name kept below cut set} (within : IsCutBack kept below) (rest : IsCutBack cut set) :
      IsCutBack (.field name kept :: cut) (.field name below :: set)
  | fragment {type kept below cut set} (within : IsCutBack kept below) (rest : IsCutBack cut set) :
      IsCutBack (.inlineOn type kept :: cut) (.inlineOn type below :: set)

variable {cut set kept below : List Selection}

/-- Selections are cut back one by one. -/
theorem IsCutBack.cons {a b : Selection} (first : IsCutBack [a] [b]) (rest : IsCutBack cut set) :
    IsCutBack (a :: cut) (b :: set) := by
  cases first with
  | bare _ => exact .bare rest
  | nested within _ => exact .nested within rest
  | fragment within _ => exact .fragment within rest

theorem IsCutBack.map {α : Type} {items : List α} {cutOne one : α → Selection}
    (each : ∀ item ∈ items, IsCutBack [cutOne item] [one item]) :
    IsCutBack (items.map cutOne) (items.map one) := by
  induction items with
  | nil => exact .nil
  | cons item rest ih =>
      have hfirst : IsCutBack [cutOne item] [one item] := each item List.mem_cons_self
      have hrest : ∀ item ∈ rest, IsCutBack [cutOne item] [one item] :=
        fun item hitem => each item (List.mem_cons_of_mem _ hitem)
      exact hfirst.cons (ih hrest)

/-- Cutting back leaves the number of selections. -/
theorem IsCutBack.isEmpty_eq (h : IsCutBack cut set) : cut.isEmpty = set.isEmpty := by
  cases h <;> rfl

/-- Where a set is empty the one cut back is, so the field that stands in an empty set is in both or in neither. -/
theorem IsCutBack.orTypename (h : IsCutBack cut set) :
    IsCutBack (Selection.orTypename cut) (Selection.orTypename set) := by
  unfold Selection.orTypename
  rw [h.isEmpty_eq]
  split
  · exact .bare .nil
  · exact h

/-- Any field can be made bare. -/
theorem isCutBack_of_fieldName {name : String} {selection : Selection} (h : selection.fieldName? = some name) :
    IsCutBack [.bare name] [selection] := by
  cases selection with
  | field name' below =>
      have hname : name' = name := Option.some.inj h
      rw [hname]
      exact .bare .nil
  | inlineOn type below => cases h

/-- Below a nesting, too, a set is cut back, through the inline fragment if there is one. -/
theorem Schema.Nesting.isCutBack_selection (n : Schema.Nesting) (key : String) (h : IsCutBack kept below) :
    IsCutBack [n.selection key kept] [n.selection key below] := by
  unfold Schema.Nesting.selection
  cases n.concrete with
  | none => exact .nested h.orTypename .nil
  | some concrete => exact .nested (.fragment h.orTypename .nil) .nil

/-! ## More room -/

namespace Schema

variable {s : Schema} {room more : Nat}

/-- Without room every field is bare. -/
theorem fieldSelection_zero (visited : List String) (fields : List Field) (e : String × Json) :
    s.fieldSelection 0 visited fields e = .bare e.1 := by
  unfold fieldSelection
  split <;> rfl

/-- **A level with less room** is the level with more room, cut back. The induction is on the smaller room. -/
theorem isCutBack_selectionsOf (hle : room ≤ more) (visited : List String) (fields : List Field)
    (entries : Entries) :
    IsCutBack (s.selectionsOf room visited fields entries) (s.selectionsOf more visited fields entries) := by
  induction room generalizing more visited fields entries with
  | zero =>
      rw [selectionsOf_eq, selectionsOf_eq]
      apply IsCutBack.map
      intro e _
      rw [fieldSelection_zero]
      exact isCutBack_of_fieldName (fieldName?_fieldSelection e)
  | succ room ih =>
      obtain ⟨more, rfl⟩ : ∃ more', more = more' + 1 := ⟨more - 1, by omega⟩
      have hless : room ≤ more := Nat.le_of_succ_le_succ hle
      rw [selectionsOf_eq, selectionsOf_eq]
      apply IsCutBack.map
      intro e _
      unfold fieldSelection
      cases (fieldNamed? fields e.1).bind fun f => s.nesting? f.type e.2 with
      | none => exact .bare .nil
      | some n =>
          -- Whether the base type is on the branch does not depend on the room.
          dsimp only
          split
          · exact .bare .nil
          · exact n.isCutBack_selection e.1 (ih hless (n.names ++ visited) n.fields n.sample)

end Schema

theorem shapeSelection_zero (e : String × Json) : shapeSelection 0 e = .bare e.1 := by
  unfold shapeSelection
  split <;> rfl

/-- **By shape alone**, too, a level with less room is the level with more room, cut back. -/
theorem isCutBack_shapeSelections {room more : Nat} (hle : room ≤ more) (entries : Entries) :
    IsCutBack (shapeSelections room entries) (shapeSelections more entries) := by
  induction room generalizing more entries with
  | zero =>
      rw [shapeSelections_eq, shapeSelections_eq]
      apply IsCutBack.map
      intro e _
      rw [shapeSelection_zero]
      exact isCutBack_of_fieldName (fieldName?_shapeSelection more e)
  | succ room ih =>
      obtain ⟨more, rfl⟩ : ∃ more', more = more' + 1 := ⟨more - 1, by omega⟩
      have hless : room ≤ more := Nat.le_of_succ_le_succ hle
      rw [shapeSelections_eq, shapeSelections_eq]
      apply IsCutBack.map
      intro e _
      unfold shapeSelection
      cases shapeOf? e.2 with
      | none => exact .bare .nil
      | some sample => exact .nested (ih hless sample) .nil

/-! ## Enough room -/

mutual

/-- **How deep objects are nested in a value**, lists aside; the value counts if it is an object. -/
def Json.objectHeight : Json → Nat
  | .obj entries => nestingHeight entries + 1
  | .arr items => itemsHeight items
  | _ => 0

/-- How deep objects are nested in the items of a list. -/
def itemsHeight : List Json → Nat
  | [] => 0
  | item :: rest => max item.objectHeight (itemsHeight rest)

/-- **The height of an object**: how deep other objects are nested in it. -/
def nestingHeight : Entries → Nat
  | [] => 0
  | (_, value) :: rest => max value.objectHeight (nestingHeight rest)

end

theorem objectHeight_le_of_mem {entries : Entries} {e : String × Json} (h : e ∈ entries) :
    e.2.objectHeight ≤ nestingHeight entries := by
  induction entries with
  | nil => cases h
  | cons first rest ih =>
      rw [nestingHeight]
      rcases List.mem_cons.mp h with rfl | hrest
      · exact Nat.le_max_left _ _
      · exact (ih hrest).trans (Nat.le_max_right _ _)

theorem nestingHeight_lt_of_inlineObject? {value : Json} {sample : Entries} (h : inlineObject? value = some sample) :
    nestingHeight sample < value.objectHeight := by
  obtain ⟨rfl, -⟩ := inlineObject?_eq_some_iff.mp h
  rw [Json.objectHeight]
  exact Nat.lt_succ_self _

/-- **The object that a value shows is lower** than the value. -/
theorem nestingHeight_lt_of_shapeOf? {value : Json} {sample : Entries} (h : shapeOf? value = some sample) :
    nestingHeight sample < value.objectHeight := by
  unfold shapeOf? at h
  split at h
  · rw [Json.objectHeight, itemsHeight]
    exact (nestingHeight_lt_of_inlineObject? h).trans_le (Nat.le_max_left _ _)
  · exact nestingHeight_lt_of_inlineObject? h

/-- An object that an entry shows is lower than the object of the entry. -/
theorem nestingHeight_lt_of_mem {entries sample : Entries} {e : String × Json} (he : e ∈ entries)
    (h : shapeOf? e.2 = some sample) : nestingHeight sample < nestingHeight entries :=
  (nestingHeight_lt_of_shapeOf? h).trans_le (objectHeight_le_of_mem he)

/-- **By shape alone** all room that suffices for the height gives the same selections. -/
theorem shapeSelections_eq_of_height {room more : Nat} {entries : Entries} (hroom : nestingHeight entries ≤ room)
    (hmore : nestingHeight entries ≤ more) : shapeSelections room entries = shapeSelections more entries := by
  induction room using Nat.strong_induction_on generalizing more entries with
  | _ room ih =>
      rw [shapeSelections_eq, shapeSelections_eq]
      refine List.map_congr_left fun e he => ?_
      unfold shapeSelection
      cases hshape : shapeOf? e.2 with
      | none => rfl
      | some sample =>
          have hlower : nestingHeight sample < nestingHeight entries :=
            nestingHeight_lt_of_mem (List.mem_of_mem_filter he) hshape
          obtain ⟨room, rfl⟩ : ∃ room', room = room' + 1 := ⟨room - 1, by omega⟩
          obtain ⟨more, rfl⟩ : ∃ more', more = more' + 1 := ⟨more - 1, by omega⟩
          have hbelow : shapeSelections room sample = shapeSelections more sample :=
            ih room (Nat.lt_succ_self room) (by omega) (by omega)
          dsimp only
          rw [hbelow]

namespace Schema

variable {s : Schema}

/-- **Guided by a schema**, too, all room that suffices for the height gives the same selections. -/
theorem selectionsOf_eq_of_height {room more : Nat} (visited : List String) (fields : List Field)
    {entries : Entries} (hroom : nestingHeight entries ≤ room) (hmore : nestingHeight entries ≤ more) :
    s.selectionsOf room visited fields entries = s.selectionsOf more visited fields entries := by
  induction room using Nat.strong_induction_on generalizing more visited fields entries with
  | _ room ih =>
      rw [selectionsOf_eq, selectionsOf_eq]
      refine List.map_congr_left fun e he => ?_
      unfold fieldSelection
      cases hn : (fieldNamed? fields e.1).bind fun f => s.nesting? f.type e.2 with
      | none => rfl
      | some n =>
          obtain ⟨f, -, hnesting⟩ := Option.bind_eq_some_iff.mp hn
          have hlower : nestingHeight n.sample < nestingHeight entries :=
            nestingHeight_lt_of_mem (List.mem_of_mem_filter he) (shapeOf?_of_nesting? hnesting)
          obtain ⟨room, rfl⟩ : ∃ room', room = room' + 1 := ⟨room - 1, by omega⟩
          obtain ⟨more, rfl⟩ : ∃ more', more = more' + 1 := ⟨more - 1, by omega⟩
          have hbelow : s.selectionsOf room (n.names ++ visited) n.fields n.sample =
              s.selectionsOf more (n.names ++ visited) n.fields n.sample :=
            ih room (Nat.lt_succ_self room) _ _ (by omega) (by omega)
          dsimp only
          rw [hbelow]

end Schema

/-! ## Documents -/

/-- **A document cut back**: of the same name and type, with its selections cut back. -/
structure Fragment.IsCutBackOf (cut whole : Fragment) : Prop where
  name : cut.name = whole.name
  type : cut.type = whole.type
  selections : IsCutBack cut.selections whole.selections

theorem shapeDocument?_cutBack (type : String) (record : Entries) {depth deeper : Int} (hle : depth ≤ deeper) :
    Option.Rel Fragment.IsCutBackOf (shapeDocument? type record depth) (shapeDocument? type record deeper) := by
  have hcut : IsCutBack (shapeSelections depth.toNat record) (shapeSelections deeper.toNat record) :=
    isCutBack_shapeSelections (Int.toNat_le_toNat hle) record
  unfold shapeDocument?
  dsimp only
  rw [hcut.isEmpty_eq]
  split
  · exact .none
  · exact .some ⟨rfl, rfl, hcut⟩

namespace Schema

theorem selectionDocument_cutBack (s : Schema) (type : String) (value : Entries) (fragment : String)
    {depth deeper : Int} (hle : depth ≤ deeper) :
    (s.selectionDocument type value fragment depth).IsCutBackOf (s.selectionDocument type value fragment deeper) := by
  refine ⟨rfl, rfl, ?_⟩
  unfold selectionDocument
  dsimp only
  split
  · exact .bare .nil
  · exact (isCutBack_selectionsOf (Int.toNat_le_toNat hle) _ _ _).orTypename

/-- **A larger depth bound only adds nesting**, for every schema, type name and value. Under a schema the
    document of a smaller bound is the one of a larger bound with some fields made bare; without a schema the
    same holds, or there is no document under either bound. A bound below zero counts as zero. And all bounds
    that are no smaller than the height of the value give the same documents. -/
theorem documents_deepen_and_saturate (s : Schema) (type : String) (value : Entries) (fragment : String) :
    (∀ depth deeper : Int, depth ≤ deeper →
      (s.selectionDocument type value fragment depth).IsCutBackOf
        (s.selectionDocument type value fragment deeper) ∧
      Option.Rel Fragment.IsCutBackOf (shapeDocument? type value depth) (shapeDocument? type value deeper)) ∧
    (∀ depth : Int, depth ≤ 0 →
      s.selectionDocument type value fragment depth = s.selectionDocument type value fragment 0 ∧
      shapeDocument? type value depth = shapeDocument? type value 0) ∧
    ∀ depth deeper : Int, (nestingHeight value : Int) ≤ depth → depth ≤ deeper →
      s.selectionDocument type value fragment depth = s.selectionDocument type value fragment deeper ∧
      shapeDocument? type value depth = shapeDocument? type value deeper := by
  refine ⟨?deepens, ?negative, ?saturates⟩
  case deepens =>
    intro depth deeper hle
    exact ⟨s.selectionDocument_cutBack type value fragment hle, shapeDocument?_cutBack type value hle⟩
  case negative =>
    intro depth hle
    have hzero : depth.toNat = (0 : Int).toNat := by omega
    unfold selectionDocument shapeDocument?
    rw [hzero]
    exact ⟨rfl, rfl⟩
  case saturates =>
    intro depth deeper hheight hle
    have hdepth : nestingHeight value ≤ depth.toNat := by omega
    have hdeeper : nestingHeight value ≤ deeper.toNat := by omega
    have hguided : s.selectionsOf depth.toNat [] (s.fieldsOf type) value =
        s.selectionsOf deeper.toNat [] (s.fieldsOf type) value := selectionsOf_eq_of_height [] _ hdepth hdeeper
    have hshape : shapeSelections depth.toNat value = shapeSelections deeper.toNat value :=
      shapeSelections_eq_of_height hdepth hdeeper
    unfold selectionDocument shapeDocument?
    dsimp only
    rw [hguided, hshape]
    exact ⟨rfl, rfl⟩

/-- The filled shelf is two objects high. One level leaves its boxes without their lids, and more than two levels
    add nothing. -/
theorem filledShelf_documents_deepen_and_saturate :
    (Shelf.schema.selectionDocument "Shelf" filledShelf "" 1).IsCutBackOf
      (Shelf.schema.selectionDocument "Shelf" filledShelf "" 2) ∧
    Option.Rel Fragment.IsCutBackOf (shapeDocument? "Shelf" filledShelf 1) (shapeDocument? "Shelf" filledShelf 2) ∧
    (Shelf.schema.selectionDocument "Shelf" filledShelf "" 1).print =
      "fragment ShelfMock on Shelf \x7b\n  item \x7b\n    ... on Box \x7b\n      lid\n      id\n    \x7d\n  \x7d\n" ++
        "  boxes \x7b\n    lid\n  \x7d\n  note\n\x7d" ∧
    Shelf.schema.selectionDocument "Shelf" filledShelf "" (-4) =
      Shelf.schema.selectionDocument "Shelf" filledShelf "" 0 ∧
    nestingHeight filledShelf = 2 ∧
    Shelf.schema.selectionDocument "Shelf" filledShelf "" 2 =
      Shelf.schema.selectionDocument "Shelf" filledShelf "" 9 ∧
    shapeDocument? "Shelf" filledShelf 2 = shapeDocument? "Shelf" filledShelf 9 := by
  obtain ⟨hdeepens, hnegative, hsaturates⟩ := documents_deepen_and_saturate Shelf.schema "Shelf" filledShelf ""
  have hheight : nestingHeight filledShelf = 2 := by decide
  have hbound : (nestingHeight filledShelf : Int) ≤ 2 := by
    rw [hheight]
    decide
  obtain ⟨hguided, hshape⟩ := hdeepens 1 2 (by decide)
  obtain ⟨hsame, hsameShape⟩ := hsaturates 2 9 hbound (by decide)
  exact ⟨hguided, hshape, by decide +kernel, (hnegative (-4) (by decide)).1, hheight, hsame, hsameShape⟩

end Schema

end GraphQLCache
