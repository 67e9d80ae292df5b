import Mathlib
import GraphQLCache.Cache.Snapshot
import GraphQLCache.Proofs.DocumentDepth
import GraphQLCache.Proofs.DocumentReading

/-!
# `Proofs.BareReferences` — which objects a document takes for references

The cache follows an object whose reference key holds an id (`isReference`). The builders of documents ask only
whether the key is there, so they leave such an object bare, and also one whose reference key holds something else,
which the cache does not follow (`HasBrokenRef`).

The statements are about the levels of a document: an object of the value, the selections that the document has for
it, and how deep it lies (`Level`). Levels are read off the document and the value alone, from the root down
(`Schema.Reaches`, `ShapeReaches`). What one step down preserves is that the selections of a level are those that the
builder makes for its object (`Schema.GuidedLevel.IsBuilt`, `Level.IsShaped`), and from these a single field is read
off.
-/

namespace GraphQLCache

/-! ## The reference key -/

/-- An object whose reference key holds something else than an id. -/
def HasBrokenRef (object : Entries) : Prop := ∃ v, Entries.get? object refKey = some v ∧ v.str? = none

variable {object sample : Entries} {key : String}

/-- A key is there exactly where it finds something. -/
theorem Entries.has_eq (entries : Entries) (key : String) : has entries key = (get? entries key).isSome := by
  induction entries with
  | nil => rfl
  | cons e rest ih =>
      unfold has at ih ⊢
      rw [List.any_cons, ih, get?_cons]
      by_cases hkey : key = e.1
      · simp [hkey]
      · have hne : ¬ e.1 = key := fun h => hkey h.symm
        simp [hkey, hne]

/-- **The reference key is there** in references and in objects where it holds something else. -/
theorem has_refKey_iff :
    Entries.has object refKey = true ↔ isReference (.obj object) = true ∨ HasBrokenRef object := by
  have hreference : isReference (.obj object) = ((Entries.get? object refKey).bind Json.str?).isSome := rfl
  rw [Entries.has_eq, hreference]
  unfold HasBrokenRef
  cases Entries.get? object refKey with
  | none => simp
  | some v =>
      cases hstr : v.str? with
      | none => simp [hstr]
      | some id => simp [hstr]

/-- In a field that is no list an object is the sample, unless the reference key is there. -/
theorem sampleOf?_obj {type : TypeRef} (single : type.isList = false) :
    sampleOf? type (.obj object) = if Entries.has object refKey then none else some object := by
  unfold sampleOf?
  rw [single, if_neg Bool.false_ne_true]
  rfl

/-! ## Levels of a document -/

/-- **A level of a document**: how deep it lies, an object of the value, and the selections for this object. -/
structure Level where
  depth : Nat
  object : Entries
  set : List Selection

/-- The entries of an object that are selected. -/
def selectedEntries (object : Entries) : Entries := object.filter fun e => isSelectedKey e.1

/-- The entries of a level that are selected, each with its selection. -/
def Level.selected (l : Level) : List ((String × Json) × Selection) := (selectedEntries l.object).zip l.set

section Zip

variable {α : Type} {items : List α} {one : α → Selection}

/-- The field that stands in an empty set belongs to no item. -/
theorem zip_orTypename (items : List α) (one : α → Selection) :
    items.zip (Selection.orTypename (items.map one)) = items.zip (items.map one) := by
  cases items with
  | nil => rfl
  | cons item rest => rfl

theorem eq_of_mem_zip_map {item : α} {selection : Selection} (h : (item, selection) ∈ items.zip (items.map one)) :
    selection = one item := by
  induction items with
  | nil => simp at h
  | cons first rest ih =>
      rw [List.map_cons, List.zip_cons_cons] at h
      rcases List.mem_cons.mp h with heq | hrest
      · rw [Prod.mk.injEq] at heq
        rw [heq.1, heq.2]
      · exact ih hrest

theorem map_fst_zip_map (items : List α) (one : α → Selection) :
    (items.zip (items.map one)).map Prod.fst = items := by
  apply List.map_fst_zip
  rw [List.length_map]

end Zip

/-! ## Levels by the shape of a value -/

/-- **The levels that a document has by the shape of a record**: the root, and below a level the object that an entry
    shows, with the selections that the field of this entry has. -/
inductive ShapeReaches (record : Entries) (selections : List Selection) : Level → Prop
  | root : ShapeReaches record selections ⟨0, record, selections⟩
  | down {l : Level} {e : String × Json} {sample : Entries} {set : List Selection}
      (above : ShapeReaches record selections l) (held : (e, .field e.1 set) ∈ l.selected) (nested : set ≠ [])
      (shown : shapeOf? e.2 = some sample) : ShapeReaches record selections ⟨l.depth + 1, sample, set⟩

/-- The selections of a level are what the builder makes for its object with the room that is left. -/
def Level.IsShaped (bound : Nat) (l : Level) : Prop := l.set = shapeSelections (bound - l.depth) l.object

variable {bound : Nat} {l : Level} {e : String × Json} {selection : Selection} {set : List Selection}

theorem Level.IsShaped.selected_eq (h : l.IsShaped bound) :
    l.selected = (selectedEntries l.object).zip ((selectedEntries l.object).map (shapeSelection (bound - l.depth))) := by
  unfold Level.selected
  rw [show l.set = _ from h, shapeSelections_eq]
  rfl

/-- **One step down** leads from the room that is left to one level less of it. -/
theorem Level.IsShaped.below (h : l.IsShaped bound) (held : (e, .field e.1 set) ∈ l.selected) (nested : set ≠ [])
    (shown : shapeOf? e.2 = some sample) : Level.IsShaped bound ⟨l.depth + 1, sample, set⟩ := by
  rw [h.selected_eq] at held
  have hfield := eq_of_mem_zip_map held
  show set = shapeSelections (bound - (l.depth + 1)) sample
  cases hroom : bound - l.depth with
  | zero =>
      rw [hroom, shapeSelection_zero] at hfield
      exact absurd (Selection.field.inj hfield).2 nested
  | succ room =>
      rw [hroom, shapeSelection_of_shape shown] at hfield
      rw [(Selection.field.inj hfield).2, show bound - (l.depth + 1) = room by omega]

theorem ShapeReaches.isShaped {record : Entries} (h : ShapeReaches record (shapeSelections bound record) l) :
    l.IsShaped bound := by
  induction h with
  | root => rfl
  | down _ held nested shown ih => exact ih.below held nested shown

/-- **Without a schema** an object in which something can be selected is bare exactly where the reference key is
    there. -/
theorem Level.IsShaped.eq_bare_iff (h : l.IsShaped bound) (hdepth : l.depth < bound)
    (held : (e, selection) ∈ l.selected) (hvalue : e.2 = .obj object) (hkeys : selectableKeys object ≠ []) :
    selection = .bare e.1 ↔ Entries.has object refKey = true := by
  rw [h.selected_eq] at held
  rw [eq_of_mem_zip_map held]
  obtain ⟨room, hroom⟩ : ∃ room, bound - l.depth = room + 1 := ⟨bound - l.depth - 1, by omega⟩
  rw [hroom]
  cases href : Entries.has object refKey with
  | true =>
      have hnone : shapeOf? e.2 = none := by
        rw [hvalue, shapeOf?, inlineObject?, if_pos href]
        simp
      simp [shapeSelection, hnone]
  | false =>
      have hshown : shapeOf? e.2 = some object := by
        rw [hvalue]
        exact inlineObject?_of_obj href
      rw [shapeSelection_of_shape hshown]
      have hset : shapeSelections room object ≠ [] := by
        intro hnil
        have hnames := fieldNames_shapeSelections room object
        rw [hnil, List.map_nil, eq_comm, List.map_eq_nil_iff] at hnames
        exact hkeys hnames
      simpa [Selection.bare] using hset

/-! ## Levels under a schema -/

namespace Schema

/-- **A level under a schema**, with the declarations of its object and the types that were passed. -/
structure GuidedLevel extends Level where
  visited : List String
  fields : List Field

/-- **The levels that a document reaches under a schema**: the root, if its type declares fields, and below a level
    what can be nested in an entry, with the selections that stand below the field of this entry. -/
inductive Reaches (s : Schema) (type : String) (value : Entries) (selections : List Selection) : GuidedLevel → Prop
  | root (declared : s.fieldsOf type ≠ []) :
      Reaches s type value selections ⟨⟨0, value, selections⟩, [], s.fieldsOf type⟩
  | down {l : GuidedLevel} {e : String × Json} {f : Field} {n : Nesting} {set : List Selection}
      (above : Reaches s type value selections l) (held : (e, .field e.1 (n.around set)) ∈ l.selected)
      (nested : set ≠ []) (declared : fieldNamed? l.fields e.1 = some f) (nestable : s.Nestable f.type e.2 n) :
      Reaches s type value selections ⟨⟨l.depth + 1, n.sample, set⟩, n.names ++ l.visited, n.fields⟩

/-- A field of a level whose declared type is an object type and no list, and has not been passed. -/
def GuidedLevel.HoldsObject (s : Schema) (l : GuidedLevel) (key : String) : Prop :=
  ∃ f t, fieldNamed? l.fields key = some f ∧ f.type.isList = false ∧ s.get? f.type.baseName = some t ∧
    t.kind = .object ∧ f.type.baseName ∉ l.visited

/-- The selections of a level are what the builder makes for its object with the room that is left. -/
def GuidedLevel.IsBuilt (s : Schema) (bound : Nat) (l : GuidedLevel) : Prop :=
  l.set = Selection.orTypename (s.selectionsOf (bound - l.depth) l.visited l.fields l.object)

variable {s : Schema} {l : GuidedLevel} {type : String} {value : Entries} {f : Field} {n : Nesting}

theorem GuidedLevel.IsBuilt.selected_eq (h : l.IsBuilt s bound) :
    l.selected = (selectedEntries l.object).zip
      ((selectedEntries l.object).map (s.fieldSelection (bound - l.depth) l.visited l.fields)) := by
  unfold Level.selected
  rw [show l.set = _ from h, selectionsOf_eq]
  exact zip_orTypename _ _

/-- What stands around two sets is the same only if the sets are. -/
theorem Nesting.around_inj {set set' : List Selection} (h : n.around set = n.around set') : set = set' := by
  unfold Nesting.around at h
  cases hconcrete : n.concrete with
  | none => simpa [hconcrete] using h
  | some concrete => simpa [hconcrete] using h

theorem Nesting.around_ne_nil (nested : set ≠ []) : n.around set ≠ [] := by
  unfold Nesting.around
  cases n.concrete with
  | none => exact nested
  | some concrete => simp

/-- **One step down**: a field that has something below it was nested with one level less of room and with its types
    put to those that were passed. -/
theorem GuidedLevel.IsBuilt.below (h : l.IsBuilt s bound) (held : (e, .field e.1 (n.around set)) ∈ l.selected)
    (nested : set ≠ []) (declared : fieldNamed? l.fields e.1 = some f) (nestable : s.Nestable f.type e.2 n) :
    GuidedLevel.IsBuilt s bound ⟨⟨l.depth + 1, n.sample, set⟩, n.names ++ l.visited, n.fields⟩ := by
  rw [h.selected_eq] at held
  have hfield := eq_of_mem_zip_map held
  have hnesting : s.entryNesting? l.fields e.1 e.2 = some n :=
    (entryNesting?_of_named declared).trans (nesting?_eq_some_iff.mpr nestable)
  have hnotBare : Selection.field e.1 (n.around set) ≠ .bare e.1 := by
    intro hbare
    exact Nesting.around_ne_nil nested (Selection.field.inj hbare).2
  -- The builder leaves bare what it has passed, and this field is not bare.
  have hfresh : n.base ∉ l.visited := by
    intro hvisited
    apply hnotBare
    rw [hfield]
    apply fieldSelection_of_visited
    intro n' hn'
    rwa [← Option.some.inj (hnesting.symm.trans hn')]
  show set = Selection.orTypename (s.selectionsOf (bound - (l.depth + 1)) (n.names ++ l.visited) n.fields n.sample)
  cases hroom : bound - l.depth with
  | zero =>
      rw [hroom, fieldSelection_zero] at hfield
      exact absurd hfield hnotBare
  | succ room =>
      rw [hroom] at hfield
      have hselection := hfield.trans (fieldSelection_of_nesting hnesting hfresh)
      rw [n.selection_eq] at hselection
      rw [show bound - (l.depth + 1) = room by omega]
      exact Nesting.around_inj (Selection.field.inj hselection).2

/-- **Every level that a document reaches was built** as its builder builds one, by induction down the document. -/
theorem Reaches.isBuilt {fragment : String} {maxDepth : Int}
    (h : s.Reaches type value (s.selectionDocument type value fragment maxDepth).selections l) :
    l.IsBuilt s maxDepth.toNat := by
  induction h with
  | root declared => exact selections_of_document declared value fragment maxDepth
  | down _ held nested declared nestable ih => exact ih.below held nested declared nestable

/-- **Under a schema** an object in a field for objects is bare exactly where the reference key is there. -/
theorem GuidedLevel.IsBuilt.eq_bare_iff (h : l.IsBuilt s bound) (hdepth : l.depth < bound)
    (held : (e, selection) ∈ l.selected) (holds : l.HoldsObject s e.1) (hvalue : e.2 = .obj object) :
    selection = .bare e.1 ↔ Entries.has object refKey = true := by
  obtain ⟨f, t, declared, single, found, hkind, fresh⟩ := holds
  rw [h.selected_eq] at held
  rw [eq_of_mem_zip_map held]
  cases href : Entries.has object refKey with
  | true =>
      have hnone : s.nesting? f.type e.2 = none := by
        apply nesting?_of_noSample
        rw [hvalue, sampleOf?_obj single, if_pos href]
      have hbare : s.fieldSelection (bound - l.depth) l.visited l.fields e = .bare e.1 :=
        fieldSelection_of_none ((entryNesting?_of_named declared).trans hnone)
      simp [hbare]
  | false =>
      obtain ⟨fields, hrecord⟩ : ∃ fields, t.body.recordFields? = some fields := by
        cases hbody : t.body with
        | object fields interfaces => exact ⟨fields, rfl⟩
        | _ => simp [NamedType.kind, TypeBody.kind, hbody] at hkind
      have hsample : sampleOf? f.type e.2 = some object := by
        rw [hvalue, sampleOf?_obj single, href, if_neg Bool.false_ne_true]
      have hnesting := (entryNesting?_of_named declared).trans (nesting?_of_record found hsample hrecord)
      obtain ⟨room, hroom⟩ : ∃ room, bound - l.depth = room + 1 := ⟨bound - l.depth - 1, by omega⟩
      rw [hroom]
      have hnested : s.fieldSelection (room + 1) l.visited l.fields e = _ :=
        fieldSelection_of_nesting hnesting fresh
      rw [Nesting.selection_eq] at hnested
      simp [hnested, Selection.bare, Nesting.around_ne_nil (Selection.orTypename_ne_nil _)]

/-- **The builders leave bare what has a reference key**, for every schema, type name, value and depth bound.
    The selections of a level belong, one by one, to the entries of its object that are selected. Take a level that is
    not too deep, and an entry whose value is an object. Under a schema, if the field of this entry is declared with an
    object type that is no list and has not been passed, its selection is bare if and only if the object is a
    reference, or its reference key holds something else than an id. By shape alone the same holds of every object in
    which something can be selected. -/
theorem bare_iff_reference_or_broken (s : Schema) (type : String) (value : Entries) (fragment : String)
    (maxDepth : Int) :
    (∀ l, s.Reaches type value (s.selectionDocument type value fragment maxDepth).selections l →
      l.selected.map Prod.fst = selectedEntries l.object ∧
      ((l.depth : Int) < maxDepth → ∀ e selection object, (e, selection) ∈ l.selected → l.HoldsObject s e.1 →
        e.2 = .obj object → (selection = .bare e.1 ↔ isReference e.2 = true ∨ HasBrokenRef object))) ∧
    ∀ document, shapeDocument? type value maxDepth = some document →
      ∀ l, ShapeReaches value document.selections l →
        l.selected.map Prod.fst = selectedEntries l.object ∧
        ((l.depth : Int) < maxDepth → ∀ e selection object, (e, selection) ∈ l.selected → e.2 = .obj object →
          selectableKeys object ≠ [] →
          (selection = .bare e.1 ↔ isReference e.2 = true ∨ HasBrokenRef object)) := by
  refine ⟨?guided, ?byShape⟩
  case guided =>
    intro l hreaches
    have hbuilt : l.IsBuilt s maxDepth.toNat := hreaches.isBuilt
    refine ⟨by rw [hbuilt.selected_eq, map_fst_zip_map], fun hdepth e selection object held holds hvalue => ?_⟩
    rw [hvalue, ← has_refKey_iff]
    exact hbuilt.eq_bare_iff (by omega) held holds hvalue
  case byShape =>
    intro document hdocument l hreaches
    have hselections : document.selections = shapeSelections maxDepth.toNat value := by
      unfold shapeDocument? at hdocument
      dsimp only at hdocument
      split at hdocument
      · cases hdocument
      · rw [← Option.some.inj hdocument]
    rw [hselections] at hreaches
    have hshaped : l.IsShaped maxDepth.toNat := hreaches.isShaped
    refine ⟨by rw [hshaped.selected_eq, map_fst_zip_map], fun hdepth e selection object held hvalue hkeys => ?_⟩
    rw [hvalue, ← has_refKey_iff]
    exact hshaped.eq_bare_iff (by omega) held hvalue hkeys

/-- A lid that is a reference. -/
def linkedLid : Entries := [("__ref", .str "Lid:1")]

/-- A shelf with a box of which the lid is a reference. -/
def linkedShelf : Entries := [("item", .obj [("__typename", .str "Box"), ("lid", .obj linkedLid)])]

/-- The box in it, one level down, with what a document selects there. -/
def linkedBox : GuidedLevel :=
  ⟨⟨1, [("__typename", .str "Box"), ("lid", .obj linkedLid)], [.bare "lid"]⟩, ["Item", "Box"],
    Shelf.schema.fieldsOf "Box"⟩

/-- The lid is bare in the box, with a schema and without. -/
theorem linkedShelf_lid_is_bare :
    (("lid", .obj linkedLid), .bare "lid") ∈ linkedBox.selected ∧ linkedBox.HoldsObject Shelf.schema "lid" ∧
    Shelf.schema.Reaches "Shelf" linkedShelf
      (Shelf.schema.selectionDocument "Shelf" linkedShelf "" 3).selections linkedBox ∧
    (Selection.bare "lid" = .bare "lid" ↔ isReference (.obj linkedLid) = true ∨ HasBrokenRef linkedLid) ∧
    ∃ document, shapeDocument? "Shelf" linkedShelf 3 = some document ∧
      ShapeReaches linkedShelf document.selections linkedBox.toLevel ∧
      (Selection.bare "lid" = .bare "lid" ↔ isReference (.obj linkedLid) = true ∨ HasBrokenRef linkedLid) := by
  have hheld : (("lid", .obj linkedLid), .bare "lid") ∈ linkedBox.selected := List.mem_singleton_self _
  have hholds : linkedBox.HoldsObject Shelf.schema "lid" :=
    ⟨Shelf.field "lid" (Shelf.ref "OBJECT" "Lid"), _, rfl, rfl, rfl, rfl, by decide⟩
  have hselections : (Shelf.schema.selectionDocument "Shelf" linkedShelf "" 3).selections =
      [.field "item" [.inlineOn "Box" [.bare "lid"]]] := by cbv
  have hdocument : shapeDocument? "Shelf" linkedShelf 3 =
      some ⟨"CacheEdit", "Shelf", [.field "item" [.bare "lid"]]⟩ := by cbv
  have hreaches : Shelf.schema.Reaches "Shelf" linkedShelf [.field "item" [.inlineOn "Box" [.bare "lid"]]]
      linkedBox :=
    .down (f := Shelf.field "item" (Shelf.ref "UNION" "Item"))
      (n := ⟨"Item", some "Box", linkedBox.fields, linkedBox.object⟩)
      (.root (by decide)) (List.mem_singleton_self _) (List.cons_ne_nil _ _) rfl
      (nesting?_eq_some_iff.mp rfl)
  have hreaches' : ShapeReaches linkedShelf [.field "item" [.bare "lid"]] linkedBox.toLevel :=
    .down .root (List.mem_singleton_self _) (List.cons_ne_nil _ _) rfl
  obtain ⟨hguided, hshape⟩ := bare_iff_reference_or_broken Shelf.schema "Shelf" linkedShelf "" 3
  rw [hselections] at hguided ⊢
  exact ⟨hheld, hholds, hreaches, (hguided _ hreaches).2 (by decide) _ _ _ hheld hholds rfl, _, hdocument,
    hreaches', (hshape _ hdocument _ hreaches').2 (by decide) _ _ _ hheld rfl (by decide)⟩

/-- A box in which the reference key of another one holds a number. -/
def numberedBox : Entries := [("inner", .obj [("__ref", .int 1), ("id", .str "b")])]

/-- **What is left bare need not be a reference.** The inner box stays bare, with a schema and without, but its
    reference key holds no id. -/
theorem numberedBox_bare_but_no_reference :
    (¬ ∀ l, Shelf.schema.Reaches "Box" numberedBox
        (Shelf.schema.selectionDocument "Box" numberedBox "" 3).selections l → (l.depth : Int) < 3 →
      ∀ e selection object, (e, selection) ∈ l.selected → l.HoldsObject Shelf.schema e.1 → e.2 = .obj object →
        (selection = .bare e.1 ↔ isReference e.2 = true)) ∧
    ¬ ∀ document, shapeDocument? "Box" numberedBox 3 = some document →
      ∀ l, ShapeReaches numberedBox document.selections l → (l.depth : Int) < 3 →
        ∀ e selection object, (e, selection) ∈ l.selected → e.2 = .obj object → selectableKeys object ≠ [] →
          (selection = .bare e.1 ↔ isReference e.2 = true) := by
  have hnone : isReference (.obj [("__ref", .int 1), ("id", .str "b")]) ≠ true := by decide
  constructor
  · intro h
    have hselections : (Shelf.schema.selectionDocument "Box" numberedBox "" 3).selections = [.bare "inner"] := by
      cbv
    rw [hselections] at h
    have hholds : GuidedLevel.HoldsObject Shelf.schema
        ⟨⟨0, numberedBox, [.bare "inner"]⟩, [], Shelf.schema.fieldsOf "Box"⟩ "inner" :=
      ⟨Shelf.field "inner" (Shelf.ref "OBJECT" "Box"), _, rfl, rfl, rfl, rfl, by decide⟩
    exact hnone ((h _ (.root (by decide)) (by decide) _ _ _ (List.mem_singleton_self _) hholds rfl).mp rfl)
  · intro h
    have hdocument : shapeDocument? "Box" numberedBox 3 = some ⟨"CacheEdit", "Box", [.bare "inner"]⟩ := by cbv
    exact hnone ((h _ hdocument _ .root (by decide) _ _ _ (List.mem_singleton_self _) rfl (by decide)).mp rfl)

end Schema

end GraphQLCache
