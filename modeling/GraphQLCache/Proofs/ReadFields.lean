import GraphQLCache.Proofs.DocumentReading
import GraphQLCache.Proofs.SelectedKeys

/-!
# `Proofs.ReadFields` — which fields a document has when it is read

A document is built from the keys of a value, and what a reader makes of its text is another matter: a key is
accepted with a line end behind it, the line end separates, and the field that is read has the name without
it. So the fields that are read at the top are the settled names of the selectable keys
(`Schema.read_fields_of_document`). They are the keys that are names in full, each under its own name, only
where no key is a name with a line end.

The names of a document come from two places: fields from keys, which the builder checks, and the types of
inline fragments from the schema, which it does not. `Selection.FieldsAccepted` says that the first are
accepted, at every level.
-/

namespace GraphQLCache

open Sdl

/-! ## Settled documents -/

mutual

theorem Selection.filled_settled : (s : Selection) → s.Filled → s.settled.Filled
  | .field _ selections, h => filledAll_settledAll selections h
  | .inlineOn _ [], h => absurd rfl h.1
  | .inlineOn _ (s :: rest), h => ⟨List.cons_ne_nil _ _, filledAll_settledAll (s :: rest) h.2⟩

theorem filledAll_settledAll : (selections : List Selection) → FilledAll selections →
    FilledAll (settledAll selections)
  | [], _ => trivial
  | s :: rest, h => ⟨s.filled_settled h.1, filledAll_settledAll rest h.2⟩

end

theorem settledAll_eq_map (selections : List Selection) :
    settledAll selections = selections.map Selection.settled := by
  induction selections with
  | nil => rfl
  | cons s rest ih => rw [settledAll, ih, List.map_cons]

/-- **A printed document reads back settled**, with each name without the line end behind it. -/
theorem Fragment.parseFragment_settled {f : Fragment} (filled : f.Filled)
    (names : ∀ n ∈ f.names, isAcceptedName n = true) (hname : keyName f.name ≠ "on") :
    parseFragment f.print.toList = .ok f.settled.definition := by
  have hfilled : f.settled.Filled := by
    refine ⟨?_, filledAll_settledAll _ filled.2⟩
    show settledAll f.selections ≠ []
    rw [settledAll_eq_map, ne_eq, List.map_eq_nil_iff]
    exact filled.1
  exact parseFragment_of_lexemes hfilled hname (f.lexemes_tokens_settled names)

/-! ## Fields at the top -/

/-- The name of a field that is read; spreads and inline fragments have none. -/
def Sdl.OperationSelection.fieldName? : OperationSelection → Option String
  | .field _ name _ _ _ => some name
  | .spread _ _ => none
  | .inlineOn _ _ _ => none

/-- The fields that are read of a document have the settled names. -/
theorem fieldNames_operationsOf_settledAll (selections : List Selection) :
    (operationsOf (settledAll selections)).map OperationSelection.fieldName? =
      (selections.map Selection.fieldName?).map (Option.map keyName) := by
  induction selections with
  | nil => rfl
  | cons s rest ih =>
      rw [settledAll, operationsOf, List.map_cons, List.map_cons, List.map_cons, ih]
      cases s <;> rfl

/-- The keys that stand for an object: in the place of none, the tag. -/
def orTag (keys : List String) : List String := if keys.isEmpty then ["__typename"] else keys

theorem fieldNames_orTypename {selections : List Selection} {keys : List String}
    (h : selections.map Selection.fieldName? = keys.map some) :
    (Selection.orTypename selections).map Selection.fieldName? = (orTag keys).map some := by
  unfold Selection.orTypename orTag
  cases selections with
  | nil =>
      rw [List.map_nil, eq_comm, List.map_eq_nil_iff] at h
      rw [h]
      rfl
  | cons s rest =>
      cases keys with
      | nil => cases h
      | cons key keys => exact h

theorem orTag_of_mem {keys : List String} {key : String} (h : key ∈ keys) : orTag keys = keys := by
  cases keys with
  | nil => cases h
  | cons _ _ => rfl

theorem orTag_map_keyName (keys : List String) : orTag (keys.map keyName) = (orTag keys).map keyName := by
  cases keys with
  | nil => rfl
  | cons key keys => rfl

/-! ## Where the names of a document come from -/

mutual

/-- The types of the inline fragments in a selection, at every level. -/
def Selection.conditions : Selection → List String
  | .field _ selections => conditionsOf selections
  | .inlineOn type selections => type :: conditionsOf selections

/-- The types of the inline fragments in selections. -/
def conditionsOf : List Selection → List String
  | [] => []
  | s :: rest => s.conditions ++ conditionsOf rest

end

theorem mem_namesOf {selections : List Selection} {name : String} :
    name ∈ namesOf selections ↔ ∃ s ∈ selections, name ∈ s.names := by
  induction selections with
  | nil => simp [namesOf]
  | cons s rest ih => simp only [namesOf, List.mem_append, ih, List.mem_cons, exists_eq_or_imp]

theorem mem_conditionsOf {selections : List Selection} {name : String} :
    name ∈ conditionsOf selections ↔ ∃ s ∈ selections, name ∈ s.conditions := by
  induction selections with
  | nil => simp [conditionsOf]
  | cons s rest ih => simp only [conditionsOf, List.mem_append, ih, List.mem_cons, exists_eq_or_imp]

/-- **All fields in a selection have accepted names**: any other name in it is the type of an inline
    fragment. -/
def Selection.FieldsAccepted (s : Selection) : Prop :=
  ∀ n ∈ s.names, isAcceptedName n = true ∨ n ∈ s.conditions

section

variable {key type : String} {below : List Selection}

theorem fieldsAccepted_field (accepted : isAcceptedName key = true) (h : ∀ s ∈ below, s.FieldsAccepted) :
    (Selection.field key below).FieldsAccepted := by
  intro n hn
  rcases List.mem_cons.mp hn with rfl | hn
  · exact Or.inl accepted
  · obtain ⟨s, hs, hn⟩ := mem_namesOf.mp hn
    exact (h s hs n hn).imp_right fun hc => mem_conditionsOf.mpr ⟨s, hs, hc⟩

theorem fieldsAccepted_inlineOn (h : ∀ s ∈ below, s.FieldsAccepted) :
    (Selection.inlineOn type below).FieldsAccepted := by
  intro n hn
  rcases List.mem_cons.mp hn with rfl | hn
  · exact Or.inr List.mem_cons_self
  · obtain ⟨s, hs, hn⟩ := mem_namesOf.mp hn
    exact (h s hs n hn).imp_right fun hc => List.mem_cons_of_mem _ (mem_conditionsOf.mpr ⟨s, hs, hc⟩)

theorem fieldsAccepted_bare (accepted : isAcceptedName key = true) : (Selection.bare key).FieldsAccepted :=
  fieldsAccepted_field accepted fun _ hs => nomatch hs

theorem fieldsAccepted_orTypename (h : ∀ s ∈ below, s.FieldsAccepted) :
    ∀ s ∈ Selection.orTypename below, s.FieldsAccepted := by
  unfold Selection.orTypename
  split
  · intro s hs
    rw [List.mem_singleton.mp hs]
    exact fieldsAccepted_bare (by decide)
  · exact h

end

namespace Schema

theorem Nesting.fieldsAccepted_selection (n : Nesting) {key : String} (accepted : isAcceptedName key = true)
    {below : List Selection} (h : ∀ s ∈ below, s.FieldsAccepted) : (n.selection key below).FieldsAccepted := by
  rw [n.selection_eq]
  refine fieldsAccepted_field accepted ?_
  unfold Nesting.around
  cases n.concrete with
  | none => exact fieldsAccepted_orTypename h
  | some concrete =>
      intro s hs
      rw [List.mem_singleton.mp hs]
      exact fieldsAccepted_inlineOn (fieldsAccepted_orTypename h)

/-- **The builder selects accepted keys only**, at every level. -/
theorem fieldsAccepted_selectionsOf (s : Schema) (room : Nat) (visited : List String) (fields : List Field)
    (entries : Entries) : ∀ t ∈ s.selectionsOf room visited fields entries, t.FieldsAccepted := by
  induction room using Nat.strong_induction_on generalizing visited fields entries with
  | _ room ih =>
      rw [selectionsOf_eq]
      intro t ht
      obtain ⟨e, he, rfl⟩ := List.mem_map.mp ht
      have accepted : isAcceptedName e.1 = true := (Bool.and_eq_true_iff.mp (List.mem_filter.mp he).2).2
      unfold fieldSelection
      split
      · exact fieldsAccepted_bare accepted
      · rename_i n _
        split
        · exact fieldsAccepted_bare accepted
        · split
          · exact fieldsAccepted_bare accepted
          · exact n.fieldsAccepted_selection accepted (ih _ (Nat.lt_succ_self _) _ _ _)

end Schema

/-! ## Keys with a line end -/

/-- The keys of an object that are names in full, without the tag. -/
def nameKeys (object : Entries) : List String :=
  (Entries.keys object).filter fun key => key ≠ "__typename" && isName key

/-- A name ends with its last character. -/
theorem isName_lineEnd (name : String) : isName (name ++ "\n") = false := by
  rw [← Bool.not_eq_true]
  intro h
  have hmem : '\n' ∈ (name ++ "\n").toList := by
    rw [String.toList_append]
    exact List.mem_append_right _ (List.mem_singleton_self _)
  exact Spelt.ne_lineEnd (Spelt.all_isNameRest h _ hmem) rfl

/-- **A key is accepted** if it is a name, or a name with a line end. -/
theorem isAcceptedName_iff {key : String} :
    isAcceptedName key = true ↔ isName key = true ∨ ∃ name, isName name = true ∧ key = name ++ "\n" := by
  constructor
  · intro h
    obtain ⟨isWord, hkey | hkey⟩ := key_cases h
    · rw [String.toList_injective hkey]
      exact Or.inl isWord
    · refine Or.inr ⟨keyName key, isWord, String.toList_injective ?_⟩
      rw [hkey, String.toList_append]
      rfl
  · rintro (h | ⟨name, h, rfl⟩)
    · rw [isAcceptedName, h, Bool.true_or]
    · have hlist : (name ++ "\n").toList = name.toList ++ ['\n'] := String.toList_append ..
      rw [isAcceptedName, hlist, List.getLast?_concat, List.dropLast_concat]
      exact Bool.or_eq_true_iff.mpr (Or.inr h)

variable {object : Entries}

/-- A name with a line end that is a key can be selected. -/
theorem lineEnd_mem_selectableKeys {name : String} (h : isName name = true)
    (hmem : name ++ "\n" ∈ Entries.keys object) : name ++ "\n" ∈ selectableKeys object := by
  have hne : name ++ "\n" ≠ "__typename" := by
    intro heq
    have hname := isName_lineEnd name
    rw [heq] at hname
    exact absurd hname (by decide)
  have accepted := isAcceptedName_iff.mpr (Or.inr ⟨name, h, rfl⟩)
  refine List.mem_filter.mpr ⟨hmem, ?_⟩
  rw [isSelectedKey, accepted, Bool.and_true]
  exact decide_eq_true hne

/-- The selectable keys are names in full just if no key is a name with a line end. -/
theorem selectableKeys_isName_iff :
    (∀ key ∈ selectableKeys object, isName key = true) ↔
      ∀ name, isName name = true → name ++ "\n" ∉ Entries.keys object := by
  constructor
  · intro h name hname hmem
    have hkey := h _ (lineEnd_mem_selectableKeys hname hmem)
    exact absurd ((isName_lineEnd name).symm.trans hkey) Bool.noConfusion
  · intro h key hkey
    obtain ⟨hmem, hselected⟩ := List.mem_filter.mp hkey
    rcases isAcceptedName_iff.mp (Bool.and_eq_true_iff.mp hselected).2 with hname | ⟨name, hname, rfl⟩
    · exact hname
    · exact absurd hmem (h name hname)

/-- Where all selectable keys are names, they are the keys that are names. -/
theorem nameKeys_eq (h : ∀ key ∈ selectableKeys object, isName key = true) :
    nameKeys object = selectableKeys object := by
  refine List.filter_congr fun key hmem => ?_
  unfold isSelectedKey
  cases hname : isName key with
  | true => rw [isAcceptedName, hname, Bool.true_or]
  | false =>
      rw [Bool.and_false, eq_comm, ← Bool.not_eq_true]
      intro hselected
      have hkey := h key (List.mem_filter.mpr ⟨hmem, hselected⟩)
      rw [hname] at hkey
      cases hkey

theorem map_keyName {keys : List String} (h : ∀ key ∈ keys, isName key = true) : keys.map keyName = keys :=
  (List.map_congr_left fun key hkey => keyName_of_isName (h key hkey)).trans (List.map_id keys)

/-- The names of the selectable keys, or the tag, are what a document should have: the keys that are names,
    each under its own name. -/
theorem settled_keys_iff :
    (orTag ((selectableKeys object).map keyName) = orTag (nameKeys object) ∧
      orTag ((selectableKeys object).map keyName) = orTag (selectableKeys object)) ↔
    ∀ key ∈ selectableKeys object, isName key = true := by
  constructor
  · rintro ⟨-, hown⟩ key hkey
    rw [orTag_of_mem (List.mem_map_of_mem hkey), orTag_of_mem hkey] at hown
    rw [← hown] at hkey
    obtain ⟨key', hkey', rfl⟩ := List.mem_map.mp hkey
    exact (key_cases (Bool.and_eq_true_iff.mp (List.mem_filter.mp hkey').2).2).1
  · intro h
    rw [map_keyName h, nameKeys_eq h]
    exact ⟨rfl, rfl⟩

namespace Schema

variable {s : Schema} {type fragment : String} {value : Entries} {maxDepth : Int}

/-- The names of a document are accepted if those are that do not come from a key. -/
theorem accepted_names_of_document (hfields : s.fieldsOf type ≠ []) (htype : isName type = true)
    (hfragment : isName fragment = true)
    (hconditions : ∀ c ∈ conditionsOf (s.selectionDocument type value fragment maxDepth).selections,
      isAcceptedName c = true) :
    (s.selectionDocument type value fragment maxDepth).name = fragment ∧
      ∀ n ∈ (s.selectionDocument type value fragment maxDepth).names, isAcceptedName n = true := by
  have hname : (s.selectionDocument type value fragment maxDepth).name = fragment := by
    refine if_neg fun hempty => ?_
    rw [String.isEmpty_iff.mp hempty] at hfragment
    exact absurd hfragment (by decide)
  refine ⟨hname, fun n hn => ?_⟩
  rw [Fragment.names, hname] at hn
  rcases List.mem_cons.mp hn with rfl | hn
  · exact isAcceptedName_iff.mpr (Or.inl hfragment)
  · rcases List.mem_cons.mp hn with rfl | hn
    · exact isAcceptedName_iff.mpr (Or.inl htype)
    · obtain ⟨t, ht, hmem⟩ := mem_namesOf.mp hn
      have fieldsAccepted : t.FieldsAccepted := by
        rw [selections_of_document hfields] at ht
        exact fieldsAccepted_orTypename (s.fieldsAccepted_selectionsOf _ _ _ _) t ht
      rcases fieldsAccepted n hmem with accepted | hc
      · exact accepted
      · exact hconditions n (mem_conditionsOf.mpr ⟨t, ht, hc⟩)

/-- **Which fields a document has when it is read.** Take any schema, any type with declared fields, any fragment
    name, both names in full and the latter not `on`, any value and any depth bound, and let the types of the
    inline fragments be accepted as names. The text then reads as a fragment of this name on this type. Its
    fields at the top are the selectable keys in order, each without the line end that may stand behind it, or
    the tag alone if there are none. They are just the keys that are names in full, and no selectable key is
    read as another field, if and only if no key is a name with a line end behind it. -/
theorem read_fields_of_document (s : Schema) {type fragment : String} (htype : isName type = true)
    (hfragment : isName fragment = true) (hon : fragment ≠ "on") (hfields : s.fieldsOf type ≠ [])
    (value : Entries) (maxDepth : Int)
    (hconditions : ∀ c ∈ conditionsOf (s.selectionDocument type value fragment maxDepth).selections,
      isAcceptedName c = true) :
    ∃ selections, parseFragment (s.selectionDocument type value fragment maxDepth).print.toList =
        .ok (.fragment fragment type [] selections) ∧
      selections.map OperationSelection.fieldName? =
        (orTag ((selectableKeys value).map keyName)).map some ∧
      ((selections.map OperationSelection.fieldName? = (orTag (nameKeys value)).map some ∧
          selections.map OperationSelection.fieldName? = (orTag (selectableKeys value)).map some) ↔
        ∀ name, isName name = true → name ++ "\n" ∉ Entries.keys value) := by
  obtain ⟨hname, names⟩ := accepted_names_of_document hfields htype hfragment hconditions
  have filled := (Fragment.Built.guided s type value fragment maxDepth).filled
  have hread := Fragment.parseFragment_settled filled names (by rwa [hname, keyName_of_isName hfragment])
  have hfieldNames : (operationsOf (settledAll (s.selectionDocument type value fragment maxDepth).selections)).map
      OperationSelection.fieldName? = (orTag ((selectableKeys value).map keyName)).map some := by
    rw [fieldNames_operationsOf_settledAll, selections_of_document hfields,
      fieldNames_orTypename fieldNames_selectionsOf, orTag_map_keyName, List.map_map, List.map_map]
    rfl
  refine ⟨_, ?_, hfieldNames, ?_⟩
  · rw [hread, Fragment.definition, Fragment.settled, hname, keyName_of_isName hfragment]
    show Except.ok (Definition.fragment fragment (keyName type) _ _) = _
    rw [keyName_of_isName htype]
  · have hinjective : Function.Injective (List.map (some : String → Option String)) :=
      List.map_injective_iff.mpr fun _ _ => Option.some.inj
    rw [hfieldNames, hinjective.eq_iff, hinjective.eq_iff, settled_keys_iff, selectableKeys_isName_iff]

/-- A shelf with a nested item reads back with the keys that were filled in. -/
theorem filledShelf_fields_read :
    isName "Shelf" = true ∧ isName "Part" = true ∧ "Part" ≠ "on" ∧ Shelf.schema.fieldsOf "Shelf" ≠ [] ∧
    conditionsOf (Shelf.schema.selectionDocument "Shelf" filledShelf "Part" 3).selections = ["Box"] ∧
    ∃ selections, parseFragment (Shelf.schema.selectionDocument "Shelf" filledShelf "Part" 3).print.toList =
        .ok (.fragment "Part" "Shelf" [] selections) ∧
      selections.map OperationSelection.fieldName? = [some "item", some "boxes", some "note"] := by
  have htype : isName "Shelf" = true := by decide
  have hfragment : isName "Part" = true := by decide
  have hon : "Part" ≠ "on" := by decide
  have hfields : Shelf.schema.fieldsOf "Shelf" ≠ [] := by decide
  have hconditions : conditionsOf (Shelf.schema.selectionDocument "Shelf" filledShelf "Part" 3).selections =
      ["Box"] := by decide +kernel
  have accepted : ∀ c ∈ conditionsOf (Shelf.schema.selectionDocument "Shelf" filledShelf "Part" 3).selections,
      isAcceptedName c = true := by rw [hconditions]; decide
  obtain ⟨selections, hread, hnames, -⟩ :=
    read_fields_of_document Shelf.schema htype hfragment hon hfields filledShelf 3 accepted
  exact ⟨htype, hfragment, hon, hfields, hconditions, selections, hread, hnames.trans (by decide +kernel)⟩

/-- A shelf with a line end behind a key. -/
def brokenShelf : Entries := [("id\n", .str "1"), ("name", .str "Top")]

/-- The broken key is no name and yet it is read, as another field. -/
theorem brokenShelf_fields_read :
    isName "Shelf" = true ∧ isName "Part" = true ∧ "Part" ≠ "on" ∧ Shelf.schema.fieldsOf "Shelf" ≠ [] ∧
    nameKeys brokenShelf = ["name"] ∧
    ∃ selections, parseFragment (Shelf.schema.selectionDocument "Shelf" brokenShelf "Part" 3).print.toList =
        .ok (.fragment "Part" "Shelf" [] selections) ∧
      selections.map OperationSelection.fieldName? = [some "id", some "name"] ∧
      selections.map OperationSelection.fieldName? ≠ (orTag (nameKeys brokenShelf)).map some := by
  have hkeys : nameKeys brokenShelf = ["name"] := by decide
  have filled := (Fragment.Built.guided Shelf.schema "Shelf" brokenShelf "Part" 3).filled
  have hread := Fragment.parseFragment_settled filled (by decide +kernel) (by decide +kernel)
  have hnames : (operationsOf (settledAll
      (Shelf.schema.selectionDocument "Shelf" brokenShelf "Part" 3).selections)).map
      OperationSelection.fieldName? = [some "id", some "name"] := by
    rw [fieldNames_operationsOf_settledAll]
    decide +kernel
  refine ⟨by decide, by decide, by decide, by decide, hkeys, _, hread, hnames, fun h => ?_⟩
  rw [hkeys] at h
  exact absurd (hnames.symm.trans h) (by decide)

end Schema

end GraphQLCache
