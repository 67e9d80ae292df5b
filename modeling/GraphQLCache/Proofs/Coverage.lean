import Mathlib
import GraphQLCache.Proofs.Conformance
import GraphQLCache.Proofs.Forms

/-!
# `Proofs.Coverage` — a document takes all that a default holds

`Schema.SetInFull` says that a selection set takes an object in full: its fields are the keys of the object in
order, and a field is nested exactly where its sample is an object, whatever the depth (`eq_bare_iff`). The
builder has two cuts of its own, the depth and the types on the branch. `coveredAt` says that they never bite
on what the synthesizer made, because it made the same cuts before. It has two kinds of clients: documents of
a default, of a form of its fields and of a form with an item added to one of its lists, where nothing is cut;
and documents of a field that was switched to one of its members, where the names that the field itself puts
on the branch stay cut.

A name that is declared twice counts as its last declaration says. An item that was made for an earlier one is
read by the fields of another type, and then its objects stay bare (`redeclared_list_not_in_full`).

The two sides walk with different sets. The synthesizer remembers the types of the objects above, the root
included; the builder remembers the base names of the fields above and the members they were nested into,
without the root. `Agree` relates them: what the builder remembers lands on what the synthesizer remembers.
-/

namespace GraphQLCache

namespace Schema

/-! ## Selections that take an object in full -/

mutual

/-- **A selection set takes an object in full**: it is a level over the entries other than the tag, or selects
    the tag where there are none. In fields whose base name is in `cut` nothing is nested. -/
inductive SetInFull (s : Schema) (cut : List String) : List Field → Entries → List Selection → Prop
  | tag {fields entries} (empty : ownEntries entries = []) :
      SetInFull s cut fields entries [.bare "__typename"]
  | level {fields entries selections} (nonempty : ownEntries entries ≠ [])
      (level : LevelInFull s cut fields (ownEntries entries) selections) :
      SetInFull s cut fields entries selections

/-- A level takes its entries one by one, each under the last declaration of its key. -/
inductive LevelInFull (s : Schema) (cut : List String) : List Field → Entries → List Selection → Prop
  | nil {fields} : LevelInFull s cut fields [] []
  | cons {fields key value rest f selection selections} (named : fieldNamed? fields key = some f)
      (first : FieldInFull s cut f.type value key selection)
      (others : LevelInFull s cut fields rest selections) :
      LevelInFull s cut fields ((key, value) :: rest) (selection :: selections)

/-- A field is bare without an object to show its shape, and nested with one. Two fields with an object stay
    bare all the same: one whose base name is in `cut`, and one of an interface or a union whose object is of
    a type that declares no fields. -/
inductive FieldInFull (s : Schema) (cut : List String) : TypeRef → Json → String → Selection → Prop
  | flat {type value key} (noSample : sampleObject? type value = none) :
      FieldInFull s cut type value key (.bare key)
  | cut {type value key sample} (shown : sampleObject? type value = some sample)
      (isCut : type.baseName ∈ cut) : FieldInFull s cut type value key (.bare key)
  | fieldless {type value key sample t concrete} (shown : sampleObject? type value = some sample)
      (whole : type.baseName ∉ cut) (found : s.get? type.baseName = some t)
      (isAbstract : t.body.isAbstract = true) (tagged : typename? sample = some concrete)
      (fieldless : s.fieldsOf concrete = []) : FieldInFull s cut type value key (.bare key)
  | object {type value key sample t fields selections} (shown : sampleObject? type value = some sample)
      (whole : type.baseName ∉ cut) (found : s.get? type.baseName = some t)
      (record : t.body.recordFields? = some fields) (below : SetInFull s cut fields sample selections) :
      FieldInFull s cut type value key (.field key selections)
  | member {type value key sample t concrete selections} (shown : sampleObject? type value = some sample)
      (whole : type.baseName ∉ cut) (found : s.get? type.baseName = some t)
      (isAbstract : t.body.isAbstract = true) (tagged : typename? sample = some concrete)
      (declared : s.fieldsOf concrete ≠ [])
      (below : SetInFull s cut (s.fieldsOf concrete) sample selections) :
      FieldInFull s cut type value key (.field key [.inlineOn concrete selections])

end

variable {s : Schema} {cut : List String} {fields : List Field} {entries : Entries}

/-- Something is always selected. -/
theorem SetInFull.ne_nil {selections : List Selection} (h : SetInFull s cut fields entries selections) :
    selections ≠ [] := by
  cases h with
  | tag _ => exact List.cons_ne_nil _ _
  | level nonempty level =>
      intro hnil
      rw [hnil] at level
      -- a level without selections has no entries
      cases hes : ownEntries entries with
      | nil => exact nonempty hes
      | cons e rest =>
          rw [hes] at level
          cases level

/-- What is more than the tag is a level. -/
theorem SetInFull.level_of_ne {selections : List Selection} (h : SetInFull s cut fields entries selections)
    (hne : selections ≠ [.bare "__typename"]) : LevelInFull s cut fields (ownEntries entries) selections := by
  cases h with
  | tag _ => exact absurd rfl hne
  | level _ level => exact level

/-- **When a field stays bare**: it shows no object, or its base name is cut, or under an interface or a union
    the object is of a type that declares no fields. -/
theorem FieldInFull.eq_bare_iff {type : TypeRef} {value : Json} {key : String} {selection : Selection}
    (h : FieldInFull s cut type value key selection) :
    selection = .bare key ↔ ∀ sample, sampleObject? type value = some sample →
      type.baseName ∈ cut ∨ ∃ t concrete, s.get? type.baseName = some t ∧ t.body.isAbstract = true ∧
        typename? sample = some concrete ∧ s.fieldsOf concrete = [] := by
  cases h with
  | flat noSample =>
      refine ⟨fun _ sample hshown => ?_, fun _ => rfl⟩
      cases noSample.symm.trans hshown
  | cut shown isCut => exact ⟨fun _ _ _ => Or.inl isCut, fun _ => rfl⟩
  | @fieldless _ _ _ sample t concrete shown whole found isAbstract tagged fieldless =>
      refine ⟨fun _ sample' hshown => ?_, fun _ => rfl⟩
      cases shown.symm.trans hshown
      exact Or.inr ⟨t, concrete, found, isAbstract, tagged, fieldless⟩
  | @object _ _ _ sample t _ _ shown whole found record below =>
      constructor
      · intro hbare
        cases hbare
        exact absurd rfl below.ne_nil
      · intro hall
        rcases hall sample shown with hcut | ⟨t', concrete, found', habs, _⟩
        · exact absurd hcut whole
        · cases found.symm.trans found'
          rw [TypeBody.isAbstract_of_recordFields record] at habs
          exact absurd habs Bool.noConfusion
  | @member _ _ _ sample t concrete _ shown whole found isAbstract tagged declared below =>
      constructor
      · intro hbare
        cases hbare
      · intro hall
        rcases hall sample shown with hcut | ⟨_, concrete', _, _, tagged', hnone⟩
        · exact absurd hcut whole
        · cases tagged.symm.trans tagged'
          exact absurd hnone declared

/-- A level over entries with selections for each of them. -/
theorem LevelInFull.of_map {selection : String × Json → Selection} {es : Entries}
    (h : ∀ e ∈ es, ∃ f, fieldNamed? fields e.1 = some f ∧
      FieldInFull s cut f.type e.2 e.1 (selection e)) :
    LevelInFull s cut fields es (es.map selection) := by
  induction es with
  | nil => exact .nil
  | cons e rest ih =>
      obtain ⟨f, hnamed, hfield⟩ := h e List.mem_cons_self
      exact .cons hnamed hfield (ih fun e' he' => h e' (List.mem_cons_of_mem _ he'))

/-- A level becomes a selection set, with the tag in the place of no selections. -/
theorem LevelInFull.setInFull {selections : List Selection}
    (h : LevelInFull s cut fields (ownEntries entries) selections) :
    SetInFull s cut fields entries (Selection.orTypename selections) := by
  cases hes : ownEntries entries with
  | nil =>
      rw [hes] at h
      cases h
      exact .tag hes
  | cons e rest =>
      have hne : ownEntries entries ≠ [] := by rw [hes]; exact List.cons_ne_nil _ _
      have hsel : selections ≠ [] := by
        rw [hes] at h
        cases h
        exact List.cons_ne_nil _ _
      rw [Selection.orTypename, if_neg (by rw [List.isEmpty_iff]; exact hsel)]
      exact .level hne h

end Schema

namespace MockContext

variable {c : MockContext} {s : Schema} {room depth : Nat} {visited cut branch : List String} {name : String}
  {t x : NamedType} {fields : List Field} {entries : Entries} {value : Json} {key : String}

/-! ## The two walks -/

/-- **The simulation relation.** All that the builder has on its branch is cut or lands on a type that the
    synthesizer has visited. -/
structure Agree (s : Schema) (cut visited branch : List String) : Prop where
  cut_onBranch : ∀ name ∈ cut, name ∈ branch
  landed : ∀ name ∈ branch, name ∈ cut ∨
    ∃ t x, s.get? name = some t ∧ s.landing t = .concrete x ∧ x.name ∈ visited

theorem Agree.nil : Agree s [] [] [] := ⟨by simp, by simp⟩

/-- One more visited type does no harm. -/
theorem Agree.visit (h : Agree s cut visited branch) (name : String) :
    Agree s cut (name :: visited) branch := by
  refine ⟨h.cut_onBranch, fun n hn => ?_⟩
  rcases h.landed n hn with hcut | ⟨t, x, hget, hland, hx⟩
  · exact Or.inl hcut
  · exact Or.inr ⟨t, x, hget, hland, List.mem_cons_of_mem _ hx⟩

/-- One more name that lands on a visited type. -/
theorem Agree.push (h : Agree s cut visited branch) (hget : s.get? name = some t)
    (hland : s.landing t = .concrete x) (hx : x.name ∈ visited) : Agree s cut visited (name :: branch) := by
  refine ⟨fun n hn => List.mem_cons_of_mem _ (h.cut_onBranch n hn), fun n hn => ?_⟩
  rcases List.mem_cons.mp hn with rfl | hrest
  · exact Or.inr ⟨t, x, hget, hland, hx⟩
  · exact h.landed n hrest

/-- **The builder does not cut what the synthesizer did not**: a name that lands on a new type is not on the
    branch. -/
theorem Agree.not_mem_branch (h : Agree s cut visited branch) (hget : s.get? name = some t)
    (hland : s.landing t = .concrete x) (fresh : x.name ∉ visited) (whole : name ∉ cut) :
    name ∉ branch := by
  intro hmem
  rcases h.landed name hmem with hcut | ⟨t', x', hget', hland', hx'⟩
  · exact whole hcut
  · cases hget.symm.trans hget'
    cases hland.symm.trans hland'
    exact fresh hx'

/-! ## The builder takes what the synthesizer made -/

/-- At `room` the builder takes every filled tree in full, if it has at least as many levels left. -/
def CoveredAt (c : MockContext) (cut : List String) (room : Nat) : Prop :=
  ∀ depth visited branch fields entries, room ≤ depth → Agree c.schema cut visited branch →
    c.Filling room visited fields entries →
    c.schema.SetInFull cut fields entries
      (Selection.orTypename (c.schema.selectionsOf depth branch fields entries))

variable {f : Field} {sample : Entries} {fields' : List Field}

/-- A field that shows no sample is bare. -/
theorem fieldInFull_of_noSample (hsample : sampleObject? f.type value = none)
    (hnamed : Schema.fieldNamed? fields key = some f) :
    s.FieldInFull cut f.type value key (s.fieldSelection depth branch fields (key, value)) := by
  have hnesting : s.entryNesting? fields key value = none := by
    rw [Schema.entryNesting?_of_named hnamed]; exact Schema.nesting?_of_noSample (sampleOf?_of_none hsample)
  rw [Schema.fieldSelection_of_none hnesting]
  exact .flat hsample

/-- A field whose base name was put on the branch from outside is bare. -/
theorem fieldInFull_of_cut (agree : Agree s cut visited branch)
    (hsample : sampleObject? f.type value = some sample)
    (hnamed : Schema.fieldNamed? fields key = some f) (hcut : f.type.baseName ∈ cut) :
    s.FieldInFull cut f.type value key (s.fieldSelection depth branch fields (key, value)) := by
  rw [Schema.fieldSelection_of_visited]
  · exact .cut hsample hcut
  · intro n hn
    rw [Schema.entryNesting?_of_named hnamed] at hn
    rw [Schema.base_of_nesting? hn]
    exact agree.cut_onBranch _ hcut

/-- A record under a field of its own type is nested, and taken in full if trees with less room are. -/
theorem fieldInFull_of_record (regular : c.schema.Regular) (agree : Agree c.schema cut visited branch)
    (below : c.CoveredAt cut room) (hroom : room ≤ depth) (hnamed : Schema.fieldNamed? fields key = some f)
    (hsample : sampleObject? f.type value = some sample) (hsampleOf : sampleOf? f.type value = some sample)
    (whole : f.type.baseName ∉ cut) (hget : c.schema.get? f.type.baseName = some x)
    (hrecord : c.RecordAt room visited x fields' sample) :
    c.schema.FieldInFull cut f.type value key
      (c.schema.fieldSelection (depth + 1) branch fields (key, value)) := by
  have hx := regular.ownNames.get?_name hget
  have hland := Schema.landing_of_concrete (s := c.schema)
    (TypeBody.isAbstract_of_recordFields hrecord.record)
  have hfresh := agree.not_mem_branch hget hland hrecord.fresh whole
  have hnesting := (Schema.entryNesting?_of_named hnamed).trans
    (Schema.nesting?_of_record hget hsampleOf hrecord.record)
  have hagree : Agree c.schema cut (x.name :: visited) (f.type.baseName :: branch) :=
    (agree.visit x.name).push hget hland List.mem_cons_self
  rw [Schema.fieldSelection_of_nesting hnesting hfresh]
  exact .object hsample whole hget hrecord.record
    (below _ _ _ _ _ hroom hagree (hrecord.filling regular hx))

/-- A record under a field of an interface or a union is nested into its type if that declares fields. -/
theorem fieldInFull_of_member (regular : c.schema.Regular) (agree : Agree c.schema cut visited branch)
    (below : c.CoveredAt cut room) (hroom : room ≤ depth) (hnamed : Schema.fieldNamed? fields key = some f)
    (hsample : sampleObject? f.type value = some sample) (hsampleOf : sampleOf? f.type value = some sample)
    (whole : f.type.baseName ∉ cut) (hget : c.schema.get? f.type.baseName = some t)
    (habs : t.body.isAbstract = true) (hland : c.schema.landing t = .concrete x)
    (hrecord : c.RecordAt room visited x fields' sample) :
    c.schema.FieldInFull cut f.type value key
      (c.schema.fieldSelection (depth + 1) branch fields (key, value)) := by
  have hx := Schema.get?_of_landing regular.ownNames hget hland
  have hself := Schema.landing_of_concrete (s := c.schema)
    (TypeBody.isAbstract_of_recordFields hrecord.record)
  have hfields : c.schema.fieldsOf x.name = fields' := by
    rw [Schema.fieldsOf_of_get? hx]
    exact TypeBody.fields_of_recordFields hrecord.record
  have hnesting := (Schema.entryNesting?_of_named hnamed).trans
    (Schema.nesting?_of_abstract hget hsampleOf habs hrecord.typename)
  by_cases hnone : c.schema.fieldsOf x.name = []
  · rw [hnone, List.isEmpty_nil, if_pos rfl] at hnesting
    rw [Schema.fieldSelection_of_none hnesting]
    exact .fieldless hsample whole hget habs hrecord.typename hnone
  · rw [if_neg (by rw [List.isEmpty_iff]; exact hnone)] at hnesting
    have hfresh := agree.not_mem_branch hget hland hrecord.fresh whole
    -- the member lands on itself, so the branch may hold its name as well
    have hagree : Agree c.schema cut (x.name :: visited) (f.type.baseName :: x.name :: branch) :=
      ((agree.visit x.name).push hx hself List.mem_cons_self).push hget hland List.mem_cons_self
    have hfilling : c.Filling room (x.name :: visited) (c.schema.fieldsOf x.name) sample := by
      rw [hfields]; exact hrecord.filling regular hx
    rw [Schema.fieldSelection_of_nesting hnesting hfresh]
    exact .member hsample whole hget habs hrecord.typename hnone (below _ _ _ _ _ hroom hagree hfilling)

/-- **One field.** Without a sample it is bare on both sides; a sample is a record of the type on which the
    type of the field lands, and the builder nests it wherever it was not told to cut. -/
theorem fieldInFull (regular : c.schema.Regular) (agree : Agree c.schema cut visited branch)
    (below : ∀ room' < room, c.CoveredAt cut room') (hroom : room ≤ depth)
    (hnamed : Schema.fieldNamed? fields key = some f) (hwf : f.type.wellFormed = true)
    (hfilled : c.Filled room visited f.type value) :
    c.schema.FieldInFull cut f.type value key (c.schema.fieldSelection depth branch fields (key, value)) := by
  cases hsample : sampleObject? f.type value with
  | none => exact fieldInFull_of_noSample hsample hnamed
  | some sample =>
      by_cases hcut : f.type.baseName ∈ cut
      · exact fieldInFull_of_cut agree hsample hnamed hcut
      · obtain ⟨t, hget, hobj⟩ := hfilled.ofType_eq hwf hsample
        obtain ⟨x, fields', room', hland, rfl, hrecord⟩ := recordAt_of_ofType hobj
        have hx := Schema.get?_of_landing regular.ownNames hget hland
        have hsampleOf := sampleOf?_of_some hsample (hrecord.noReference regular hx)
        obtain ⟨depth, rfl⟩ : ∃ d, depth = d + 1 := ⟨depth - 1, by omega⟩
        have hless : room' ≤ depth := by omega
        have hbelow := below room' (Nat.lt_succ_self room')
        cases habs : t.body.isAbstract with
        | true =>
            exact fieldInFull_of_member regular agree hbelow hless hnamed hsample hsampleOf hcut hget habs
              hland hrecord
        | false =>
            rw [Schema.landing_of_concrete habs] at hland
            cases hland
            exact fieldInFull_of_record regular agree hbelow hless hnamed hsample hsampleOf hcut hget hrecord

/-- **The builder takes every filled tree in full.** The induction is on the room: a record that is nested was
    made with one level less. -/
theorem coveredAt (regular : c.schema.Regular) (cut : List String) (room : Nat) : c.CoveredAt cut room := by
  induction room using Nat.strong_induction_on with
  | _ room ih =>
      intro depth visited branch fields entries hroom agree hfilling
      refine Schema.LevelInFull.setInFull ?_
      rw [Schema.selectionsOf_eq, Schema.filter_isSelectedKey fun e he => (hfilling e he).1]
      refine Schema.LevelInFull.of_map fun e he => ?_
      obtain ⟨_, f, hnamed, hwf, hfilled⟩ := hfilling e he
      exact ⟨f, hnamed, fieldInFull regular agree ih hroom hnamed hwf hfilled⟩

/-! ## Documents -/

section Defaults

variable {type : String} {documentDepth : Int}

/-- A document with as many levels as a tree has room takes the tree in full. -/
theorem document_setInFull (regular : c.schema.Regular) (hfields : c.schema.fieldsOf type ≠ [])
    (agree : Agree c.schema [] visited []) {tree : Entries}
    (hfilling : c.Filling room visited (c.schema.fieldsOf type) tree)
    (hroom : room ≤ documentDepth.toNat) (fragment : String) :
    c.schema.SetInFull [] (c.schema.fieldsOf type) tree
      (c.schema.selectionDocument type tree fragment documentDepth).selections := by
  rw [selections_of_document hfields]
  exact coveredAt regular [] room _ _ _ _ _ hroom agree hfilling

variable (regular : c.schema.Regular) (hacyclic : ¬ c.schema.FirstMembersCycle)

include regular hacyclic

/-- A document takes the default of a record type in full: the builder counts from below the root. -/
theorem document_takes_default {maxDepth : Int} {ref : TypeRef} (hget : c.schema.get? type = some t)
    (hrecord : t.body.recordFields? = some (c.schema.fieldsOf type)) (hfields : c.schema.fieldsOf type ≠ [])
    (hwf : ref.wellFormed = true) (hlist : ref.isList = false) (hbase : ref.baseName = type)
    (hone : 1 ≤ maxDepth) (hle : maxDepth - 1 ≤ documentDepth) (fragment : String) :
    ∃ tree, c.ofRef (roomAt 0 maxDepth) [] ref = some (.obj tree) ∧
      c.schema.SetInFull [] (c.schema.fieldsOf type) tree
        (c.schema.selectionDocument type tree fragment documentDepth).selections := by
  have hroom : roomAt 0 maxDepth = (maxDepth - 1).toNat + 1 := by unfold roomAt; omega
  have hless : (maxDepth - 1).toNat ≤ documentDepth.toNat := by omega
  obtain ⟨tree, htree, hmade⟩ := exists_record hacyclic hrecord [] (by simp) (maxDepth - 1).toNat
  have hknown : c.schema.get? ref.nullable.baseName = some t := by
    rw [TypeRef.baseName_nullable hwf, hbase]; exact hget
  refine ⟨tree, ?_, ?_⟩
  · rw [hroom, ofRef_of_known ((TypeRef.isList_nullable ref).trans hlist) hknown]
    exact htree
  · -- the root is on the synthesizer's path, but not on the branch of the builder
    have hfilling := hmade.filling regular (regular.ownNames.get?_name hget)
    exact document_setInFull regular hfields (Agree.nil.visit t.name) hfilling hless fragment

/-- A document takes a form in full, and also after an item was appended to one of its lists. -/
theorem document_takes_form {maxDepth : Int} (hfields : c.schema.fieldsOf type ≠ [])
    (hle : maxDepth ≤ documentDepth) (fragment : String) :
    ∃ form, c.formOf maxDepth (c.schema.fieldsOf type) = some form ∧
      c.schema.SetInFull [] (c.schema.fieldsOf type) form
        (c.schema.selectionDocument type form fragment documentDepth).selections ∧
      ∀ f, Schema.fieldNamed? (c.schema.fieldsOf type) f.name = some f → f.type.isList = true →
        ∃ item, c.appendItem (roomAt 0 maxDepth) [] [] f.type = some [item] ∧
          c.schema.SetInFull [] (c.schema.fieldsOf type) (Entries.insert form f.name (.arr [item]))
            (c.schema.selectionDocument type (Entries.insert form f.name (.arr [item])) fragment
              documentDepth).selections := by
  have hless : roomAt 0 maxDepth ≤ documentDepth.toNat := by unfold roomAt; omega
  obtain ⟨t, hget⟩ := Schema.exists_of_fieldsOf_ne_nil hfields
  have ht := Schema.mem_values_of_get? hget
  have hbody : t.body.fields = c.schema.fieldsOf type := (Schema.fieldsOf_of_get? hget).symm
  obtain ⟨values, hform, hvalues⟩ := exists_form hacyclic maxDepth (c.schema.fieldsOf type)
  have hfilling := filling_fieldEntries regular ht hbody hvalues
  refine ⟨_, hform, document_setInFull regular hfields .nil hfilling hless fragment, ?_⟩
  intro f hnamed hlist
  have hf : f ∈ t.body.fields := by rw [hbody]; exact Schema.mem_of_fieldNamed? hnamed
  have hwf := regular.wellFormed t ht f hf
  obtain ⟨item, hitem, hfilled⟩ := exists_appendItem hacyclic (roomAt 0 maxDepth) [] hwf hlist
  have hgrown := hfilling.insert (regular.accepted t ht f hf) hnamed hwf hfilled
  exact ⟨item, hitem, document_setInFull regular hfields .nil hgrown hless fragment⟩

end Defaults

/-- **The builder never cuts what the synthesizer made.** In a regular schema without a cycle of first members
    a document takes in full: the default of a record type with fields, with as many levels as the default has
    below its root; a form of these fields, with as many levels as the form; and a form with the default item
    appended to one of its lists, under the declaration that counts for the name. -/
theorem document_takes_defaults_in_full (c : MockContext) (regular : c.schema.Regular)
    (hacyclic : ¬ c.schema.FirstMembersCycle) (type : String) {t : NamedType} {fields : List Field}
    (hget : c.schema.get? type = some t) (hrecord : t.body.recordFields? = some fields)
    (hfields : fields ≠ []) (fragment : String) :
    (∀ ref maxDepth documentDepth, ref.wellFormed = true → ref.isList = false → ref.baseName = type →
      1 ≤ maxDepth → maxDepth - 1 ≤ documentDepth →
      ∃ tree, c.ofRef (roomAt 0 maxDepth) [] ref = some (.obj tree) ∧
        c.schema.SetInFull [] fields tree
          (c.schema.selectionDocument type tree fragment documentDepth).selections) ∧
    (∀ maxDepth documentDepth, maxDepth ≤ documentDepth →
      ∃ form, c.formOf maxDepth (c.schema.fieldsOf type) = some form ∧
        c.schema.SetInFull [] fields form
          (c.schema.selectionDocument type form fragment documentDepth).selections ∧
        ∀ f, Schema.fieldNamed? fields f.name = some f → f.type.isList = true →
          ∃ item, c.appendItem (roomAt 0 maxDepth) [] [] f.type = some [item] ∧
            c.schema.SetInFull [] fields (Entries.insert form f.name (.arr [item]))
              (c.schema.selectionDocument type (Entries.insert form f.name (.arr [item])) fragment
                documentDepth).selections) := by
  have hof : c.schema.fieldsOf type = fields := by
    rw [Schema.fieldsOf_of_get? hget]; exact TypeBody.fields_of_recordFields hrecord
  subst hof
  constructor
  · intro ref maxDepth documentDepth hwf hlist hbase hone hle
    exact document_takes_default regular hacyclic hget hrecord hfields hwf hlist hbase hone hle fragment
  · intro maxDepth documentDepth hle
    exact document_takes_form regular hacyclic hfields hle fragment

/-- The default of a shelf, and a form of it with one more box. -/
theorem shelf_documents_take_defaults_in_full :
    Shelf.schema.Regular ∧ ¬ Shelf.schema.FirstMembersCycle ∧
    (∃ tree, Shelf.context.ofRef (roomAt 0 4) [] (Shelf.ref "OBJECT" "Shelf") = some (.obj tree) ∧
      Shelf.schema.SetInFull [] (Shelf.schema.fieldsOf "Shelf") tree
        (Shelf.schema.selectionDocument "Shelf" tree "" 3).selections) ∧
    (∃ form, Shelf.context.formOf 3 (Shelf.schema.fieldsOf "Shelf") = some form ∧
      ∃ item, Shelf.context.appendItem (roomAt 0 3) [] []
          (.listOf (.nonNull (Shelf.ref "OBJECT" "Box"))) = some [item] ∧
        Shelf.schema.SetInFull [] (Shelf.schema.fieldsOf "Shelf")
          (Entries.insert form "boxes" (.arr [item]))
          (Shelf.schema.selectionDocument "Shelf" (Entries.insert form "boxes" (.arr [item])) ""
            3).selections) := by
  have hacyclic : ¬ Shelf.schema.FirstMembersCycle := by decide
  obtain ⟨hdefault, hform⟩ := document_takes_defaults_in_full Shelf.context Shelf.regular hacyclic "Shelf" rfl
    rfl (List.cons_ne_nil _ _) ""
  obtain ⟨form, hmade, _, hgrown⟩ := hform 3 3 (by decide)
  refine ⟨Shelf.regular, hacyclic, ?_, form, hmade, ?_⟩
  · exact hdefault (Shelf.ref "OBJECT" "Shelf") 4 3 rfl rfl rfl (by decide) (by decide)
  · exact hgrown (Shelf.field "boxes" (.listOf (.nonNull (Shelf.ref "OBJECT" "Box")))) rfl rfl

/-- Racks hold trays, and under the same name once more tags. A tray holds a cup, a tag does not. -/
def rackSchema : Schema :=
  { Schema.empty with
    types := .ofPairs
      [Shelf.object "Rack" [Shelf.field "items" (.listOf (Shelf.ref "OBJECT" "Tray")),
          Shelf.field "items" (.listOf (Shelf.ref "OBJECT" "Tag"))],
        Shelf.object "Tray" [Shelf.field "cup" (Shelf.ref "OBJECT" "Cup")],
        Shelf.object "Tag" [Shelf.field "text" (Shelf.ref "SCALAR" "String")],
        Shelf.object "Cup" [Shelf.field "id" (Shelf.ref "SCALAR" "ID")]] }

def rackContext : MockContext := ⟨rackSchema, .ofMicroseconds 0⟩

/-- A tray by default. -/
def filledTray : Entries :=
  [("__typename", .str "Tray"), ("cup", .obj [("__typename", .str "Cup"), ("id", .str "")])]

/-- **An item of a list that is declared again need not be taken in full.** The later declaration counts, so the
    builder looks for the fields of a tag in the tray, and the cup stays bare. -/
theorem redeclared_list_not_in_full :
    rackSchema.Regular ∧ ¬ rackSchema.FirstMembersCycle ∧
    Shelf.field "items" (.listOf (Shelf.ref "OBJECT" "Tray")) ∈ rackSchema.fieldsOf "Rack" ∧
    rackContext.formOf 2 (rackSchema.fieldsOf "Rack") = some [("items", .arr [])] ∧
    rackContext.appendItem (roomAt 0 2) [] [] (.listOf (Shelf.ref "OBJECT" "Tray")) = some [.obj filledTray] ∧
    (rackSchema.selectionDocument "Rack" (Entries.insert [("items", .arr [])] "items" (.arr [.obj filledTray])) ""
      2).selections = [.field "items" [.bare "cup"]] ∧
    ¬ ∀ f ∈ rackSchema.fieldsOf "Rack", f.type.isList = true →
      ∃ item, rackContext.appendItem (roomAt 0 2) [] [] f.type = some [item] ∧
        rackSchema.SetInFull [] (rackSchema.fieldsOf "Rack")
          (Entries.insert [("items", .arr [])] f.name (.arr [item]))
          (rackSchema.selectionDocument "Rack" (Entries.insert [("items", .arr [])] f.name (.arr [item])) ""
            2).selections := by
  have hdeclared : Shelf.field "items" (.listOf (Shelf.ref "OBJECT" "Tray")) ∈ rackSchema.fieldsOf "Rack" := by
    decide
  have hselections : (rackSchema.selectionDocument "Rack"
      (Entries.insert [("items", .arr [])] "items" (.arr [.obj filledTray])) "" 2).selections =
        [.field "items" [.bare "cup"]] := by cbv
  refine ⟨⟨by decide, by decide, by decide, by decide⟩, by decide, hdeclared, rfl, rfl, hselections,
    fun h => ?_⟩
  obtain ⟨item, hitem, hfull⟩ := h _ hdeclared rfl
  obtain rfl : .obj filledTray = item := (List.cons.inj (Option.some.inj hitem)).1
  have hrack : rackSchema.SetInFull [] (rackSchema.fieldsOf "Rack") [("items", .arr [.obj filledTray])]
      [.field "items" [.bare "cup"]] := by
    rw [← hselections]
    exact hfull
  have hitems : rackSchema.LevelInFull [] (rackSchema.fieldsOf "Rack") [("items", .arr [.obj filledTray])]
      [.field "items" [.bare "cup"]] := hrack.level_of_ne (by simp [Selection.bare])
  cases hitems with
  | cons named first _ =>
      -- The declaration that counts is the list of tags.
      cases named
      cases first with
      | object shown _ found record below =>
          cases shown
          cases found
          cases record
          have hcup := below.level_of_ne (by simp [Selection.bare])
          cases hcup with
          | cons named _ _ => cases named

/-! ## Switched fields -/

/-- The switched field alone: the builder nests it into the member, with both names on the branch. -/
theorem selections_of_switched {type concrete : String} {switched : Entries}
    (hnamed : Schema.fieldNamed? (s.fieldsOf type) f.name = some f)
    (accepted : isAcceptedName f.name = true) (hkey : f.name ≠ typenameKey) (hlist : f.type.isList = false)
    (hget : s.get? f.type.baseName = some t) (habs : t.body.isAbstract = true)
    (htag : typename? switched = some concrete) (hdeclared : s.fieldsOf concrete ≠ [])
    (noReference : Entries.has switched refKey = false) :
    s.selectionsOf (depth + 1) [] (s.fieldsOf type) [(f.name, .obj switched)] =
      [.field f.name [.inlineOn concrete (Selection.orTypename
        (s.selectionsOf depth [f.type.baseName, concrete] (s.fieldsOf concrete) switched))]] := by
  have hsample : sampleObject? f.type (.obj switched) = some switched := by
    rw [sampleObject?, hlist]; rfl
  have hnesting := (Schema.entryNesting?_of_named hnamed).trans
    (Schema.nesting?_of_abstract hget (sampleOf?_of_some hsample noReference) habs htag)
  rw [if_neg (by rw [List.isEmpty_iff]; exact hdeclared)] at hnesting
  have hselected : ([(f.name, Json.obj switched)].filter fun e => isSelectedKey e.1) =
      [(f.name, .obj switched)] := by
    rw [List.filter_eq_self]
    intro e he
    rw [List.mem_singleton.mp he, isSelectedKey, accepted, Bool.and_true]
    exact decide_eq_true hkey
  rw [Schema.selectionsOf_eq, hselected, List.map_singleton,
    Schema.fieldSelection_of_nesting hnesting (by simp)]
  rfl

/-- **What a field is switched to**: a tagged form, which fills the fields of the member, does not look like a
    reference and holds only empty lists. -/
theorem exists_switched (regular : c.schema.Regular) (hacyclic : ¬ c.schema.FirstMembersCycle)
    {concrete : String} (hdeclared : c.schema.fieldsOf concrete ≠ []) (maxDepth : Int) :
    ∃ switched, c.switchMember maxDepth concrete = some (.obj switched) ∧
      typename? switched = some concrete ∧ Entries.has switched refKey = false ∧
      c.Filling (roomAt 0 maxDepth) [] (c.schema.fieldsOf concrete) switched ∧
      ∀ items, Json.OccursIn (.arr items) (.obj switched) → items = [] := by
  obtain ⟨x, hx⟩ := Schema.exists_of_fieldsOf_ne_nil hdeclared
  have hmem := Schema.mem_values_of_get? hx
  have hbody : x.body.fields = c.schema.fieldsOf concrete := (Schema.fieldsOf_of_get? hx).symm
  obtain ⟨values, hform, hvalues⟩ := exists_form hacyclic maxDepth (c.schema.fieldsOf concrete)
  have hname : concrete.isEmpty = false := (Schema.mem_entries_of_get? hx).1
  refine ⟨_, ?_, typename?_tagged _ _, noReference_fieldEntries regular hmem hbody _ values,
    (filling_fieldEntries regular hmem hbody hvalues).tagged _, ?_⟩
  · rw [switchMember, hname, if_neg Bool.false_ne_true, hform]
    rfl
  · intro items hocc
    rcases hocc.tagged_cases with heq | heq | ⟨key, v, hv, hin⟩
    · cases heq
    · cases heq
    · obtain ⟨f, hf, _, rfl⟩ := fieldNamed_of_mem_fieldEntries hv
      have hunfolds : Unfolds c [] 0 maxDepth (.ref f.type) (values f) := unfolds_iff.mpr (hvalues f hf)
      exact hunfolds.conforms.items_eq_nil hin

/-- **A switched field is taken in full, except where it was cut.** In a regular schema without a cycle of
    first members a document nests a field of an interface or a union into the member to which it was
    switched. It takes all of the switched value in full, in which no list hides an object, but for the fields
    whose base name is that of the field itself or the member: those names are on the branch already, and an
    object in such a field stays bare. -/
theorem document_takes_switched_member_except_cut (c : MockContext) (regular : c.schema.Regular)
    (hacyclic : ¬ c.schema.FirstMembersCycle) (type concrete : String) {f : Field} {t : NamedType}
    (hnamed : Schema.fieldNamed? (c.schema.fieldsOf type) f.name = some f) (hkey : f.name ≠ typenameKey)
    (hlist : f.type.isList = false) (hget : c.schema.get? f.type.baseName = some t)
    (habs : t.body.isAbstract = true) (hdeclared : c.schema.fieldsOf concrete ≠ []) (fragment : String)
    {maxDepth documentDepth : Int} (hdepth : 0 ≤ maxDepth) (hle : maxDepth + 1 ≤ documentDepth) :
    ∃ switched below, c.switchMember maxDepth concrete = some (.obj switched) ∧
      (∀ items, Json.OccursIn (.arr items) (.obj switched) → items = []) ∧
      (c.schema.selectionDocument type [(f.name, .obj switched)] fragment documentDepth).selections =
        [.field f.name [.inlineOn concrete below]] ∧
      c.schema.SetInFull [f.type.baseName, concrete] (c.schema.fieldsOf concrete) switched below := by
  have hmem := Schema.mem_of_fieldNamed? hnamed
  obtain ⟨t₀, ht₀⟩ := Schema.exists_of_fieldsOf_ne_nil (List.ne_nil_of_mem hmem)
  have accepted : isAcceptedName f.name = true := by
    rw [Schema.fieldsOf_of_get? ht₀] at hmem
    exact regular.accepted t₀ (Schema.mem_values_of_get? ht₀) f hmem
  obtain ⟨switched, hswitch, htag, noReference, hfilling, hlists⟩ :=
    exists_switched regular hacyclic hdeclared maxDepth
  -- the field itself uses up one level
  obtain ⟨depth, hlevels⟩ : ∃ depth, documentDepth.toNat = depth + 1 := ⟨documentDepth.toNat - 1, by omega⟩
  have hless : roomAt 0 maxDepth ≤ depth := by unfold roomAt; omega
  have hagree : Agree c.schema [f.type.baseName, concrete] [] [f.type.baseName, concrete] :=
    ⟨fun _ h => h, fun _ h => Or.inl h⟩
  refine ⟨switched, _, hswitch, hlists, ?_, coveredAt regular _ _ depth [] _ _ _ hless hagree hfilling⟩
  rw [selections_of_document (List.ne_nil_of_mem (Schema.mem_of_fieldNamed? hnamed)), hlevels,
    selections_of_switched hnamed accepted hkey hlist hget habs htag hdeclared noReference]
  rfl

/-- A box in an item of a shelf: its lid is taken in full, its inner box is not. -/
theorem shelf_document_takes_switched_box :
    Shelf.schema.Regular ∧ ¬ Shelf.schema.FirstMembersCycle ∧ Shelf.schema.fieldsOf "Box" ≠ [] ∧
    ∃ switched below, Shelf.context.switchMember 2 "Box" = some (.obj switched) ∧
      (∀ items, Json.OccursIn (.arr items) (.obj switched) → items = []) ∧
      (Shelf.schema.selectionDocument "Shelf" [("item", .obj switched)] "" 3).selections =
        [.field "item" [.inlineOn "Box" below]] ∧
      Shelf.schema.SetInFull ["Item", "Box"] (Shelf.schema.fieldsOf "Box") switched below := by
  have hacyclic : ¬ Shelf.schema.FirstMembersCycle := by decide
  have hdeclared : Shelf.schema.fieldsOf "Box" ≠ [] := by decide
  refine ⟨Shelf.regular, hacyclic, hdeclared, ?_⟩
  exact document_takes_switched_member_except_cut Shelf.context Shelf.regular hacyclic "Shelf" "Box"
    (f := Shelf.field "item" (Shelf.ref "UNION" "Item")) rfl (by decide) rfl rfl rfl hdeclared ""
    (by decide) (by decide)

/-- What the item of a shelf becomes when it is switched to a box, with one level of room. -/
def switchedBox : Entries :=
  [("__typename", .str "Box"), ("id", .str ""),
    ("inner", .obj [("__typename", .str "Box"), ("id", .str ""), ("inner", .null), ("lid", .null)]),
    ("lid", .obj [("__typename", .str "Lid"), ("gap", .null)])]

/-- **A switched field need not be taken in full.** The box in the switched box is an object, but `inner`
    stays bare, for `Box` is on the branch already. A field under the name of the tag is not selected at all,
    and one whose name is declared again, as a scalar, is not nested. -/
theorem switched_box_not_in_full :
    Shelf.schema.Regular ∧ ¬ Shelf.schema.FirstMembersCycle ∧
    Shelf.field "item" (Shelf.ref "UNION" "Item") ∈ Shelf.schema.fieldsOf "Shelf" ∧
    Shelf.schema.membersOf "Item" = ["Box"] ∧
    Shelf.context.switchMember 1 "Box" = some (.obj switchedBox) ∧
    (Shelf.schema.selectionDocument "Shelf" [("item", .obj switchedBox)] "" 2).selections =
      [.field "item" [.inlineOn "Box" [.bare "id", .bare "inner", .field "lid" [.bare "gap"]]]] ∧
    Shelf.field "__typename" (Shelf.ref "UNION" "Item") ∈ Shelf.schema.fieldsOf "Label" ∧
    (Shelf.schema.selectionDocument "Label" [("__typename", .obj switchedBox)] "" 2).selections =
      [.bare "__typename"] ∧
    Shelf.field "item" (Shelf.ref "UNION" "Item") ∈ Shelf.schema.fieldsOf "Label" ∧
    (Shelf.schema.selectionDocument "Label" [("item", .obj switchedBox)] "" 2).selections =
      [.bare "item"] := by
  refine ⟨Shelf.regular, by decide, by decide, by decide, rfl, by cbv, by decide, by cbv, by decide, by cbv⟩

end MockContext

end GraphQLCache
