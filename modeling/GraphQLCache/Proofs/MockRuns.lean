import GraphQLCache.Proofs.CommandLines
import GraphQLCache.Proofs.Conformance
import GraphQLCache.Proofs.JsonRoundTrip

/-!
# `Proofs.MockRuns` — mock commands that read what mock commands print

What `mock defaults` prints is the value tree that `mock fragment` starts from, and what `mock item` prints is
the list that the next `mock item` adds to (`mock_output_pipeable`). Both rest on two facts: a default can be
stored in a file (`Conforms.storable`), and the plain command lines are understood (`readCall_line`). One run on
a file is a step (`runLine_item_saving`); runs in a row are settled by induction on their number
(`itemRuns_spec`).
-/

namespace GraphQLCache

/-! ## Defaults can be stored -/

theorem storable_scalarDefault (clock : Clock) (name : String) : (scalarDefault clock name).Storable := by
  unfold scalarDefault
  split
  case h_1 | h_2 | h_3 => exact .int (by decide)
  case h_4 => exact .zero
  case h_5 => exact .bool false
  all_goals exact .str _

/-- The first of each name are distinct, as keys of an object are. -/
theorem nodup_eraseDups (names : List String) : names.eraseDups.Nodup := by
  have hkeys := Entries.nodup_ofPairs (names.map fun name => (name, Json.null))
  have hnames : (names.map fun name => (name, Json.null)).map (·.1) = names := by
    rw [List.map_map]
    exact List.map_id names
  rwa [Entries.keys_ofPairs, hnames] at hkeys

namespace MockContext

variable {c : MockContext} {visited : List String} {depth maxDepth : Int} {demand : Demand} {value : Json}

/-- **A conforming value can be stored**: the keys of an object are its tag, then distinct names of fields. -/
theorem Conforms.storable (h : c.Conforms demand value) : value.Storable := by
  induction h with
  | list _ => exact .arr fun _ h => absurd h List.not_mem_nil
  | unknown _ _ => exact storable_scalarDefault _ _
  | known _ _ _ ih => exact ih
  | scalar _ => exact storable_scalarDefault _ _
  | enum _ => exact .str _
  | cut _ => exact .null
  | @object t fields members _ keys _ ih =>
      refine .obj (List.nodup_cons.mpr ⟨fun htag => ?_, ?_⟩) (List.forall_mem_cons.mpr ⟨.str _, ?_⟩)
      · have htag : typenameKey ∈ Entries.keys members := htag
        rw [keys, List.mem_eraseDups] at htag
        obtain ⟨f, hf, hname⟩ := List.mem_map.mp htag
        exact (mem_ownFields.mp hf).2 hname
      · change (Entries.keys members).Nodup
        rw [keys]
        exact nodup_eraseDups _
      · rintro ⟨key, v⟩ hmem
        obtain ⟨f, hnamed⟩ := exists_fieldNamed keys hmem
        exact ih key v f hmem hnamed
  | noMember _ _ => exact .null
  | member _ _ ih => exact ih

/-- **Every default can be stored.** -/
theorem storable_of_demanded (h : c.demanded (roomAt depth maxDepth) visited demand = some value) :
    value.Storable :=
  (unfolds_iff.mpr h).conforms.storable

/-- **With room an object type has an object for its default**, in a schema without a cycle of first members. -/
theorem exists_ofType_obj (hacyclic : ¬ c.schema.FirstMembersCycle) {t : NamedType}
    (hrecord : t.body.recordFields?.isSome) (hdepth : 1 ≤ maxDepth) :
    ∃ entries, c.ofType (roomAt 0 maxDepth) [] t = some (.obj entries) := by
  obtain ⟨fields, hfields⟩ := Option.isSome_iff_exists.mp hrecord
  obtain ⟨room, hroom⟩ : ∃ room, roomAt 0 maxDepth = room + 1 :=
    Nat.exists_eq_succ_of_ne_zero fun h => by have := roomAt_eq_zero.mp h; omega
  have hsome : (fieldsBy (c.ofRef room [t.name]) fields).isSome :=
    fieldsBy_isSome (ofRef_isSome hacyclic room [t.name]) fields
  obtain ⟨pairs, hpairs⟩ := Option.isSome_iff_exists.mp hsome
  rw [hroom, ofType_of_record hfields List.not_mem_nil, hpairs]
  exact ⟨_, rfl⟩

end MockContext

namespace Command

/-! ## Settings -/

/-- What an outcome shows. -/
def Outcome.output : Outcome → String
  | .done _ output => output
  | .failed _ => ""

/-- A setting in which what an outcome shows is saved in a file. -/
def Setting.saving (s : Setting) (file : String) (o : Outcome) : Setting :=
  { s with files := fun path => if path = file then .file (encodeText o.output) else s.files path }

/-- There is a schema file under a path. -/
def HoldsSchema (s : Setting) (path : String) (schema : Schema) : Prop :=
  ∃ bytes skips, s.files path = .file bytes ∧ loadSchemaFile path bytes = .ok (schema, skips)

variable {s : Setting} {path file : String} {schema : Schema} {o : Outcome}

theorem files_saving (s : Setting) (file : String) (o : Outcome) :
    (s.saving file o).files file = .file (encodeText o.output) := if_pos rfl

theorem isThere_saving (s : Setting) (file : String) (o : Outcome) :
    ((s.saving file o).files file).isThere = true := by
  rw [files_saving]
  rfl

/-- Saving elsewhere keeps a schema file. -/
theorem HoldsSchema.saving (h : HoldsSchema s path schema) (hne : file ≠ path) (o : Outcome) :
    HoldsSchema (s.saving file o) path schema := by
  obtain ⟨bytes, skips, hfile, hload⟩ := h
  exact ⟨bytes, skips, (if_neg hne.symm).trans hfile, hload⟩

theorem HoldsSchema.isThere (h : HoldsSchema s path schema) : (s.files path).isThere = true := by
  obtain ⟨bytes, skips, hfile, -⟩ := h
  rw [hfile]
  rfl

theorem HoldsSchema.schemaOf_eq (h : HoldsSchema s path schema) :
    ∃ skips, schemaOf s path = .ok (schema, skips) := by
  obtain ⟨bytes, skips, hfile, hload⟩ := h
  refine ⟨skips, ?_⟩
  rw [schemaOf, bytesOf, hfile]
  dsimp only [bind, Except.bind]
  rw [hload]
  rfl

/-- **What was printed is read back** from the file that it was saved in. -/
theorem dataOf_saving {j : Json} (h : j.Storable) (s : Setting) (file : String) :
    dataOf (s.saving file (.done 0 (showJson j))) file = .ok j := by
  have hread : readJsonFile (encodeText (showJson j)) = .ok j := readJsonFile_pretty h
  rw [dataOf, bytesOf, files_saving, Outcome.output]
  dsimp only [bind, Except.bind]
  rw [hread]
  rfl

/-- Printed values have no carriage returns. -/
theorem ofOutput_showJson {j : Json} (h : j.Storable) (exit : Nat) :
    Outcome.ofOutput exit (showJson j) = .done exit (showJson j) := by
  refine ofOutput_of_not_mem fun hmem => ?_
  rw [showJson, Json.pretty, String.toList_append, String.toList_ofList, List.mem_append] at hmem
  rcases hmem with hmem | hmem
  · exact ((h.prints 0).ascii _ hmem).2 rfl
  · exact absurd hmem (by decide)

/-! ## What the commands print -/

/-- **What mock commands are called on**: a file that holds a schema without a cycle of first members, under a
    path that is not spelt like an option, and an object type or input object type under a proper name. -/
structure MockTarget (s : Setting) (path : String) (schema : Schema) (name : String) (t : NamedType) :
    Prop where
  holds : HoldsSchema s path schema
  argument : isOptionWord path = false
  acyclic : ¬ schema.FirstMembersCycle
  found : schema.get? name = some t
  record : t.body.recordFields?.isSome
  named : isName name = true

/-- `mock defaults` with a depth. -/
def defaultsLine (path name : String) (m : Int) : List String :=
  ["mock", "defaults", path, name, "--max-depth", numeral m]

/-- `mock fragment` on a file, with a depth. -/
def fragmentLine (path name file : String) (m : Int) : List String :=
  ["mock", "fragment", path, name, "--data", file, "--max-depth", numeral m]

/-- `mock item` with a depth, on a file if there is one. -/
def itemLine (path name field : String) : (file : Option String) → (m : Int) → List String
  | none, m => ["mock", "item", path, name, field, "--max-depth", numeral m]
  | some file, m => ["mock", "item", path, name, field, "--data", file, "--max-depth", numeral m]

theorem defaultsLine_eq (path name : String) (m : Int) :
    defaultsLine path name m = CommandName.mockDefaults.line [path, name] [("--max-depth", numeral m)] := rfl

theorem fragmentLine_eq (path name file : String) (m : Int) :
    fragmentLine path name file m =
      CommandName.mockFragment.line [path, name] [("--data", file), ("--max-depth", numeral m)] := rfl

theorem itemLine_none (path name field : String) (m : Int) :
    itemLine path name field none m =
      CommandName.mockItem.line [path, name, field] [("--max-depth", numeral m)] := rfl

theorem itemLine_some (path name field file : String) (m : Int) :
    itemLine path name field (some file) m =
      CommandName.mockItem.line [path, name, field] [("--data", file), ("--max-depth", numeral m)] := rfl

/-- The field of a type that a name declares first. -/
def firstField? (schema : Schema) (name field : String) : Option Field :=
  (schema.fieldsOf name).find? (·.name = field)

section Prints

variable {name field : String} {t : NamedType} {m : Int} {value item : Json} {entries : Entries} {f : Field}
  {items : List Json} {given : Given}

theorem MockTarget.wordsOf (target : MockTarget s path schema name t) :
    ∀ word ∈ [path, name], isOptionWord word = false :=
  List.forall_mem_cons.mpr
    ⟨target.argument, List.forall_mem_singleton.mpr (isOptionWord_of_isName target.named)⟩

/-- **`mock defaults` prints the default of its type.** -/
theorem prints_defaults (target : MockTarget s path schema name t) (hm : FewDigits Text.maxIntegerDigits m)
    (hvalue : (mockContext s schema).ofType (roomAt 0 m) [] t = some value) :
    Prints s (defaultsLine path name m) (showJson value) := by
  have hdepth : (Given.mk [("--max-depth", numeral m)] [path, name]).integer? "--max-depth" = some m :=
    Given.integer?_of_fewDigits rfl hm
  rw [defaultsLine_eq]
  refine ⟨.mockDefaults, _, readCall_line target.wordsOf ?_ ?_, ?_⟩
  · simp [CommandName.arguments, argumentFaults, pathFault, target.holds.isThere]
  · exact List.forall_mem_singleton.mpr (.numeral rfl rfl rfl hm)
  · obtain ⟨skips, hschema⟩ := target.holds.schemaOf_eq
    have hname : (Given.mk [("--max-depth", numeral m)] [path, name]).argument 1 = name := rfl
    have hpath : (Given.mk [("--max-depth", numeral m)] [path, name]).argument 0 = path := rfl
    rw [runCommand, printDefaults, hpath, hschema, hname, hdepth]
    dsimp only [bind, Except.bind]
    rw [typeOf, target.found]
    dsimp only
    rw [Option.getD_some, hvalue]
    rfl

theorem dataPath?_of_text (hfile : file ≠ "") (h : given.text? "--data" = some file) :
    dataPath? given = some file := by
  rw [dataPath?, h, TypeRef.properName?, if_neg]
  rwa [String.isEmpty_iff]

/-- **`mock fragment` prints the document of the value tree** that it reads. -/
theorem prints_fragment (target : MockTarget s path schema name t) (hm : FewDigits Text.maxIntegerDigits m)
    (hfile : file ≠ "") (hthere : (s.files file).isThere = true) (hdata : dataOf s file = .ok (.obj entries)) :
    Prints s (fragmentLine path name file m) ((schema.selectionDocument name entries "" m).print ++ "\n") := by
  set options := [("--data", file), ("--max-depth", numeral m)]
  have hdepth : (Given.mk options [path, name]).integer? "--max-depth" = some m :=
    Given.integer?_of_fewDigits rfl hm
  have hdatapath : dataPath? ⟨options, [path, name]⟩ = some file := dataPath?_of_text hfile rfl
  rw [fragmentLine_eq]
  refine ⟨.mockFragment, _, readCall_line target.wordsOf ?_ ?_, ?_⟩
  · simp [CommandName.arguments, argumentFaults, pathFault, target.holds.isThere]
  · exact List.forall_mem_cons.mpr
      ⟨.path rfl rfl rfl hthere, List.forall_mem_singleton.mpr (.numeral rfl rfl rfl hm)⟩
  · obtain ⟨skips, hschema⟩ := target.holds.schemaOf_eq
    have hname : (Given.mk options [path, name]).argument 1 = name := rfl
    have hpath : (Given.mk options [path, name]).argument 0 = path := rfl
    rw [runCommand, printFragment, hpath, hschema, hname, hdepth, hdatapath]
    dsimp only [bind, Except.bind]
    rw [typeOf, target.found]
    dsimp only
    rw [valueTreeOf, hdata]
    rfl

/-- A field of a type that a list is started or extended for. -/
structure ListField (schema : Schema) (name field : String) (f : Field) : Prop where
  first : firstField? schema name field = some f
  list : f.type.isList = true
  named : isName field = true

/-- A list with one default more: the list of the file that is given, or the empty one if there is none. -/
theorem printItem_eq (hholds : HoldsSchema s path schema) (hfield : ListField schema name field f)
    (harguments : given.arguments = [path, name, field]) (hdepth : given.integer? "--max-depth" = some m)
    (hitem : (mockContext s schema).listItem (roomAt 0 m) [] f.type = some item)
    (hitems : (dataPath? given = none ∧ items = []) ∨
      ∃ file, dataPath? given = some file ∧ dataOf s file = .ok (.arr items)) :
    printItem s given = .ok (showJson (.arr (items ++ [item]))) := by
  obtain ⟨skips, hschema⟩ := hholds.schemaOf_eq
  have hpath : given.argument 0 = path := by rw [Given.argument, harguments]; rfl
  have hname : given.argument 1 = name := by rw [Given.argument, harguments]; rfl
  have hword : given.argument 2 = field := by rw [Given.argument, harguments]; rfl
  have hfirst : (schema.fieldsOf name).find? (·.name = field) = some f := hfield.first
  have hlist : (!f.type.isList) = false := by rw [hfield.list]; rfl
  have happend : (mockContext s schema).appendItem (roomAt 0 m) [] items f.type = some (items ++ [item]) := by
    rw [MockContext.appendItem, hitem]
    rfl
  rw [printItem, hpath, hschema, hname, hword, hdepth]
  dsimp only [bind, Except.bind]
  rw [hfirst]
  dsimp only
  rw [hlist, if_neg Bool.false_ne_true, Option.getD_some]
  rcases hitems with ⟨hnone, rfl⟩ | ⟨file, hfile, hdata⟩
  · rw [hnone]
    dsimp only [pure, Except.pure]
    rw [happend]
    rfl
  · rw [hfile]
    dsimp only
    rw [itemsOf, hdata]
    dsimp only [bind, Except.bind, pure, Except.pure]
    rw [happend]
    rfl

theorem argumentFaults_item (hholds : HoldsSchema s path schema) (name field : String) :
    argumentFaults (fun path => (s.files path).isThere) CommandName.mockItem.arguments [path, name, field] =
      [] := by
  simp [CommandName.arguments, argumentFaults, pathFault, hholds.isThere]

theorem MockTarget.itemWords (target : MockTarget s path schema name t)
    (hfield : ListField schema name field f) :
    ∀ word ∈ [path, name, field], isOptionWord word = false := by
  have hwords := target.wordsOf
  intro word hword
  simp only [List.mem_cons, List.not_mem_nil, or_false] at hword hwords
  rcases hword with rfl | rfl | rfl
  · exact hwords _ (.inl rfl)
  · exact hwords _ (.inr rfl)
  · exact isOptionWord_of_isName hfield.named

/-- **`mock item` without a file prints a list of one default.** -/
theorem prints_item (target : MockTarget s path schema name t) (hfield : ListField schema name field f)
    (hm : FewDigits Text.maxIntegerDigits m)
    (hitem : (mockContext s schema).listItem (roomAt 0 m) [] f.type = some item) :
    Prints s (itemLine path name field none m) (showJson (.arr [item])) := by
  set given : Given := ⟨[("--max-depth", numeral m)], [path, name, field]⟩
  have hdepth : given.integer? "--max-depth" = some m := Given.integer?_of_fewDigits rfl hm
  have hwords := target.itemWords hfield
  have harguments := argumentFaults_item target.holds name field
  rw [itemLine_none]
  refine ⟨.mockItem, given, readCall_line hwords harguments ?_, ?_⟩
  · exact List.forall_mem_singleton.mpr (.numeral rfl rfl rfl hm)
  · change printItem s _ = .ok (showJson (.arr ([] ++ [item])))
    exact printItem_eq target.holds hfield rfl hdepth hitem (.inl ⟨rfl, rfl⟩)

/-- **`mock item` on a file prints the list of the file with one default more.** -/
theorem prints_item_from (target : MockTarget s path schema name t) (hfield : ListField schema name field f)
    (hm : FewDigits Text.maxIntegerDigits m) (hfile : file ≠ "") (hthere : (s.files file).isThere = true)
    (hdata : dataOf s file = .ok (.arr items))
    (hitem : (mockContext s schema).listItem (roomAt 0 m) [] f.type = some item) :
    Prints s (itemLine path name field (some file) m) (showJson (.arr (items ++ [item]))) := by
  set options := [("--data", file), ("--max-depth", numeral m)]
  have hdepth : (Given.mk options [path, name, field]).integer? "--max-depth" = some m :=
    Given.integer?_of_fewDigits rfl hm
  have hdatapath : dataPath? ⟨options, [path, name, field]⟩ = some file := dataPath?_of_text hfile rfl
  rw [itemLine_some]
  have hwords := target.itemWords hfield
  have harguments := argumentFaults_item target.holds name field
  refine ⟨.mockItem, _, readCall_line hwords harguments ?_, ?_⟩
  · exact List.forall_mem_cons.mpr
      ⟨.path rfl rfl rfl hthere, List.forall_mem_singleton.mpr (.numeral rfl rfl rfl hm)⟩
  · exact printItem_eq target.holds hfield rfl hdepth hitem (.inr ⟨file, hdatapath, hdata⟩)

end Prints

/-! ## Runs in a row -/

/-- The runs of `mock item` in a row, each after the first on what the one before it shows: the setting that a
    run finds, and what it comes to. What run `k` shows is saved in `file k`. -/
def itemRuns (s : Setting) (path name field : String) (m : Int) (file : Nat → String) :
    Nat → Setting × Outcome
  | 0 => (s, runLine s (itemLine path name field none m))
  | k + 1 =>
    let (before, o) := itemRuns s path name field m file k
    let found := before.saving (file k) o
    (found, runLine found (itemLine path name field (some (file k)) m))

section Runs

variable {name field : String} {t : NamedType} {m : Int} {item : Json} {f : Field} {items : List Json}

theorem MockTarget.saving (target : MockTarget s path schema name t) (hne : file ≠ path) (o : Outcome) :
    MockTarget (s.saving file o) path schema name t :=
  { target with holds := target.holds.saving hne o }

/-- A value that can be stored is shown as it is printed. -/
theorem Prints.runLine_showJson {words : List String} {j : Json} (h : Prints s words (showJson j))
    (hj : j.Storable) : runLine s words = .done 0 (showJson j) := by
  rw [h.runLine_eq, ofOutput_showJson hj]

/-- **One run more adds one default** to a list that was shown. -/
theorem runLine_item_saving (target : MockTarget s path schema name t) (hfield : ListField schema name field f)
    (hm : FewDigits Text.maxIntegerDigits m) (hne : file ≠ path) (hfile : file ≠ "")
    (hitem : (mockContext s schema).listItem (roomAt 0 m) [] f.type = some item) (hstored : item.Storable)
    (hitems : ∀ i ∈ items, i.Storable) :
    runLine (s.saving file (.done 0 (showJson (.arr items)))) (itemLine path name field (some file) m) =
      .done 0 (showJson (.arr (items ++ [item]))) := by
  have hmore : ∀ i ∈ items ++ [item], i.Storable := by
    intro i hi
    rcases List.mem_append.mp hi with h | h
    · exact hitems i h
    · rwa [List.mem_singleton.mp h]
  have hprints := prints_item_from (target.saving hne (.done 0 (showJson (.arr items)))) hfield hm hfile
    (isThere_saving ..) (dataOf_saving (.arr hitems) s file) hitem
  exact hprints.runLine_showJson (.arr hmore)

/-- **What holds of every run**: the schema file and the clock are as they were, and what is shown is a list of
    equal defaults. -/
theorem itemRuns_spec (target : MockTarget s path schema name t) (hfield : ListField schema name field f)
    (hm : FewDigits Text.maxIntegerDigits m)
    (hitem : (mockContext s schema).listItem (roomAt 0 m) [] f.type = some item) (hstored : item.Storable)
    {file : Nat → String} (hfile : ∀ k, file k ≠ path ∧ file k ≠ "") (k : Nat) :
    MockTarget (itemRuns s path name field m file k).1 path schema name t ∧
      (itemRuns s path name field m file k).1.clock = s.clock ∧
      (itemRuns s path name field m file k).2 = .done 0 (showJson (.arr (List.replicate (k + 1) item))) := by
  induction k with
  | zero =>
      have hone : ∀ i ∈ [item], i.Storable := List.forall_mem_singleton.mpr hstored
      exact ⟨target, rfl, (prints_item target hfield hm hitem).runLine_showJson (.arr hone)⟩
  | succ k ih =>
      obtain ⟨htarget, hclock, houtcome⟩ := ih
      -- the default may be a date, so that it is the same only under the same clock
      have hcontext : mockContext (itemRuns s path name field m file k).1 schema = mockContext s schema := by
        rw [mockContext, hclock]
        rfl
      rw [← hcontext] at hitem
      have hreplicate : ∀ i ∈ List.replicate (k + 1) item, i.Storable := by
        intro i hi
        rwa [List.eq_of_mem_replicate hi]
      have hrun := runLine_item_saving htarget hfield hm (hfile k).1 (hfile k).2 hitem hstored hreplicate
      rw [← List.replicate_succ'] at hrun
      rw [itemRuns]
      dsimp only
      rw [houtcome]
      exact ⟨htarget.saving (hfile k).1 _, hclock, hrun⟩

end Runs

/-- **What mock commands print can be piped into mock commands.** The value that `mock defaults` prints is an
    object, and `mock fragment` on a file of it prints the document of that object. Every run of `mock item` on
    what the run before it shows prints a list with one default more, all of them equal. Depths have no more
    digits than are read. -/
theorem mock_output_pipeable {name : String} {t : NamedType} {m : Int}
    (target : MockTarget s path schema name t) (hpositive : 1 ≤ m)
    (hm : FewDigits Text.maxIntegerDigits m) :
    (∃ value, (mockContext s schema).ofType (roomAt 0 m) [] t = some (.obj value) ∧
      runLine s (defaultsLine path name m) = .done 0 (showJson (.obj value)) ∧
      ∀ file M, file ≠ path → file ≠ "" → FewDigits Text.maxIntegerDigits M →
        let saved := s.saving file (runLine s (defaultsLine path name m))
        let document := (schema.selectionDocument name value "" M).print ++ "\n"
        Prints saved (fragmentLine path name file M) document ∧
          runLine saved (fragmentLine path name file M) = .ofOutput 0 document) ∧
    ∀ field f, ListField schema name field f →
      ∃ item, (mockContext s schema).listItem (roomAt 0 m) [] f.type = some item ∧
        ∀ file : Nat → String, (∀ k, file k ≠ path ∧ file k ≠ "") → ∀ k,
          (itemRuns s path name field m file k).2 = .done 0 (showJson (.arr (List.replicate (k + 1) item))) := by
  constructor
  · obtain ⟨value, hvalue⟩ :=
      MockContext.exists_ofType_obj (c := mockContext s schema) target.acyclic target.record hpositive
    have hdemanded : (mockContext s schema).demanded (roomAt 0 m) [] (.type t) = some (.obj value) := hvalue
    have hstored : (Json.obj value).Storable := MockContext.storable_of_demanded hdemanded
    have hrun : runLine s (defaultsLine path name m) = .done 0 (showJson (.obj value)) :=
      (prints_defaults target hm hvalue).runLine_showJson hstored
    refine ⟨value, hvalue, hrun, fun file M hne hfile hM => ?_⟩
    rw [hrun]
    -- the run before left the schema file as it was, and its output where the next one reads it
    have hprints := prints_fragment (target.saving hne (.done 0 (showJson (.obj value)))) hM hfile
      (isThere_saving ..) (dataOf_saving hstored s file)
    exact ⟨hprints, hprints.runLine_eq⟩
  · intro field f hfield
    have hsome := MockContext.ofRef_isSome (c := mockContext s schema) target.acyclic (roomAt 0 m) []
      (f.type.element?.getD f.type)
    obtain ⟨item, hitem⟩ := Option.isSome_iff_exists.mp hsome
    have hdemanded : (mockContext s schema).demanded (roomAt 0 m) [] (.ref (f.type.element?.getD f.type)) =
        some item := hitem
    have hstored : item.Storable := MockContext.storable_of_demanded hdemanded
    exact ⟨item, hitem, fun file hfile k => (itemRuns_spec target hfield hm hitem hstored hfile k).2.2⟩

/-! ### A schema of one type -/

/-- An introspection result that is printed to a file is loaded from it. -/
theorem loadSchemaFile_showJson {j : Json} (h : j.Storable)
    (hjson : sdlSuffixes.contains (lowerText (fileSuffix (fileName path))) = false) :
    loadSchemaFile path (encodeText (showJson j)) = loadResponse j := by
  rw [loadSchemaFile, showJson, readTextFile_pretty h]
  dsimp only
  rw [hjson, if_neg Bool.false_ne_true, readJson_pretty h]

/-- An introspection result with a type `Box` that has a list of texts under `tags`. -/
def boxResult : Json :=
  let texts := .obj [("kind", .str "LIST"), ("ofType", .obj [("kind", .str "SCALAR"), ("name", .str "String")])]
  let box := .obj [("kind", .str "OBJECT"), ("name", .str "Box"),
    ("fields", .arr [.obj [("name", .str "tags"), ("type", texts)]])]
  .obj [("__schema", .obj [("types", .arr [box])])]

theorem storable_boxResult : boxResult.Storable := by
  have hobj {entries : Entries} (hdistinct : (Entries.keys entries).Nodup)
      (heach : entries.Forall fun e => e.2.Storable) : Json.Storable (.obj entries) :=
    .obj hdistinct (List.forall_iff_forall_mem.mp heach)
  have harr {j : Json} (h : j.Storable) : Json.Storable (.arr [j]) := .arr (List.forall_mem_singleton.mpr h)
  have hname : Json.Storable (.obj [("kind", .str "SCALAR"), ("name", .str "String")]) :=
    hobj (by decide) ⟨.str _, .str _⟩
  have hlist : Json.Storable (.obj [("kind", .str "LIST"), ("ofType", _)]) := hobj (by decide) ⟨.str _, hname⟩
  have hfield : Json.Storable (.obj [("name", .str "tags"), ("type", _)]) := hobj (by decide) ⟨.str _, hlist⟩
  have hbox : Json.Storable (.obj [("kind", .str "OBJECT"), ("name", .str "Box"), ("fields", .arr [_])]) :=
    hobj (by decide) ⟨.str _, .str _, harr hfield⟩
  exact hobj (by decide) (hobj (by decide) (harr hbox))

/-- The field `tags`. -/
def boxTags : Field := ⟨"tags", .listOf (.named (.ofWord "SCALAR") "String"), none, false⟩

/-- The type `Box`. -/
def boxType : NamedType := ⟨"Box", none, .object [boxTags] []⟩

/-- The schema of the result. -/
def boxSchema : Schema := ⟨.ofPairs [("Box", boxType)], none, none, none⟩

/-- A setting with nothing but the result in a file. -/
def boxSetting (path : String) : Setting where
  env := []
  clock := .ofMicroseconds 0
  files := fun file => if file = path then .file (encodeText (showJson boxResult)) else .missing

theorem holdsSchema_box (hjson : sdlSuffixes.contains (lowerText (fileSuffix (fileName path))) = false) :
    HoldsSchema (boxSetting path) path boxSchema :=
  ⟨_, [], if_pos rfl, by rw [loadSchemaFile_showJson storable_boxResult hjson]; rfl⟩

theorem mockTarget_box : MockTarget (boxSetting "box.json") "box.json" boxSchema "Box" boxType where
  holds := holdsSchema_box (by decide)
  argument := by decide
  acyclic := by decide
  found := rfl
  record := rfl
  named := by decide

/-- The entries of the default of `Box`. -/
def boxDefault : Entries := [("__typename", .str "Box"), ("tags", .arr [])]

/-- The default of `Box` is piped into `mock fragment`, and the texts under `tags` grow by one a run. -/
theorem box_output_pipeable :
    runLine (boxSetting "box.json") (defaultsLine "box.json" "Box" 1) = .done 0 (showJson (.obj boxDefault)) ∧
      Prints ((boxSetting "box.json").saving "v.json" (.done 0 (showJson (.obj boxDefault))))
        (fragmentLine "box.json" "Box" "v.json" 1)
        ((boxSchema.selectionDocument "Box" boxDefault "" 1).print ++ "\n") ∧
      ∀ k, (itemRuns (boxSetting "box.json") "box.json" "Box" "tags" 1 (fun _ => "v.json") k).2 =
        .done 0 (showJson (.arr (List.replicate (k + 1) (.str "")))) := by
  have hone : FewDigits Text.maxIntegerDigits 1 := by decide
  obtain ⟨⟨value, hvalue, hrun, hfragment⟩, hitems⟩ := mock_output_pipeable mockTarget_box (by decide) hone
  obtain rfl : boxDefault = value := Json.obj.inj (Option.some.inj hvalue)
  have hprints := (hfragment "v.json" 1 (by decide) (by decide) hone).1
  rw [hrun] at hprints
  obtain ⟨item, hitem, hruns⟩ := hitems "tags" boxTags ⟨rfl, rfl, by decide⟩
  obtain rfl : Json.str "" = item := Option.some.inj hitem
  exact ⟨hrun, hprints, hruns (fun _ => "v.json") fun _ => ⟨by decide, by decide⟩⟩

/-- A depth of more digits than are read is refused, by `mock defaults` as by `mock fragment`. -/
theorem MockTarget.refused {name : String} {t : NamedType} {m : Int} (target : MockTarget s path schema name t)
    (hm : ¬ FewDigits Text.maxIntegerDigits m) :
    (∃ output, runLine s (defaultsLine path name m) = .done 2 output) ∧
      ∀ file, ∃ output, runLine s (fragmentLine path name file m) = .done 2 output := by
  constructor
  · rw [defaultsLine_eq]
    exact runLine_line_of_fault target.wordsOf
      (List.forall_mem_singleton.mpr (.of_find? rfl (by decide)))
      (notInteger_mem_callFaults "--max-depth" rfl rfl rfl hm)
  · intro file
    rw [fragmentLine_eq]
    exact runLine_line_of_fault target.wordsOf
      (List.forall_mem_cons.mpr
        ⟨.of_find? rfl (by decide), List.forall_mem_singleton.mpr (.of_find? rfl (by decide))⟩)
      (notInteger_mem_callFaults "--max-depth" rfl rfl rfl hm)

/-- **Depths of too many digits are refused, and so are paths that are spelt like options.** -/
theorem refused_depths_and_path :
    (∃ m : Int, 1 ≤ m ∧ MockTarget (boxSetting "box.json") "box.json" boxSchema "Box" boxType ∧
      (∃ output, runLine (boxSetting "box.json") (defaultsLine "box.json" "Box" m) = .done 2 output) ∧
      ∀ file, ∃ output,
        runLine (boxSetting "box.json") (fragmentLine "box.json" "Box" file m) = .done 2 output) ∧
    HoldsSchema (boxSetting "-s.json") "-s.json" boxSchema ∧
      ∃ output, runLine (boxSetting "-s.json") (defaultsLine "-s.json" "Box" 1) = .done 2 output := by
  constructor
  · obtain ⟨m, hpositive, hlong⟩ := exists_not_fewDigits Text.maxIntegerDigits
    exact ⟨m, hpositive, mockTarget_box, mockTarget_box.refused hlong⟩
  · exact ⟨holdsSchema_box (by decide), _, rfl⟩

end Command

end GraphQLCache
