import GraphQLCache.Command.Run
import GraphQLCache.Schema.Load

/-!
# `Proofs.DefinitionLoading` — which failures of a text of definitions are reported

A text of definitions is taken in two halves. The first half *puts a type system together*: the text is read,
held against the rules, and the arguments of its directives are looked at. The second half checks the type
system, and it is *sound* if the check finds nothing. An error of the first half is one that commands report;
an error of the second half passes every command by.

So `loadSdl` reports all its failures on exactly those texts whose type systems, where they are put together
at all, are sound. `Flawed` lists everyday ways to miss this: no query root, a root that is no object, a type
that declares nothing, a reserved name, a field of an interface that is not implemented.
-/

namespace GraphQLCache

namespace Sdl

variable {text : List Char} {document : Document} {s : TypeSystem}

/-- **A text puts a type system together**: it reads as a document, the document keeps to the rules, and the
    reasons and addresses in it are texts. -/
structure PutsTogether (text : List Char) (document : Document) : Prop where
  read : readDocument text = .ok document
  keepsRules : ruleFaults document = []
  reasons : reasonFault? (TypeSystem.ofDocument document).types
    (TypeSystem.ofDocument document).directives = none

/-- **A sound type system** passes its check: nothing ends the check early and nothing is at fault. -/
structure TypeSystem.Sound (s : TypeSystem) : Prop where
  unobstructed : s.obstacle? = none
  faultless : s.faults = []

/-! ## The two halves of reading -/

/-- The errors of reading a document are reported. -/
theorem isReported_of_readDocument {e : SdlError} (h : readDocument text = .error e) :
    (SchemaError.sdl e).isReported = true := by
  unfold readDocument at h
  split at h
  · cases h
  · cases h
    rfl

/-- **The first half reports its errors**: where no type system is put together, the error is a reported
    one. -/
theorem readTypeSystem_of_not_putsTogether (h : ∀ document, ¬ PutsTogether text document) :
    ∃ e, readTypeSystem text = .error e ∧ (SchemaError.sdl e).isReported = true := by
  unfold readTypeSystem
  cases hread : readDocument text with
  | error e => exact ⟨e, rfl, isReported_of_readDocument hread⟩
  | ok document =>
      simp only [bind, Except.bind, pure, Except.pure]
      cases hrules : ruleFaults document with
      | cons fault faults => exact ⟨_, rfl, rfl⟩
      | nil =>
          simp only [List.isEmpty_nil, if_true]
          cases hreasons : reasonFault? (TypeSystem.ofDocument document).types
              (TypeSystem.ofDocument document).directives with
          | some fault => exact ⟨_, rfl, rfl⟩
          | none => exact absurd ⟨hread, hrules, hreasons⟩ (h document)

/-- What is put together goes on to the check. -/
theorem readTypeSystem_of_putsTogether (h : PutsTogether text document) :
    readTypeSystem text =
      match (TypeSystem.ofDocument document).obstacle? with
      | some obstacle => .error (.blocked obstacle (obstacle.place? text))
      | none =>
        if (TypeSystem.ofDocument document).faults.isEmpty then .ok (TypeSystem.ofDocument document)
        else .error (.invalid (TypeSystem.ofDocument document).faults) := by
  unfold readTypeSystem
  rw [h.read]
  simp only [bind, Except.bind, h.keepsRules, h.reasons, List.isEmpty_nil, if_true, pure, Except.pure]
  cases (TypeSystem.ofDocument document).obstacle? with
  | some obstacle => rfl
  | none =>
      simp only []
      cases (TypeSystem.ofDocument document).faults.isEmpty <;> rfl

theorem readTypeSystem_of_sound (h : PutsTogether text document)
    (sound : (TypeSystem.ofDocument document).Sound) :
    readTypeSystem text = .ok (TypeSystem.ofDocument document) := by
  rw [readTypeSystem_of_putsTogether h, sound.unobstructed, sound.faultless]
  rfl

/-- **The second half reports none of its errors.** -/
theorem readTypeSystem_of_unsound (h : PutsTogether text document)
    (unsound : ¬ (TypeSystem.ofDocument document).Sound) :
    ∃ e, readTypeSystem text = .error e ∧ (SchemaError.sdl e).isReported = false := by
  rw [readTypeSystem_of_putsTogether h]
  cases hobstacle : (TypeSystem.ofDocument document).obstacle? with
  | some obstacle => exact ⟨_, rfl, rfl⟩
  | none =>
      cases hfaults : (TypeSystem.ofDocument document).faults with
      | nil => exact absurd ⟨hobstacle, hfaults⟩ unsound
      | cons fault faults => exact ⟨_, rfl, rfl⟩

/-! ## Flaws -/

/-- Whether a type declares nothing where it must declare something. -/
def Content.isBare : Content → Bool
  | .scalar => false
  | .object _ fields => fields.isEmpty
  | .interface _ fields => fields.isEmpty
  | .union members => members.isEmpty
  | .enum values => values.isEmpty
  | .input fields => fields.isEmpty

/-- **A flaw**: no query root, a root that is no object, a type that declares nothing, a reserved name, or an
    object or interface without a field of an interface that it implements. -/
inductive TypeSystem.Flawed (s : TypeSystem) : Prop
  | noQuery (missing : s.query = none)
  | badRoot {operation : Operation} {type : String} (root : s.root operation = some type)
      (other : s.isObject type = false)
  | bare {d : Declaration} (listed : d ∈ s.types) (bare : d.content.isBare = true)
  | reserved {d : Declaration} (listed : d ∈ s.types) (reserved : Ingest.isReserved d.name = true)
  | unimplemented {d : Declaration} {interface : String} {ancestors : List String}
      {fields : List FieldDefinition} {wanted : FieldDefinition} (listed : d ∈ s.types)
      (implements : interface ∈ TypeSystem.interfacesOf d.content) (other : interface ≠ d.name)
      (declared : s.contentOf? interface = some (.interface ancestors fields)) (wants : wanted ∈ fields)
      (missing : ∀ f ∈ TypeSystem.fieldsOf d.content, f.name ≠ wanted.name)

namespace TypeSystem

/-- A fault of a listed type is one of the type system, whatever was searched before. -/
theorem mem_typeFaults {types : List Declaration} {d : Declaration} {fault : ValidityFault}
    (listed : d ∈ types) (h : fault ∈ s.ownFaults d) (searches : InputSearches) :
    fault ∈ s.typeFaults searches types := by
  induction types generalizing searches with
  | nil => cases listed
  | cons first rest ih =>
      rcases List.mem_cons.mp listed with rfl | hrest
      · rw [typeFaults]
        split
        next => exact List.mem_append_left _ (List.mem_append_left _ h)
        next => exact List.mem_append_left _ h
      · rw [typeFaults]
        split
        next => exact List.mem_append_right _ (ih hrest _)
        next => exact List.mem_append_right _ (ih hrest _)

theorem faults_ne_nil_of_own {d : Declaration} (listed : d ∈ s.types) (h : s.ownFaults d ≠ []) :
    s.faults ≠ [] := by
  obtain ⟨fault, hfault⟩ := List.exists_mem_of_ne_nil _ h
  have hmem : fault ∈ s.faults := List.mem_append_right _ (mem_typeFaults listed hfault _)
  exact List.ne_nil_of_mem hmem

theorem faults_ne_nil_of_root (h : s.rootFaults ≠ []) : s.faults ≠ [] := by
  obtain ⟨fault, hfault⟩ := List.exists_mem_of_ne_nil _ h
  have hmem : fault ∈ s.faults := List.mem_append_left _ (List.mem_append_left _ hfault)
  exact List.ne_nil_of_mem hmem

/-- A bare type is at fault. -/
theorem ownFaults_ne_nil_of_bare {d : Declaration} (h : d.content.isBare = true) : s.ownFaults d ≠ [] := by
  unfold ownFaults
  cases hcontent : d.content with
  | scalar => rw [hcontent] at h; cases h
  | object interfaces fields =>
      rw [hcontent] at h
      cases List.isEmpty_iff.mp h
      simp [fieldFaults]
  | interface interfaces fields =>
      rw [hcontent] at h
      cases List.isEmpty_iff.mp h
      simp [fieldFaults]
  | union members =>
      rw [hcontent] at h
      cases List.isEmpty_iff.mp h
      simp
  | enum values =>
      rw [hcontent] at h
      cases List.isEmpty_iff.mp h
      simp
  | input fields =>
      rw [hcontent] at h
      cases List.isEmpty_iff.mp h
      simp [inputFaults]

/-- An interface that is at fault shows, wherever it stands among the interfaces of a type. -/
theorem interfaceFaults_ne_nil {d : Declaration} {interface : String} {interfaces : List String}
    (implements : interface ∈ interfaces) (h : s.implementationFaults d interface ≠ [])
    (known : List String) : s.interfaceFaults d known interfaces ≠ [] := by
  induction interfaces generalizing known with
  | nil => cases implements
  | cons first rest ih =>
      rw [interfaceFaults]
      split
      next => exact List.cons_ne_nil _ _
      next =>
        split
        next => exact List.cons_ne_nil _ _
        next =>
          split
          next => exact List.cons_ne_nil _ _
          next =>
            -- The first interface is looked at in full; the others keep their faults.
            rcases List.mem_cons.mp implements with rfl | hrest
            · exact List.append_ne_nil_of_left_ne_nil h _
            · exact List.append_ne_nil_of_right_ne_nil _ (ih hrest _)

theorem implementationFaults_ne_nil {d : Declaration} {interface : String} {ancestors : List String}
    {fields : List FieldDefinition} {wanted : FieldDefinition}
    (declared : s.contentOf? interface = some (.interface ancestors fields)) (wants : wanted ∈ fields)
    (missing : ∀ f ∈ fieldsOf d.content, f.name ≠ wanted.name) : s.implementationFaults d interface ≠ [] := by
  have hnone : (fieldsOf d.content).find? (·.name = wanted.name) = none := by
    rw [List.find?_eq_none]
    intro f hf
    simpa using missing f hf
  have hfault : .missingField (fieldPlace interface wanted.name) d.name ∈
      s.implementationFaults d interface := by
    unfold implementationFaults
    rw [declared]
    refine List.mem_append_right _ (List.mem_flatMap.mpr ⟨wanted, wants, ?_⟩)
    rw [hnone]
    exact List.mem_singleton.mpr rfl
  exact List.ne_nil_of_mem hfault

/-- A root that is no object is at fault. -/
theorem rootFaults_ne_nil_of_badRoot {operation : Operation} {type : String}
    (root : s.root operation = some type) (other : s.isObject type = false) : s.rootFaults ≠ [] := by
  have hgiven : (operation, type) ∈ Operation.all.filterMap fun o => (s.root o).map fun type => (o, type) := by
    refine List.mem_filterMap.mpr ⟨operation, ?_, by rw [root]; rfl⟩
    cases operation <;> decide
  have hwrong : (operation, type) ∈
      (Operation.all.filterMap fun o => (s.root o).map fun type => (o, type)).filter
        fun g => !s.isObject g.2 := by
    rw [List.mem_filter, other]
    exact ⟨hgiven, rfl⟩
  have hfault : .rootNotObject operation type ∈ s.rootFaults :=
    List.mem_append_left _ (List.mem_append_right _ (List.mem_map.mpr ⟨_, hwrong, rfl⟩))
  exact List.ne_nil_of_mem hfault

/-- **A flawed type system is not sound.** -/
theorem Flawed.not_sound (h : s.Flawed) : ¬ s.Sound := by
  intro sound
  refine absurd sound.faultless ?_
  -- A flaw of a root shows among the faults of the roots, any other among those of its type.
  cases h with
  | noQuery missing =>
      apply faults_ne_nil_of_root
      unfold rootFaults
      rw [missing]
      exact List.cons_ne_nil _ _
  | badRoot root other => exact faults_ne_nil_of_root (rootFaults_ne_nil_of_badRoot root other)
  | bare listed bare => exact faults_ne_nil_of_own listed (ownFaults_ne_nil_of_bare bare)
  | reserved listed reserved =>
      apply faults_ne_nil_of_own listed
      refine List.append_ne_nil_of_left_ne_nil ?_ _
      unfold nameFaults Ingest.isReserved at *
      rw [if_pos reserved]
      exact List.cons_ne_nil _ _
  | @unimplemented d interface ancestors fields wanted listed implements other declared wants missing =>
      apply faults_ne_nil_of_own listed
      have hfaults : s.interfaceFaults d [] (interfacesOf d.content) ≠ [] :=
        interfaceFaults_ne_nil implements (implementationFaults_ne_nil declared wants missing) []
      refine List.append_ne_nil_of_right_ne_nil _ ?_
      cases hcontent : d.content with
      | object interfaces fields =>
          rw [hcontent] at hfaults
          exact List.append_ne_nil_of_right_ne_nil _ hfaults
      | interface interfaces fields =>
          rw [hcontent] at hfaults
          exact List.append_ne_nil_of_right_ne_nil _ hfaults
      | _ => rw [hcontent] at implements; cases implements

end TypeSystem

end Sdl

/-! ## Loading -/

section Loading

open Sdl

variable {text : List Char} {document : Document}

theorem loadSdl_of_error {e : SdlError} (h : readTypeSystem text = .error e) :
    loadSdl text = .error (.sdl e) := by
  unfold loadSdl readSdl
  rw [h]
  rfl

/-- The text of a sound type system is loaded, and nothing is left out. -/
theorem loadSdl_of_sound (put : PutsTogether text document) (sound : (TypeSystem.ofDocument document).Sound) :
    loadSdl text = .ok ((TypeSystem.ofDocument document).schema, []) := by
  unfold loadSdl readSdl
  rw [readTypeSystem_of_sound put sound]
  rfl

theorem loadSdl_of_unsound (put : PutsTogether text document)
    (unsound : ¬ (TypeSystem.ofDocument document).Sound) :
    ∃ e, loadSdl text = .error e ∧ e.isReported = false := by
  obtain ⟨e, he, hreported⟩ := readTypeSystem_of_unsound put unsound
  exact ⟨.sdl e, loadSdl_of_error he, hreported⟩

theorem loadSdl_of_not_putsTogether (h : ∀ document, ¬ PutsTogether text document) :
    ∃ e, loadSdl text = .error e ∧ e.isReported = true := by
  obtain ⟨e, he, hreported⟩ := readTypeSystem_of_not_putsTogether h
  exact ⟨.sdl e, loadSdl_of_error he, hreported⟩

/-- What is loaded is the schema of a sound type system. -/
theorem exists_of_loadSdl {loaded : LoadedSchema} (h : loadSdl text = .ok loaded) :
    ∃ document, PutsTogether text document ∧ (TypeSystem.ofDocument document).Sound ∧
      loaded = ((TypeSystem.ofDocument document).schema, []) := by
  by_cases hput : ∃ document, PutsTogether text document
  · obtain ⟨document, put⟩ := hput
    by_cases sound : (TypeSystem.ofDocument document).Sound
    · have hloaded := h.symm.trans (loadSdl_of_sound put sound)
      exact ⟨document, put, sound, Except.ok.inj hloaded⟩
    · obtain ⟨e, he, _⟩ := loadSdl_of_unsound put sound
      rw [he] at h
      cases h
  · obtain ⟨e, he, _⟩ := loadSdl_of_not_putsTogether fun document put => hput ⟨document, put⟩
    rw [he] at h
    cases h

/-- An error that is not reported ends the command that loads the file, whatever this command is. -/
theorem schemaOf_of_unreported {setting : Command.Setting} {path : String} {bytes : List UInt8}
    {e : SchemaError} (there : setting.files path = .file bytes) (spelt : readTextFile bytes = .ok text)
    (suffix : sdlSuffixes.contains (lowerText (fileSuffix (fileName path))) = true)
    (h : loadSdl text = .error e) (unreported : e.isReported = false) :
    Command.schemaOf setting path = .error (.uncaught (.schema e)) := by
  have hfile : loadSchemaFile path bytes = .error e := by
    unfold loadSchemaFile
    rw [spelt]
    simp only [suffix, if_true]
    exact h
  unfold Command.schemaOf Command.bytesOf
  rw [there]
  simp only [bind, Except.bind, hfile, unreported, Bool.false_eq_true, if_false]

/-- **Which texts have all their failures reported.** Every error of loading a text is one that commands report
    if and only if the type system that the text puts together, if it does, is sound. In particular a text
    whose type system has a flaw fails with an error that is not reported, and this error ends every command
    that loads a file with the text. -/
theorem loadSdl_reports_every_failure_iff (text : List Char) :
    ((∀ e, loadSdl text = .error e → e.isReported = true) ↔
      ∀ document, PutsTogether text document → (TypeSystem.ofDocument document).Sound) ∧
    ∀ document, PutsTogether text document → (TypeSystem.ofDocument document).Flawed →
      ∃ e, loadSdl text = .error e ∧ e.isReported = false ∧
        ∀ setting path bytes, setting.files path = .file bytes → readTextFile bytes = .ok text →
          sdlSuffixes.contains (lowerText (fileSuffix (fileName path))) = true →
          Command.schemaOf setting path = .error (.uncaught (.schema e)) := by
  constructor
  · constructor
    · intro hreported document put
      apply Classical.byContradiction
      intro unsound
      obtain ⟨e, he, hnot⟩ := loadSdl_of_unsound put unsound
      rw [hreported e he] at hnot
      cases hnot
    · intro hsound e he
      by_cases hput : ∃ document, PutsTogether text document
      · obtain ⟨document, put⟩ := hput
        rw [loadSdl_of_sound put (hsound document put)] at he
        cases he
      · obtain ⟨e', he', hreported⟩ :=
          loadSdl_of_not_putsTogether fun document put => hput ⟨document, put⟩
        cases he.symm.trans he'
        exact hreported
  · intro document put flawed
    obtain ⟨e, he, hnot⟩ := loadSdl_of_unsound put flawed.not_sound
    exact ⟨e, he, hnot, fun _ _ _ there spelt suffix => schemaOf_of_unreported there spelt suffix he hnot⟩

/-! ### A text without a query root -/

/-- A type, and no root. -/
def rootless : List Char := "type User { id: ID }".toList

/-- The text is put together, and the flaw of its type system is that the query root is missing. -/
theorem rootless_flawed :
    ∃ document, PutsTogether rootless document ∧ (TypeSystem.ofDocument document).Flawed := by
  have hrun : (Sdl.readDocument rootless).toOption.map (fun document =>
      ((ruleFaults document).isEmpty,
        (reasonFault? (TypeSystem.ofDocument document).types
          (TypeSystem.ofDocument document).directives).isNone,
        (TypeSystem.ofDocument document).query)) = some (true, true, none) := by
    decide +kernel
  cases hread : Sdl.readDocument rootless with
  | error e => rw [hread] at hrun; cases hrun
  | ok document =>
      rw [hread] at hrun
      obtain ⟨hrules, hreasons, hquery⟩ := Prod.mk.inj (Option.some.inj hrun) |>.imp id Prod.mk.inj
      exact ⟨document, ⟨hread, List.isEmpty_iff.mp hrules, Option.isNone_iff_eq_none.mp hreasons⟩,
        .noQuery hquery⟩

/-- Loading the text fails, no command reports it, and its reading ends each of them. -/
theorem rootless_ends_commands :
    ∃ document, PutsTogether rootless document ∧ (TypeSystem.ofDocument document).Flawed ∧
      ∃ e, loadSdl rootless = .error e ∧ e.isReported = false ∧
        ∀ setting path bytes, setting.files path = .file bytes → readTextFile bytes = .ok rootless →
          sdlSuffixes.contains (lowerText (fileSuffix (fileName path))) = true →
          Command.schemaOf setting path = .error (.uncaught (.schema e)) := by
  obtain ⟨document, put, flawed⟩ := rootless_flawed
  exact ⟨document, put, flawed, (loadSdl_reports_every_failure_iff rootless).2 document put flawed⟩

/-- The bare message of the check is what the failure says. -/
theorem rootless_not_reported :
    ∃ e, loadSdl "type User { id: ID }".toList = .error e ∧ e.isReported = false ∧
      e.message = "Query root type must be provided." := by
  have hrun : (match loadSdl "type User { id: ID }".toList with
      | .error e => (e.isReported, e.message)
      | .ok _ => (true, "")) = (false, "Query root type must be provided.") := by
    decide +kernel
  cases hload : loadSdl "type User { id: ID }".toList with
  | ok loaded => rw [hload] at hrun; cases hrun
  | error e =>
      rw [hload] at hrun
      exact ⟨e, rfl, (Prod.mk.inj hrun).1, (Prod.mk.inj hrun).2⟩

end Loading

end GraphQLCache
