import GraphQLCache.Proofs.EntryLoop
import GraphQLCache.Schema.Load

/-!
# `Proofs.MissingShape` — only a missing shape is fatal

Before its entries are looked at, the `__schema` object of an introspection result is read as a whole: the
three root types, each of which may be absent, and the array of entries, which are left for later. A fault
there would refuse the whole result. `readHeader` is this reading, and `ingestChecked` is ingestion with the
refusal that it may lead to.

The refusal never comes: a root that is not an object with a name is put to null before it is read
(`readRoot_eq`), and what is in the array does not matter to the header. So `ingestChecked` is ingestion as it
is (`ingestChecked_eq`), and `only_missing_shape_is_fatal` says which results are refused and what becomes of
all the others.
-/

namespace GraphQLCache

namespace Ingest

open Entry

/-! ## The header -/

/-- What the `__schema` object holds: the names of the root types, and the entries as they are. -/
structure Header where
  query : Option String
  mutation : Option String
  subscription : Option String
  items : List Json

/-- A root as it is given to its reading: an object with a name, or else null. -/
def mendRoot : Json → Json
  | .obj root => if ((Entries.get? root "name").bind Json.str?).isSome then .obj root else .null
  | _ => .null

/-- A root type, which may be absent. -/
def readRoot (part : Option Json) : Checked (Option String) := optional readNamed (part.map mendRoot)

/-- An array of entries that are not looked at. -/
def readItems : Json → Checked (List Json)
  | .arr items => .valid items
  | _ => .fault

/-- The `__schema` object as a whole. -/
def readHeader : Json → Checked Header
  | .obj schema =>
    Header.mk <$> readRoot (member? schema "queryType" "query_type")
      <*> readRoot (member? schema "mutationType" "mutation_type")
      <*> readRoot (member? schema "subscriptionType" "subscription_type")
      <*> required readItems (Entries.get? schema "types")
  | _ => .fault

/-- Why a result is refused: its shape is not there, or its header has faults. -/
inductive Refusal where
  | shape (error : ShapeError)
  | header (faults : Nat)

/-- Ingestion that reads the header as a whole. -/
def ingestChecked (raw : Json) : Except Refusal (Schema × List Skip) :=
  match raw.get? "__schema" with
  | none => .error (.shape .noSchema)
  | some schema =>
    match schema.get? "types" with
    | some (.arr _) =>
      match readHeader schema with
      | .invalid faults => .error (.header faults)
      | .valid header =>
        let (types, skips) := ingestFrom 0 .empty header.items
        .ok ({ types
               query := header.query
               mutation := header.mutation
               subscription := header.subscription },
             skips)
    | _ => .error (.shape .noTypes)

/-! ## Roots -/

variable {schema : Entries} {key other text : String}

/-- **A root is read without a fault**, whatever it is: it has the name of an object that has one. -/
theorem readRoot_eq (part : Option Json) : readRoot part = .valid (rootName part) := by
  cases part with
  | none => rfl
  | some root =>
      cases root with
      | obj root =>
          show optional readNamed (some (if ((Entries.get? root "name").bind Json.str?).isSome then .obj root
            else .null)) = .valid ((Entries.get? root "name").bind Json.str?)
          cases hname : Entries.get? root "name" with
          | none => rfl
          | some j =>
              cases j with
              | str name =>
                  have hread : readNamed (.obj root) = .valid name := by rw [readNamed, hname]; rfl
                  show Checked.map some (readNamed (.obj root)) = .valid (some name)
                  rw [hread]
                  rfl
              | _ => rfl
      | _ => rfl

-- Without the mending a root under another key would be a fault.
example : optional readNamed (some (.obj [("renamed", .str "Query")])) = .invalid 1 := rfl

/-- **The root under a key**, or under its other spelling where the key is absent. -/
def RootAt (schema : Entries) (key other : String) (root : Json) : Prop :=
  Entries.get? schema key = some root ∨ (Entries.get? schema key = none ∧ Entries.get? schema other = some root)

/-- **The name of a root** is the `name` string of an object that stands there, and absent in every other
    case. -/
def IsRootName (schema : Entries) (key other : String) (name : Option String) : Prop :=
  ∀ text, name = some text ↔
    ∃ root, RootAt schema key other (.obj root) ∧ Entries.get? root "name" = some (.str text)

theorem member?_eq_some_iff {root : Json} :
    member? schema key other = some root ↔ RootAt schema key other root := by
  unfold member? RootAt
  cases Entries.get? schema key with
  | none => exact ⟨fun h => Or.inr ⟨rfl, h⟩, fun h => h.elim (fun h => absurd h.symm (Option.some_ne_none _)) (·.2)⟩
  | some j => exact ⟨Or.inl, fun h => h.elim id fun h => absurd h.1 (Option.some_ne_none _)⟩

/-- Only an object has a root name. -/
theorem rootName_eq_some_iff {part : Option Json} :
    rootName part = some text ↔
      ∃ root, part = some (.obj root) ∧ Entries.get? root "name" = some (.str text) := by
  constructor
  · intro h
    obtain ⟨j, rfl, h⟩ := Option.bind_eq_some_iff.mp h
    obtain ⟨name, hname, hstr⟩ := Option.bind_eq_some_iff.mp h
    cases j with
    | obj root =>
        cases name with
        | str _ => cases hstr; exact ⟨root, rfl, hname⟩
        | _ => cases hstr
    | _ => cases hname
  · rintro ⟨root, rfl, hname⟩
    show (Entries.get? root "name").bind Json.str? = some text
    rw [hname]
    rfl

theorem isRootName_rootName (schema : Entries) (key other : String) :
    IsRootName schema key other (rootName (member? schema key other)) := by
  intro text
  rw [rootName_eq_some_iff]
  exact exists_congr fun root => and_congr_left' member?_eq_some_iff

/-! ## The refusal that never comes -/

/-- **The header of an object with a `types` array has no fault.** -/
theorem readHeader_eq {items : List Json} (h : Entries.get? schema "types" = some (.arr items)) :
    readHeader (.obj schema) = .valid
      { query := rootName (member? schema "queryType" "query_type")
        mutation := rootName (member? schema "mutationType" "mutation_type")
        subscription := rootName (member? schema "subscriptionType" "subscription_type")
        items } := by
  rw [readHeader, readRoot_eq, readRoot_eq, readRoot_eq, h]
  rfl

/-- **Reading the header as a whole changes nothing**, so it never leads to a refusal of its own. -/
theorem ingestChecked_eq (raw : Json) : ingestChecked raw = (ingest raw).mapError .shape := by
  unfold ingestChecked ingest
  cases raw.get? "__schema" with
  | none => rfl
  | some schema =>
      cases schema with
      | obj schema =>
          simp only [Json.get?]
          cases htypes : Entries.get? schema "types" with
          | none => rfl
          | some array =>
              cases array with
              | arr items => simp only [readHeader_eq htypes]; rfl
              | _ => rfl
      | _ => rfl

theorem ingestChecked_ne_header (raw : Json) (faults : Nat) : ingestChecked raw ≠ .error (.header faults) := by
  rw [ingestChecked_eq]
  cases ingest raw with
  | ok loaded => exact fun h => nomatch h
  | error e => exact fun h => nomatch h

end Ingest

/-! ## Which results are refused -/

open Ingest

/-- **The shape of an introspection result**: under `__schema` an object with the entries `schema`, and under
    its `types` an array. -/
def HasShape (raw : Json) (schema : Entries) : Prop :=
  ∃ top items, raw = .obj top ∧ Entries.get? top "__schema" = some (.obj schema) ∧
    Entries.get? schema "types" = some (.arr items)

/-- **The root names of a schema** are those that the `__schema` object gives. -/
structure NamesRoots (schema : Entries) (s : Schema) : Prop where
  query : IsRootName schema "queryType" "query_type" s.query
  mutation : IsRootName schema "mutationType" "mutation_type" s.mutation
  subscription : IsRootName schema "subscriptionType" "subscription_type" s.subscription

variable {raw : Json} {schema : Entries}

/-- **A result with the shape is loaded**, with the names of its roots. -/
theorem HasShape.exists_loaded (h : HasShape raw schema) :
    ∃ s notes, loadIntrospection raw = .ok (s, notes) ∧ NamesRoots schema s := by
  obtain ⟨top, items, rfl, hschema, htypes⟩ := h
  have hitems : typeItems? (.obj top) = some items := by
    rw [typeItems?, Json.get?, hschema, Option.bind_some, Json.get?, htypes]
    rfl
  have hentries : schemaEntries (.obj top) = schema := by
    rw [schemaEntries, Json.get?, hschema]
    rfl
  refine ⟨_, _, by rw [loadIntrospection, ingest_eq hitems]; rfl, ?_⟩
  rw [schemaAround, hentries]
  exact ⟨isRootName_rootName schema _ _, isRootName_rootName schema _ _, isRootName_rootName schema _ _⟩

/-- **A result without the shape is refused**, for want of `__schema` or else of its `types`. -/
theorem loadIntrospection_of_no_shape (h : ¬ ∃ schema, HasShape raw schema) :
    (raw.get? "__schema" = none ∧ loadIntrospection raw = .error (.shape .noSchema)) ∨
      (raw.get? "__schema" ≠ none ∧ loadIntrospection raw = .error (.shape .noTypes)) := by
  unfold loadIntrospection ingest
  cases hschema : raw.get? "__schema" with
  | none => exact Or.inl ⟨rfl, rfl⟩
  | some schema =>
      refine Or.inr ⟨Option.some_ne_none _, ?_⟩
      cases schema with
      | obj schema =>
          dsimp only
          cases htypes : Entries.get? schema "types" with
          | none => rfl
          | some array =>
              cases array with
              | arr items =>
                  cases raw with
                  | obj top => exact absurd ⟨schema, top, items, rfl, hschema, htypes⟩ h
                  | _ => cases hschema
              | _ => rfl
      | _ => rfl

/-- **Only a missing shape is fatal**, for every JSON value. It is refused just if it lacks the shape, and then
    with an error that is reported: there is no `__schema`, or it has no `types` array. Every other value is
    loaded, whatever the entries and the roots are, and each of its root names is the `name` string of an
    object, or absent. The refusal for a faulty header never comes. -/
theorem only_missing_shape_is_fatal (raw : Json) :
    ((∃ e, loadIntrospection raw = .error e) ↔ ¬ ∃ schema, HasShape raw schema) ∧
    (∀ e, loadIntrospection raw = .error e → e.isReported = true ∧
      ((raw.get? "__schema" = none ∧ e = .shape .noSchema) ∨
        (raw.get? "__schema" ≠ none ∧ e = .shape .noTypes))) ∧
    (∀ schema, HasShape raw schema →
      ∃ s notes, loadIntrospection raw = .ok (s, notes) ∧ NamesRoots schema s) ∧
    ingestChecked raw = (ingest raw).mapError .shape ∧
    ∀ faults, ingestChecked raw ≠ .error (.header faults) := by
  have hrefused : ∀ e, loadIntrospection raw = .error e → ¬ ∃ schema, HasShape raw schema := by
    rintro e herror ⟨schema, h⟩
    obtain ⟨s, notes, hloaded, _⟩ := h.exists_loaded
    rw [hloaded] at herror
    cases herror
  refine ⟨⟨fun ⟨e, herror⟩ => hrefused e herror, fun h => ?_⟩, fun e herror => ?_,
    fun _ h => h.exists_loaded, ingestChecked_eq raw, ingestChecked_ne_header raw⟩
  · rcases loadIntrospection_of_no_shape h with ⟨_, hrun⟩ | ⟨_, hrun⟩
    · exact ⟨_, hrun⟩
    · exact ⟨_, hrun⟩
  · rcases loadIntrospection_of_no_shape (hrefused e herror) with ⟨hnone, hrun⟩ | ⟨hsome, hrun⟩
    · cases herror.symm.trans hrun
      exact ⟨rfl, Or.inl ⟨hnone, rfl⟩⟩
    · cases herror.symm.trans hrun
      exact ⟨rfl, Or.inr ⟨hsome, rfl⟩⟩

/-- Three wrong roots, one of them under two spellings of its key, and entries that are none. -/
def wrongRoots : Entries :=
  [("queryType", .obj [("renamed", .str "Query")]), ("query_type", .obj [("name", .str "Query")]),
    ("mutationType", .arr []), ("subscription_type", .obj [("name", .str "Feed")]),
    ("types", .arr [.null, .obj [], .str "Query"])]

/-- All of that is tolerated. The first spelling hides the second, also where it holds no name. -/
theorem wrongRoots_loaded :
    HasShape (.obj [("__schema", .obj wrongRoots)]) wrongRoots ∧
    ∃ s notes, loadIntrospection (.obj [("__schema", .obj wrongRoots)]) = .ok (s, notes) ∧
      NamesRoots wrongRoots s ∧ s.query = none ∧ s.mutation = none ∧ s.subscription = some "Feed" := by
  have hshape : HasShape (.obj [("__schema", .obj wrongRoots)]) wrongRoots := ⟨_, _, rfl, rfl, rfl⟩
  obtain ⟨s, notes, hloaded, hroots⟩ := (only_missing_shape_is_fatal _).2.2.1 _ hshape
  refine ⟨hshape, s, notes, hloaded, hroots, ?_⟩
  cases hloaded
  exact ⟨rfl, rfl, rfl⟩

end GraphQLCache
