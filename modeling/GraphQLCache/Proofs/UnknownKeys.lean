import GraphQLCache.Proofs.EntryLoop
import Mathlib.Logic.Relation

/-!
# `Proofs.UnknownKeys` — ingestion ignores what it does not know

An introspection result is built of parts, and each part has members that are looked up by name, some of them
under two spellings. `Part.members` lists them, with the part that stands inside. An `Edit` is one change that
ingestion must not notice: a key that is no member's is put in, the keys change their order, a second spelling
is put in where the first is there, or stands for the first alone, or a part inside is edited.

What is read of a part depends on its members only (`Part.read_congr`, one case for each part), and an edit
leaves what its members find as it was or edits it within (`Edit.read_eq`, by induction on the edit). Any
number of edits, in either direction, are then invisible (`unknown_keys_ignored`).
-/

namespace GraphQLCache

namespace Entries

variable {a b before behind : Entries} {key key' : String} {v w value : Json} {R : Json → Json → Prop}

/-! ## Look-ups in entries that differ at one place -/

theorem rel_refl (refl : ∀ j, R j j) (x : Option Json) : Option.Rel R x x := by
  cases x with
  | none => exact .none
  | some j => exact .some (refl j)

theorem get?_eq_none_iff : get? a key = none ↔ key ∉ keys a := by
  unfold get? keys
  rw [List.lookup_eq_none_iff, List.mem_map]
  simp only [bne_iff_ne, not_exists, not_and]
  exact forall₂_congr fun _ _ => ne_comm

/-- Another key finds what it found before an entry was put in. -/
theorem get?_put (h : key' ≠ key) :
    get? (before ++ (key, value) :: behind) key' = get? (before ++ behind) key' := by
  show List.lookup key' _ = List.lookup key' _
  rw [List.lookup_append, List.lookup_append]
  congr 1
  exact (get?_cons _ _).trans (if_neg h)

/-- A new key finds what was put in under it. -/
theorem get?_put_self (absent : key ∉ keys (before ++ behind)) :
    get? (before ++ (key, value) :: behind) key = some value := by
  have hbefore : before.lookup key = none := by
    rw [keys, List.map_append, List.mem_append, not_or] at absent
    exact get?_eq_none_iff.mpr absent.1
  show List.lookup key _ = some value
  rw [List.lookup_append, hbefore, Option.none_or, List.lookup_cons_self]

/-- Where one value is put in the place of another, each key finds the same or these two. -/
theorem rel_get?_replace (refl : ∀ j, R j j) (h : R v w) :
    Option.Rel R (get? (before ++ (key, v) :: behind) key') (get? (before ++ (key, w) :: behind) key') := by
  by_cases hkey : key' = key
  · unfold get?
    rw [List.lookup_append, List.lookup_append, hkey, List.lookup_cons_self, List.lookup_cons_self]
    cases before.lookup key with
    | none => exact .some h
    | some j => exact .some (refl j)
  · rw [get?_put hkey, get?_put hkey]
    exact rel_refl refl _

/-- Entries with distinct keys are found in any order. -/
theorem get?_perm (distinct : (keys a).Nodup) (perm : a.Perm b) (key : String) :
    get? a key = get? b key := by
  have distinct' : (keys b).Nodup := (perm.map Prod.fst).nodup_iff.mp distinct
  refine Option.ext fun v => ?_
  calc get? a key = some v ↔ (key, v) ∈ a := Keyed.get?_eq_some_iff (k := ⟨a, distinct⟩)
    _ ↔ (key, v) ∈ b := perm.mem_iff
    _ ↔ get? b key = some v := (Keyed.get?_eq_some_iff (k := ⟨b, distinct'⟩)).symm

end Entries

namespace Ingest

open Entry

/-! ## Parts and their members -/

/-- The objects that an introspection result is built of. -/
inductive Part where
  | result
  | schema
  | named
  | entry
  | field
  | enumValue
  | ref
deriving DecidableEq

/-- What a member holds: a value that is no part, a part, or an array of parts. -/
inductive Content where
  | plain
  | object (part : Part)
  | array (part : Part)
deriving DecidableEq

/-- A member of a part: its key, the second spelling of the key if it has one, and what it holds. -/
structure Member where
  key : String
  other : Option String
  content : Content
deriving DecidableEq

namespace Member

/-- The spellings of the key. -/
def keys (m : Member) : List String := m.key :: m.other.toList

/-- What a member is in some entries. -/
def find (m : Member) (entries : Entries) : Option Json :=
  match m.other with
  | none => Entries.get? entries m.key
  | some other => member? entries m.key other

end Member

namespace Part

/-- The members of a part. -/
def members : Part → List Member
  | .result => [⟨"__schema", none, .object .schema⟩]
  | .schema =>
    [⟨"types", none, .array .entry⟩, ⟨"queryType", some "query_type", .object .named⟩,
      ⟨"mutationType", some "mutation_type", .object .named⟩,
      ⟨"subscriptionType", some "subscription_type", .object .named⟩]
  | .named => [⟨"name", none, .plain⟩]
  | .entry =>
    [⟨"kind", none, .plain⟩, ⟨"name", none, .plain⟩, ⟨"description", none, .plain⟩,
      ⟨"fields", none, .array .field⟩, ⟨"inputFields", some "input_fields", .array .field⟩,
      ⟨"enumValues", some "enum_values", .array .enumValue⟩, ⟨"interfaces", none, .array .named⟩,
      ⟨"possibleTypes", some "possible_types", .array .named⟩]
  | .field =>
    [⟨"name", none, .plain⟩, ⟨"description", none, .plain⟩, ⟨"type", none, .object .ref⟩,
      ⟨"isDeprecated", some "is_deprecated", .plain⟩]
  | .enumValue =>
    [⟨"name", none, .plain⟩, ⟨"description", none, .plain⟩,
      ⟨"isDeprecated", some "is_deprecated", .plain⟩]
  | .ref =>
    [⟨"kind", none, .plain⟩, ⟨"name", none, .plain⟩, ⟨"ofType", some "of_type", .object .ref⟩]

/-- The keys that a part knows, in all their spellings. -/
def keys (p : Part) : List String := p.members.flatMap Member.keys

end Part

/-- The outcome for the value under `types`, when the root names are given. -/
def readTypes (query mutation subscription : Option String) :
    Option Json → Except ShapeError (Schema × List Skip)
  | some (.arr items) =>
    .ok (⟨(ingestFrom 0 .empty items).1, query, mutation, subscription⟩, (ingestFrom 0 .empty items).2)
  | _ => .error .noTypes

/-- The outcome for the value under `__schema`. -/
def readSchema : Option Json → Except ShapeError (Schema × List Skip)
  | none => .error .noSchema
  | some (.obj entries) =>
    readTypes (rootName (member? entries "queryType" "query_type"))
      (rootName (member? entries "mutationType" "mutation_type"))
      (rootName (member? entries "subscriptionType" "subscription_type")) (Entries.get? entries "types")
  | some _ => .error .noTypes

theorem ingest_eq_readSchema (raw : Json) : ingest raw = readSchema (raw.get? "__schema") := by
  unfold ingest
  cases raw.get? "__schema" with
  | none => rfl
  | some schema =>
      cases schema with
      | obj entries =>
          show _ = readTypes _ _ _ _
          dsimp only
          cases Entries.get? entries "types" with
          | none => rfl
          | some array => cases array <;> rfl
      | _ => rfl

namespace Part

/-- What is read of a part. A root is read for its name only, and a reference by itself is a fault if it has
    none; a type reference is read with the number of wrappers that it may have. -/
abbrev Reading : Part → Type
  | .result | .schema => Except ShapeError (Schema × List Skip)
  | .named => Checked String × Option String
  | .entry => Checked Entry
  | .field => Checked Field
  | .enumValue => Checked EnumValue
  | .ref => Nat → Checked TypeRef

/-- The reading of a part. -/
def read : (p : Part) → Entries → p.Reading
  | .result, entries => ingest (.obj entries)
  | .schema, entries => readSchema (some (.obj entries))
  | .named, entries => (readNamed (.obj entries), rootName (some (.obj entries)))
  | .entry, entries => readEntry (.obj entries)
  | .field, entries => readField (.obj entries)
  | .enumValue, entries => readEnumValue (.obj entries)
  | .ref, entries => fun wrappers => readRef wrappers (.obj entries)

end Part

/-! ## Edits -/

/-- **An edit** of a part that ingestion must not notice. -/
inductive Edit : Part → Entries → Entries → Prop
  /-- A key that the part does not know is put in anywhere. -/
  | extra {p} (before behind : Entries) {key : String} (value : Json) (unknown : key ∉ p.keys) :
      Edit p (before ++ behind) (before ++ (key, value) :: behind)
  /-- The keys change their order. -/
  | reorder {p a b} (distinct : (Entries.keys a).Nodup) (perm : a.Perm b) : Edit p a b
  /-- The second spelling of a key is put in where the first is there. -/
  | shadowed {p} (before behind : Entries) {m : Member} {other : String} (value : Json) (known : m ∈ p.members)
      (second : m.other = some other) (present : m.key ∈ Entries.keys (before ++ behind)) :
      Edit p (before ++ behind) (before ++ (other, value) :: behind)
  /-- A key stands in its second spelling, where neither is there otherwise. -/
  | respelt {p} (before behind : Entries) {m : Member} {other : String} (value : Json) (known : m ∈ p.members)
      (second : m.other = some other) (absent : m.key ∉ Entries.keys (before ++ behind))
      (absent' : other ∉ Entries.keys (before ++ behind)) :
      Edit p (before ++ (m.key, value) :: behind) (before ++ (other, value) :: behind)
  /-- A part that a member holds is edited. -/
  | inObject {p q} (before behind : Entries) {m : Member} {key : String} {a b : Entries} (known : m ∈ p.members)
      (holds : m.content = .object q) (spelling : key ∈ m.keys) (inner : Edit q a b) :
      Edit p (before ++ (key, .obj a) :: behind) (before ++ (key, .obj b) :: behind)
  /-- A part in an array that a member holds is edited. -/
  | inArray {p q} (before behind : Entries) {m : Member} {key : String} (front rest : List Json) {a b : Entries}
      (known : m ∈ p.members) (holds : m.content = .array q) (spelling : key ∈ m.keys) (inner : Edit q a b) :
      Edit p (before ++ (key, .arr (front ++ .obj a :: rest)) :: behind)
        (before ++ (key, .arr (front ++ .obj b :: rest)) :: behind)

/-- **Edits of a part**, one after the other, each of them done or undone. -/
def Edits (p : Part) : Entries → Entries → Prop := Relation.EqvGen (Edit p)

/-! ## What a part is read from -/

/-- Two values of a member that are read alike: they are equal but for one part, which is read alike. -/
inductive ReadAlike : Content → Json → Json → Prop
  | same {content j} : ReadAlike content j j
  | object {p : Part} {a b : Entries} (h : p.read a = p.read b) : ReadAlike (.object p) (.obj a) (.obj b)
  | array {p : Part} {a b : Entries} {front rest : List Json} (h : p.read a = p.read b) :
      ReadAlike (.array p) (.arr (front ++ .obj a :: rest)) (.arr (front ++ .obj b :: rest))

/-- **All members of a part are read alike** in two lists of entries. -/
def MembersAlike (p : Part) (a b : Entries) : Prop :=
  ∀ m ∈ p.members, Option.Rel (ReadAlike m.content) (m.find a) (m.find b)

section

variable {p q : Part} {a b : Entries} {x y : Option Json} {β : Type}

/-- A function of a member that holds a part, if it depends on what is read of the part. -/
theorem congr_of_object (h : Option.Rel (ReadAlike (.object q)) x y) (f : Option Json → β)
    (congr : ∀ c d, q.read c = q.read d → f (some (.obj c)) = f (some (.obj d))) : f x = f y := by
  cases h with
  | none => rfl
  | some alike =>
      cases alike with
      | same => rfl
      | object hread => exact congr _ _ hread

/-- A function of a member that holds an array of parts, if it depends on what is read of each part. -/
theorem congr_of_array (h : Option.Rel (ReadAlike (.array q)) x y) (f : Option Json → β)
    (congr : ∀ front c d rest, q.read c = q.read d →
      f (some (.arr (front ++ .obj c :: rest))) = f (some (.arr (front ++ .obj d :: rest)))) : f x = f y := by
  cases h with
  | none => rfl
  | some alike =>
      cases alike with
      | same => rfl
      | array hread => exact congr _ _ _ _ hread

/-- A list that is read part by part. -/
theorem optionalList_congr {read : Json → Checked β} (h : Option.Rel (ReadAlike (.array q)) x y)
    (congr : ∀ c d, q.read c = q.read d → read (.obj c) = read (.obj d)) :
    optionalList read x = optionalList read y := by
  refine congr_of_array h _ fun front c d rest hread => ?_
  have hlist : readList read (.arr (front ++ .obj c :: rest)) =
      readList read (.arr (front ++ .obj d :: rest)) := by
    simp only [readList, List.map_append, List.map_cons, congr c d hread]
  show (Checked.map some (readList read _)).map _ = (Checked.map some (readList read _)).map _
  rw [hlist]

/-- What holds no part is the same. -/
theorem eq_of_plain (h : Option.Rel (ReadAlike .plain) x y) : x = y := by
  cases h with
  | none => rfl
  | some alike => cases alike; rfl

theorem MembersAlike.get?_eq (h : MembersAlike p a b) (key : String)
    (known : (⟨key, none, .plain⟩ : Member) ∈ p.members) : Entries.get? a key = Entries.get? b key :=
  eq_of_plain (h _ known)

theorem MembersAlike.member?_eq (h : MembersAlike p a b) (key other : String)
    (known : (⟨key, some other, .plain⟩ : Member) ∈ p.members) : member? a key other = member? b key other :=
  eq_of_plain (h _ known)

end

/-- An entry that is read alike is treated alike by the loop. -/
theorem ingestFrom_congr {j j' : Json} (h : readEntry j = readEntry j') (front rest : List Json) (index : Nat)
    (types : Keyed NamedType) :
    ingestFrom index types (front ++ j :: rest) = ingestFrom index types (front ++ j' :: rest) := by
  have hjudge : ∀ known, judge known j = judge known j' := by
    intro known
    rw [judge, judge, h]
  rw [ingestFrom_append, ingestFrom_append, ingestFrom_cons, ingestFrom_cons]
  simp only [typesAfter, notesOn, hjudge]

/-- **A part is read from its members**: if they are read alike, so is the part. -/
theorem Part.read_congr {p : Part} {a b : Entries} (h : MembersAlike p a b) : p.read a = p.read b := by
  cases p with
  | result =>
      show ingest (.obj a) = ingest (.obj b)
      rw [ingest_eq_readSchema, ingest_eq_readSchema]
      exact congr_of_object (h ⟨"__schema", none, .object .schema⟩ (by decide)) readSchema
        fun _ _ hread => hread
  | schema =>
      have hroot : ∀ key other, (⟨key, some other, .object .named⟩ : Member) ∈ Part.schema.members →
          rootName (member? a key other) = rootName (member? b key other) := fun key other known =>
        congr_of_object (h _ known) rootName fun _ _ hread => (Prod.ext_iff.mp hread).2
      show readTypes _ _ _ _ = readTypes _ _ _ _
      rw [hroot "queryType" "query_type" (by decide), hroot "mutationType" "mutation_type" (by decide),
        hroot "subscriptionType" "subscription_type" (by decide)]
      refine congr_of_array (h ⟨"types", none, .array .entry⟩ (by decide)) (readTypes _ _ _)
        fun front c d rest hread => ?_
      have hentry : readEntry (.obj c) = readEntry (.obj d) := hread
      rw [readTypes, readTypes, ingestFrom_congr hentry]
  | named =>
      show (readNamed (.obj a), (Entries.get? a "name").bind Json.str?) =
        (readNamed (.obj b), (Entries.get? b "name").bind Json.str?)
      rw [readNamed, readNamed, h.get?_eq "name" (by decide)]
  | entry =>
      have hfields : optionalList readField (Entries.get? a "fields") =
          optionalList readField (Entries.get? b "fields") :=
        optionalList_congr (h ⟨"fields", none, .array .field⟩ (by decide)) fun _ _ hread => hread
      have hinputs : optionalList readField (member? a "inputFields" "input_fields") =
          optionalList readField (member? b "inputFields" "input_fields") :=
        optionalList_congr (h ⟨"inputFields", some "input_fields", .array .field⟩ (by decide))
          fun _ _ hread => hread
      have hvalues : optionalList readEnumValue (member? a "enumValues" "enum_values") =
          optionalList readEnumValue (member? b "enumValues" "enum_values") :=
        optionalList_congr (h ⟨"enumValues", some "enum_values", .array .enumValue⟩ (by decide))
          fun _ _ hread => hread
      have hinterfaces : optionalList readNamed (Entries.get? a "interfaces") =
          optionalList readNamed (Entries.get? b "interfaces") :=
        optionalList_congr (h ⟨"interfaces", none, .array .named⟩ (by decide))
          fun _ _ hread => (Prod.ext_iff.mp hread).1
      have hpossible : optionalList readNamed (member? a "possibleTypes" "possible_types") =
          optionalList readNamed (member? b "possibleTypes" "possible_types") :=
        optionalList_congr (h ⟨"possibleTypes", some "possible_types", .array .named⟩ (by decide))
          fun _ _ hread => (Prod.ext_iff.mp hread).1
      show readEntry (.obj a) = readEntry (.obj b)
      rw [readEntry, readEntry, h.get?_eq "kind" (by decide), h.get?_eq "name" (by decide),
        h.get?_eq "description" (by decide), hfields, hinputs, hvalues, hinterfaces, hpossible]
  | field =>
      have htype : required (readRef maxWrappers) (Entries.get? a "type") =
          required (readRef maxWrappers) (Entries.get? b "type") :=
        congr_of_object (h ⟨"type", none, .object .ref⟩ (by decide)) _
          fun _ _ hread => congrFun hread maxWrappers
      show readField (.obj a) = readField (.obj b)
      rw [readField, readField, h.get?_eq "name" (by decide), h.get?_eq "description" (by decide),
        h.member?_eq "isDeprecated" "is_deprecated" (by decide), htype]
  | enumValue =>
      show readEnumValue (.obj a) = readEnumValue (.obj b)
      rw [readEnumValue, readEnumValue, h.get?_eq "name" (by decide), h.get?_eq "description" (by decide),
        h.member?_eq "isDeprecated" "is_deprecated" (by decide)]
  | ref =>
      -- With no wrapper left the reference inside is a fault without being looked at.
      have hinside : ∀ read : Json → Checked TypeRef,
          (∀ c d, Part.ref.read c = Part.ref.read d → read (.obj c) = read (.obj d)) →
          optional read (member? a "ofType" "of_type") = optional read (member? b "ofType" "of_type") :=
        fun read congr => congr_of_object (h ⟨"ofType", some "of_type", .object .ref⟩ (by decide)) _
          fun c d hread => congrArg (Checked.map some) (congr c d hread)
      show (fun wrappers => readRef wrappers (.obj a)) = fun wrappers => readRef wrappers (.obj b)
      funext wrappers
      cases wrappers with
      | zero =>
          rw [readRef, readRef, h.get?_eq "kind" (by decide), h.get?_eq "name" (by decide),
            hinside (fun _ => .fault) fun _ _ _ => rfl]
      | succ wrappers =>
          rw [readRef, readRef, h.get?_eq "kind" (by decide), h.get?_eq "name" (by decide),
            hinside (readRef wrappers) fun _ _ hread => congrFun hread wrappers]

/-! ## What an edit leaves as it was -/

/-- A member is found alike if its keys find alike. -/
theorem Member.rel_find {m : Member} {a b : Entries} {R : Json → Json → Prop}
    (h : ∀ key ∈ m.keys, Option.Rel R (Entries.get? a key) (Entries.get? b key)) :
    Option.Rel R (m.find a) (m.find b) := by
  obtain ⟨key, other, content⟩ := m
  have hkey := h key List.mem_cons_self
  cases other with
  | none => exact hkey
  | some other =>
      have hother := h other (List.mem_cons_of_mem _ List.mem_cons_self)
      show Option.Rel R (member? a key other) (member? b key other)
      unfold member?
      generalize Entries.get? a key = x at hkey
      generalize Entries.get? b key = y at hkey
      cases hkey with
      | none => exact hother
      | some hv => exact .some hv

/-- A key belongs to one member only. -/
theorem Part.member_unique (p : Part) :
    ∀ m ∈ p.members, ∀ m' ∈ p.members, ∀ key ∈ m.keys, key ∈ m'.keys → m = m' := by
  cases p <;> decide

/-- The two spellings of a key are different. -/
theorem Part.key_ne_other (p : Part) : ∀ m ∈ p.members, m.other ≠ some m.key := by
  cases p <;> decide

/-- Where the keys of one member only are touched, it is enough that this member is read alike. -/
theorem MembersAlike.of_member {p : Part} {a b : Entries} {m : Member} (known : m ∈ p.members)
    (own : Option.Rel (ReadAlike m.content) (m.find a) (m.find b))
    (others : ∀ key, key ∉ m.keys → Entries.get? a key = Entries.get? b key) : MembersAlike p a b := by
  intro m' hm'
  by_cases hm : m' = m
  · rwa [hm]
  · refine Member.rel_find fun key hkey => ?_
    rw [others key fun h => hm (p.member_unique m' hm' m known key hkey h)]
    exact Entries.rel_refl (fun _ => .same) _

/-- What a member holds is replaced by something that is read alike. -/
theorem MembersAlike.replace {p : Part} {before behind : Entries} {m : Member} {key : String} {v w : Json}
    (known : m ∈ p.members) (spelling : key ∈ m.keys) (alike : ReadAlike m.content v w) :
    MembersAlike p (before ++ (key, v) :: behind) (before ++ (key, w) :: behind) := by
  refine .of_member known ?_ fun key' hkey' => ?_
  · exact Member.rel_find fun _ _ => Entries.rel_get?_replace (fun _ => .same) alike
  · have hne : key' ≠ key := fun h => hkey' (h ▸ spelling)
    rw [Entries.get?_put hne, Entries.get?_put hne]

/-- **One edit is not noticed**, whatever part it is made in. -/
theorem Edit.read_eq {p : Part} {a b : Entries} (h : Edit p a b) : p.read a = p.read b := by
  induction h with
  | @extra p before behind key value unknown =>
      refine Part.read_congr fun m hm => Member.rel_find fun key' hkey' => ?_
      have hne : key' ≠ key := by
        rintro rfl
        exact unknown (List.mem_flatMap.mpr ⟨m, hm, hkey'⟩)
      rw [Entries.get?_put hne]
      exact Entries.rel_refl (fun _ => .same) _
  | reorder distinct perm =>
      refine Part.read_congr fun m _ => Member.rel_find fun key _ => ?_
      rw [Entries.get?_perm distinct perm]
      exact Entries.rel_refl (fun _ => .same) _
  | @shadowed p before behind m other value known second present =>
      have hne : m.key ≠ other := fun h => p.key_ne_other m known (h ▸ second)
      have hother : other ∈ m.keys := List.mem_cons_of_mem _ (Option.mem_toList.mpr second)
      refine Part.read_congr (.of_member known ?_ fun key hkey => ?_)
      · have hfind : m.find (before ++ behind) = m.find (before ++ (other, value) :: behind) := by
          obtain ⟨j, hj⟩ := Option.ne_none_iff_exists'.mp fun h => Entries.get?_eq_none_iff.mp h present
          rw [Member.find, Member.find, second]
          show member? _ _ _ = member? _ _ _
          rw [member?, member?, Entries.get?_put hne, hj]
        rw [hfind]
        exact Entries.rel_refl (fun _ => .same) _
      · rw [Entries.get?_put (ne_of_mem_of_not_mem hother hkey).symm]
  | @respelt p before behind m other value known second absent absent' =>
      have hne : m.key ≠ other := fun h => p.key_ne_other m known (h ▸ second)
      have hother : other ∈ m.keys := List.mem_cons_of_mem _ (Option.mem_toList.mpr second)
      refine Part.read_congr (.of_member known ?_ fun key hkey => ?_)
      · have hfind : m.find (before ++ (m.key, value) :: behind) =
            m.find (before ++ (other, value) :: behind) := by
          rw [Member.find, Member.find, second]
          show member? _ _ _ = member? _ _ _
          rw [member?, member?, Entries.get?_put_self absent, Entries.get?_put hne,
            Entries.get?_eq_none_iff.mpr absent, Entries.get?_put_self absent']
        rw [hfind]
        exact Entries.rel_refl (fun _ => .same) _
      · rw [Entries.get?_put (ne_of_mem_of_not_mem List.mem_cons_self hkey).symm,
          Entries.get?_put (ne_of_mem_of_not_mem hother hkey).symm]
  | inObject _ _ known holds spelling _ hread =>
      exact Part.read_congr (.replace known spelling (holds ▸ .object hread))
  | inArray _ _ _ _ known holds spelling _ hread =>
      exact Part.read_congr (.replace known spelling (holds ▸ .array hread))

/-- **No number of edits is noticed.** -/
theorem Edits.read_eq {p : Part} {a b : Entries} (h : Edits p a b) : p.read a = p.read b := by
  induction h with
  | rel _ _ edit => exact edit.read_eq
  | refl _ => rfl
  | symm _ _ _ ih => exact ih.symm
  | trans _ _ _ _ _ first second => exact first.trans second

end Ingest

/-! ## Whole results -/

open Ingest

/-- **Ingestion ignores what it does not know.** Let two introspection results differ in any number of edits,
    made anywhere: in the result itself, the `__schema` object, a root, an entry, a field or an input field, a
    value of an enumeration, a reference to an interface or a possible type, or a type reference inside any
    number of others. An edit puts in or takes out a key that is known in none of its spellings there, or a
    second spelling behind a first one, puts one spelling for the other, or changes the order of the keys.
    Then both are refused for the same reason, or both give the same schema, its types, fields and values in
    the same order, with the same notes. -/
theorem unknown_keys_ignored {a b : Entries} (edits : Edits .result a b) : ingest (.obj a) = ingest (.obj b) :=
  edits.read_eq

namespace TotalsResult

/-- The schema of a query type with one field. -/
def schema (type : Entries) : Entries :=
  [("queryType", .obj [("name", .str "Query")]),
    ("types", .arr [.obj [("kind", .str "OBJECT"), ("name", .str "Query"),
      ("fields", .arr [.obj [("name", .str "totals"), ("type", .obj type)]])]])]

def number : Entries := [("kind", .str "SCALAR"), ("name", .str "Int")]

/-- A list of numbers. -/
def numbers : Entries := [("kind", .str "LIST"), ("ofType", .obj number)]

/-- The same in the second spelling, with a key inside that is not known. -/
def numbersEdited : Entries := [("kind", .str "LIST"), ("of_type", .obj (("specifiedByURL", .null) :: number))]

def result : Entries := [("__schema", .obj (schema numbers))]

def resultEdited : Entries := [("extensions", .null), ("__schema", .obj (schema numbersEdited).reverse)]

/-- What is edited inside the type of the field is edited inside the result. -/
theorem inside {a b : Entries} (edit : Edit .ref a b) :
    Edit .result [("__schema", .obj (schema a))] [("__schema", .obj (schema b))] := by
  have inField : Edit .field [("name", .str "totals"), ("type", .obj a)]
      [("name", .str "totals"), ("type", .obj b)] :=
    .inObject [_] [] (m := ⟨"type", none, .object .ref⟩) (by decide) rfl (by decide) edit
  have inSchema : Edit .schema (schema a) (schema b) :=
    .inArray [_] [] (m := ⟨"types", none, .array .entry⟩) [] [] (by decide) rfl (by decide)
      (.inArray [_, _] [] (m := ⟨"fields", none, .array .field⟩) [] [] (by decide) rfl (by decide) inField)
  exact .inObject [] [] (m := ⟨"__schema", none, .object .schema⟩) (by decide) rfl (by decide) inSchema

/-- Two edits of the type of the field, one of the schema around it and one of the result. -/
theorem edits : Edits .result result resultEdited := by
  have respelt : Edit .ref numbers [("kind", .str "LIST"), ("of_type", .obj number)] :=
    .respelt [_] [] (m := ⟨"ofType", some "of_type", .object .ref⟩) _ (by decide) rfl (by decide) (by decide)
  have extra : Edit .ref [("kind", .str "LIST"), ("of_type", .obj number)] numbersEdited :=
    .inObject [_] [] (m := ⟨"ofType", some "of_type", .object .ref⟩) (by decide) rfl (by decide)
      (.extra [] _ _ (by decide))
  have reorder : Edit .result [("__schema", .obj (schema numbersEdited))]
      [("__schema", .obj (schema numbersEdited).reverse)] :=
    .inObject [] [] (m := ⟨"__schema", none, .object .schema⟩) (by decide) rfl (by decide)
      (.reorder (by decide) (List.reverse_perm _).symm)
  have outside : Edit .result [("__schema", .obj (schema numbersEdited).reverse)] resultEdited :=
    .extra [] _ _ (by decide)
  exact .trans _ _ _ (.rel _ _ (inside respelt)) (.trans _ _ _ (.rel _ _ (inside extra))
    (.trans _ _ _ (.rel _ _ reorder) (.rel _ _ outside)))

end TotalsResult

open TotalsResult in
theorem totalsResult_ingested :
    Edits .result result resultEdited ∧ ingest (.obj result) = ingest (.obj resultEdited) :=
  ⟨edits, unknown_keys_ignored edits⟩

end GraphQLCache
