import GraphQLCache.Introspection.Ingest
import GraphQLCache.Proofs.Entries

/-!
# `Proofs.EntryLoop` — ingestion, entry by entry

The loop of `ingest` carries two things along, the types found so far and the index of the next entry.
`ingestFrom_cons` says what one entry does to them, and `ingestFrom_append` and `ingestFrom_succ` what follows
for a list of entries: its parts are ingested one after the other, and a list that begins one place later
gives the same types and the same notes, each one place later.

An entry is *spare* when it adds no type, whatever was found before: it cannot be read, belongs to the
introspection system or is of no known kind. The main statement, `bad_entry_costs_only_itself`, compares two
whole runs, one without and one with an entry more.
-/

namespace GraphQLCache

/-- The same note one place later. -/
def Skip.later (n : Skip) : Skip := { n with index := n.index + 1 }

namespace Ingest

variable {index : Nat} {types : Keyed NamedType} {items : List Json} {j : Json}

/-! ## One entry -/

/-- The types after one more entry. -/
def typesAfter (types : Keyed NamedType) (j : Json) : Keyed NamedType :=
  match judge types.keys j with
  | .add t => types.addNew t.name t
  | .pass | .skip _ => types

/-- The note on one entry, if there is any. -/
def notesOn (index : Nat) (types : Keyed NamedType) (j : Json) : List Skip :=
  match judge types.keys j with
  | .skip reason => [⟨index, reason⟩]
  | .add _ | .pass => []

/-- **One step of the loop**: the entry changes the types and may leave a note, and the loop goes on. -/
theorem ingestFrom_cons (index : Nat) (types : Keyed NamedType) (j : Json) (rest : List Json) :
    ingestFrom index types (j :: rest) =
      ((ingestFrom (index + 1) (typesAfter types j) rest).1,
        notesOn index types j ++ (ingestFrom (index + 1) (typesAfter types j) rest).2) := by
  rw [ingestFrom]
  unfold typesAfter notesOn
  cases judge types.keys j with
  | add t => rfl
  | pass => rfl
  | skip reason => rfl

variable {t : NamedType}

/-- An entry that describes a new type adds it and leaves no note. -/
theorem step_of_add (h : judge types.keys j = .add t) :
    typesAfter types j = types.addNew t.name t ∧ notesOn index types j = [] := by
  unfold typesAfter notesOn
  rw [h]
  exact ⟨rfl, rfl⟩

/-- An entry that is passed over leaves no trace. -/
theorem step_of_pass (h : judge types.keys j = .pass) :
    typesAfter types j = types ∧ notesOn index types j = [] := by
  unfold typesAfter notesOn
  rw [h]
  exact ⟨rfl, rfl⟩

/-- An entry that is skipped leaves just its note. -/
theorem step_of_skip {reason : SkipReason} (h : judge types.keys j = .skip reason) :
    typesAfter types j = types ∧ notesOn index types j = [⟨index, reason⟩] := by
  unfold typesAfter notesOn
  rw [h]
  exact ⟨rfl, rfl⟩

theorem notesOn_succ : notesOn (index + 1) types j = (notesOn index types j).map Skip.later := by
  unfold notesOn
  cases judge types.keys j <;> rfl

/-- A note on an entry carries its index. -/
theorem index_of_mem_notesOn {n : Skip} (h : n ∈ notesOn index types j) : n.index = index := by
  unfold notesOn at h
  cases hj : judge types.keys j with
  | skip reason => rw [hj] at h; rw [List.mem_singleton.mp h]
  | _ => rw [hj] at h; cases h

/-! ## The loop -/

/-- **Parts of a list** are ingested one after the other. -/
theorem ingestFrom_append (index : Nat) (types : Keyed NamedType) (before after : List Json) :
    ingestFrom index types (before ++ after) =
      ((ingestFrom (index + before.length) (ingestFrom index types before).1 after).1,
        (ingestFrom index types before).2 ++
          (ingestFrom (index + before.length) (ingestFrom index types before).1 after).2) := by
  induction before generalizing index types with
  | nil => rfl
  | cons j rest ih =>
      have hlength : index + 1 + rest.length = index + (j :: rest).length := by
        rw [List.length_cons]; omega
      rw [List.cons_append, ingestFrom_cons, ingestFrom_cons, ih, hlength, List.append_assoc]

/-- **A list one place later** gives the same types and the same notes one place later. -/
theorem ingestFrom_succ (index : Nat) (types : Keyed NamedType) (items : List Json) :
    ingestFrom (index + 1) types items =
      ((ingestFrom index types items).1, (ingestFrom index types items).2.map Skip.later) := by
  induction items generalizing index types with
  | nil => rfl
  | cons j rest ih => rw [ingestFrom_cons, ingestFrom_cons, ih, notesOn_succ, List.map_append]

/-- The notes on a list carry the indices of its entries. -/
theorem index_of_mem_notes {n : Skip} (h : n ∈ (ingestFrom index types items).2) :
    index ≤ n.index ∧ n.index < index + items.length := by
  induction items generalizing index types with
  | nil => cases h
  | cons j rest ih =>
      rw [ingestFrom_cons, List.mem_append] at h
      rw [List.length_cons]
      rcases h with hown | hrest
      · have hindex := index_of_mem_notesOn hown
        omega
      · obtain ⟨hlow, hhigh⟩ := ih hrest
        omega

/-! ## Spare entries -/

/-- An entry of the introspection system. -/
def IsReservedEntry (j : Json) : Prop := ∃ e, readEntry j = .valid e ∧ isReserved e.name = true

/-- **A spare entry** cannot be read, belongs to the introspection system or is of no kind of named types. -/
inductive Spare (j : Json) : Prop
  | unreadable {faults} (unread : readEntry j = .invalid faults)
  | reserved (reserved : IsReservedEntry j)
  | unsupported {e} (read : readEntry j = .valid e) (unknown : TypeKind.ofWord? e.kind = none)

variable {e : Entry} {known : List String}

theorem judge_of_unreadable {faults : Nat} (h : readEntry j = .invalid faults) :
    judge known j = .skip (.malformed faults) := by
  rw [judge, h]

theorem judge_of_reserved (h : IsReservedEntry j) : judge known j = .pass := by
  obtain ⟨e, read, reserved⟩ := h
  simp only [judge, read, reserved, if_true]

theorem judge_of_known (read : readEntry j = .valid e) (visible : isReserved e.name = false)
    (h : e.name ∈ known) : judge known j = .skip (.duplicate e.name) := by
  have hcontains : known.contains e.name = true := List.contains_iff_mem.mpr h
  simp only [judge, read, visible, hcontains, Bool.false_eq_true, if_false, if_true]

theorem judge_of_new (read : readEntry j = .valid e) (visible : isReserved e.name = false)
    (h : e.name ∉ known) :
    judge known j = e.toType?.elim (.skip (.unsupported e.kind e.name)) .add := by
  have hcontains : known.contains e.name = false :=
    Bool.eq_false_iff.mpr fun hc => h (List.contains_iff_mem.mp hc)
  simp only [judge, read, visible, hcontains, Bool.false_eq_true, if_false]
  cases e.toType? <;> rfl

/-- A type carries the name of its entry. -/
theorem name_of_toType? (h : e.toType? = some t) : t.name = e.name := by
  obtain ⟨kind, _, rfl⟩ := Option.map_eq_some_iff.mp h
  rfl

/-- **A spare entry adds nothing.** It leaves no note if it belongs to the introspection system, and exactly
    one otherwise. -/
theorem Spare.step (spare : Spare j) (index : Nat) (types : Keyed NamedType) :
    typesAfter types j = types ∧
      ((IsReservedEntry j ∧ notesOn index types j = []) ∨
        (¬ IsReservedEntry j ∧ ∃ reason, notesOn index types j = [⟨index, reason⟩])) := by
  by_cases hreserved : IsReservedEntry j
  · obtain ⟨htypes, hnotes⟩ := step_of_pass (judge_of_reserved hreserved)
    exact ⟨htypes, Or.inl ⟨hreserved, hnotes⟩⟩
  · have hskip : ∃ reason, judge types.keys j = .skip reason := by
      cases spare with
      | unreadable unread => exact ⟨_, judge_of_unreadable unread⟩
      | reserved reserved => exact absurd reserved hreserved
      | @unsupported e read unknown =>
          have visible : isReserved e.name = false := by
            rw [← Bool.not_eq_true]
            exact fun h => hreserved ⟨e, read, h⟩
          by_cases hknown : e.name ∈ types.keys
          · exact ⟨_, judge_of_known read visible hknown⟩
          · have hnone : e.toType? = none := by rw [Entry.toType?, unknown]; rfl
            refine ⟨.unsupported e.kind e.name, ?_⟩
            rw [judge_of_new read visible hknown, hnone, Option.elim_none]
    obtain ⟨reason, hjudge⟩ := hskip
    obtain ⟨htypes, hnotes⟩ := step_of_skip hjudge
    exact ⟨htypes, Or.inr ⟨hreserved, reason, hnotes⟩⟩

/-- **A spare entry between two lists** leaves the types as they are, and moves the notes on what comes behind
    it by one place. -/
theorem ingestFrom_insert (spare : Spare j) (index : Nat) (types : Keyed NamedType)
    (before after : List Json) :
    ∃ first own later, (ingestFrom index types (before ++ after)).2 = first ++ later ∧
      ingestFrom index types (before ++ j :: after) =
        ((ingestFrom index types (before ++ after)).1, first ++ own ++ later.map Skip.later) ∧
      (∀ n ∈ first, n.index < index + before.length) ∧ (∀ n ∈ later, index + before.length ≤ n.index) ∧
      ((IsReservedEntry j ∧ own = []) ∨
        (¬ IsReservedEntry j ∧ ∃ reason, own = [⟨index + before.length, reason⟩])) := by
  obtain ⟨htypes, hown⟩ := spare.step (index + before.length) (ingestFrom index types before).1
  refine ⟨(ingestFrom index types before).2, _,
    (ingestFrom (index + before.length) (ingestFrom index types before).1 after).2, ?_, ?_, ?_, ?_, hown⟩
  · rw [ingestFrom_append]
  · rw [ingestFrom_append, ingestFrom_append, ingestFrom_cons, htypes, ingestFrom_succ, List.append_assoc]
  · exact fun n hn => (index_of_mem_notes hn).2
  · exact fun n hn => (index_of_mem_notes hn).1

/-! ## One more entry at the end -/

/-- **An entry at the end that describes a type** is added if its name is new, and noted as a duplicate
    otherwise. -/
theorem ingestFrom_concat (read : readEntry j = .valid e) (visible : isReserved e.name = false)
    (described : e.toType? = some t) (index : Nat) (types : Keyed NamedType) (items : List Json) :
    (∀ fresh : e.name ∉ (ingestFrom index types items).1.keys, ingestFrom index types (items ++ [j]) =
      ((ingestFrom index types items).1.add e.name t fresh, (ingestFrom index types items).2)) ∧
    (e.name ∈ (ingestFrom index types items).1.keys → ingestFrom index types (items ++ [j]) =
      ((ingestFrom index types items).1,
        (ingestFrom index types items).2 ++ [⟨index + items.length, .duplicate e.name⟩])) := by
  constructor
  · intro fresh
    obtain ⟨htypes, hnotes⟩ := step_of_add ((judge_of_new read visible fresh).trans (by rw [described]; rfl))
    rw [ingestFrom_append, ingestFrom_cons, htypes, hnotes, name_of_toType? described, Keyed.addNew,
      dif_neg fresh, ingestFrom, List.append_nil, List.append_nil]
  · intro hknown
    obtain ⟨htypes, hnotes⟩ := step_of_skip (judge_of_known read visible hknown)
    rw [ingestFrom_append, ingestFrom_cons, htypes, hnotes, ingestFrom, List.append_nil]

end Ingest

/-! ## Whole results -/

/-- The elements of the `types` array of an introspection result. -/
def typeItems? (raw : Json) : Option (List Json) :=
  ((raw.get? "__schema").bind fun schema => schema.get? "types").bind Json.arr?

/-- The same introspection result with other elements in its `types` array. -/
def withTypeItems (items : List Json) : Json → Json
  | .obj top =>
    match Entries.get? top "__schema" with
    | some (.obj schema) =>
      .obj (Entries.insert top "__schema" (.obj (Entries.insert schema "types" (.arr items))))
    | _ => .obj top
  | raw => raw

/-- The entries of the `__schema` object. -/
def schemaEntries (raw : Json) : Entries := ((raw.get? "__schema").bind Json.obj?).getD []

/-- The types that were found together with the root names that the result gives. -/
def schemaAround (raw : Json) (types : Keyed NamedType) : Schema :=
  { types
    query := Ingest.rootName (Entry.member? (schemaEntries raw) "queryType" "query_type")
    mutation := Ingest.rootName (Entry.member? (schemaEntries raw) "mutationType" "mutation_type")
    subscription :=
      Ingest.rootName (Entry.member? (schemaEntries raw) "subscriptionType" "subscription_type") }

variable {raw : Json} {items items' : List Json} {types : Keyed NamedType}

/-- The shape of a result that has a `types` array. -/
theorem exists_of_typeItems? (h : typeItems? raw = some items) :
    ∃ top schema, raw = .obj top ∧ Entries.get? top "__schema" = some (.obj schema) ∧
      Entries.get? schema "types" = some (.arr items) := by
  obtain ⟨array, harray, hitems⟩ := Option.bind_eq_some_iff.mp h
  obtain ⟨schema, hschema, htypes⟩ := Option.bind_eq_some_iff.mp harray
  cases raw with
  | obj top =>
      cases schema with
      | obj entries =>
          cases array with
          | arr _ => cases hitems; exact ⟨top, entries, rfl, hschema, htypes⟩
          | _ => cases hitems
      | _ => cases htypes
  | _ => cases hschema

/-- **Ingestion is its loop**, run from no types, with the root names around the outcome. -/
theorem ingest_eq (h : typeItems? raw = some items) :
    ingest raw = .ok (schemaAround raw (Ingest.ingestFrom 0 .empty items).1,
      (Ingest.ingestFrom 0 .empty items).2) := by
  obtain ⟨top, schema, rfl, hschema, htypes⟩ := exists_of_typeItems? h
  have hentries : schemaEntries (.obj top) = schema := by
    rw [schemaEntries, Json.get?, hschema]; rfl
  simp only [ingest, Json.get?, hschema, htypes, schemaAround, hentries]

theorem typeItems?_withTypeItems (h : typeItems? raw = some items) :
    typeItems? (withTypeItems items' raw) = some items' := by
  obtain ⟨top, schema, rfl, hschema, _⟩ := exists_of_typeItems? h
  simp only [typeItems?, withTypeItems, hschema, Json.get?, Entries.get?_insert, if_true, Option.bind_some,
    Json.arr?]

/-- Other elements in the `types` array do not change the root names. -/
theorem schemaAround_withTypeItems (h : typeItems? raw = some items) :
    schemaAround (withTypeItems items' raw) types = schemaAround raw types := by
  obtain ⟨top, schema, rfl, hschema, _⟩ := exists_of_typeItems? h
  have hentries : schemaEntries (.obj top) = schema := by
    rw [schemaEntries, Json.get?, hschema]; rfl
  have hentries' : schemaEntries (withTypeItems items' (.obj top)) =
      Entries.insert schema "types" (.arr items') := by
    simp only [schemaEntries, withTypeItems, hschema, Json.get?, Entries.get?_insert, if_true,
      Option.bind_some, Json.obj?, Option.getD_some]
  have hmember : ∀ key other, key ≠ "types" → other ≠ "types" →
      Entry.member? (Entries.insert schema "types" (.arr items')) key other =
        Entry.member? schema key other := by
    intro key other hkey hother
    rw [Entry.member?, Entry.member?, Entries.get?_insert, Entries.get?_insert, if_neg hkey, if_neg hother]
  rw [schemaAround, schemaAround, hentries, hentries', hmember _ _ (by decide) (by decide),
    hmember _ _ (by decide) (by decide), hmember _ _ (by decide) (by decide)]

/-- **A bad entry costs only itself.** Take any introspection result with a `types` array. A spare entry put
    anywhere into the array leaves the schema as it is: the notes on the entries in front of it stay, the
    notes on those behind it move by one place, and between them stands exactly one note with its own index,
    or none if it belongs to the introspection system. An entry put at the end that describes a type which is
    not of the introspection system adds this type at the end if its name is new; otherwise the schema stays
    and one note says that the name is a duplicate. -/
theorem bad_entry_costs_only_itself {raw : Json} {items : List Json} (hitems : typeItems? raw = some items)
    (j : Json) :
    (Ingest.Spare j → ∀ before after, items = before ++ after →
      ∃ schema first own later, ingest raw = .ok (schema, first ++ later) ∧
        ingest (withTypeItems (before ++ j :: after) raw) =
          .ok (schema, first ++ own ++ later.map Skip.later) ∧
        (∀ n ∈ first, n.index < before.length) ∧ (∀ n ∈ later, before.length ≤ n.index) ∧
        ((Ingest.IsReservedEntry j ∧ own = []) ∨
          (¬ Ingest.IsReservedEntry j ∧ ∃ reason, own = [⟨before.length, reason⟩]))) ∧
    (∀ e t, readEntry j = .valid e → Ingest.isReserved e.name = false → e.toType? = some t →
      ∃ schema notes, ingest raw = .ok (schema, notes) ∧
        (∀ fresh : e.name ∉ schema.types.keys, ingest (withTypeItems (items ++ [j]) raw) =
          .ok ({ schema with types := schema.types.add e.name t fresh }, notes)) ∧
        (e.name ∈ schema.types.keys → ingest (withTypeItems (items ++ [j]) raw) =
          .ok (schema, notes ++ [⟨items.length, .duplicate e.name⟩]))) := by
  have hrun : ∀ items', ingest (withTypeItems items' raw) =
      .ok (schemaAround raw (Ingest.ingestFrom 0 .empty items').1,
        (Ingest.ingestFrom 0 .empty items').2) := by
    intro items'
    rw [ingest_eq (typeItems?_withTypeItems hitems), schemaAround_withTypeItems hitems]
  constructor
  · rintro spare before after rfl
    obtain ⟨first, own, later, hnotes, hinsert, hfirst, hlater, hown⟩ :=
      Ingest.ingestFrom_insert spare 0 .empty before after
    rw [Nat.zero_add] at hfirst hlater hown
    refine ⟨schemaAround raw (Ingest.ingestFrom 0 .empty (before ++ after)).1, first, own, later, ?_, ?_,
      hfirst, hlater, hown⟩
    · rw [ingest_eq hitems, hnotes]
    · rw [hrun, hinsert]
  · intro e t read visible described
    obtain ⟨hnew, hknown⟩ := Ingest.ingestFrom_concat read visible described 0 .empty items
    rw [Nat.zero_add] at hknown
    refine ⟨_, _, ingest_eq hitems, fun fresh => ?_, fun h => ?_⟩
    · rw [hrun, hnew fresh]
      rfl
    · rw [hrun, hknown h]

/-! ### A small result -/

namespace SmallResult

/-- An entry that gives a kind and a name only. -/
def entry (kind name : String) : Json := .obj [("kind", .str kind), ("name", .str name)]

/-- A query type that is repeated, and a scalar. -/
def listed : List Json := [entry "OBJECT" "Query", entry "SCALAR" "Query", entry "SCALAR" "Date"]

def result : Json :=
  .obj [("__schema", .obj [("queryType", .obj [("name", .str "Query")]), ("types", .arr listed)])]

end SmallResult

open SmallResult in
/-- An entry of no known kind does not keep a scalar behind it from its name; an enumeration is added at the
    end. -/
theorem smallResult_keeps_scalar :
    typeItems? result = some listed ∧ Ingest.Spare (entry "DIRECTIVE" "Date") ∧
    (∃ schema first own later, ingest result = .ok (schema, first ++ later) ∧
      ingest (withTypeItems ([entry "OBJECT" "Query", entry "SCALAR" "Query"] ++
          entry "DIRECTIVE" "Date" :: [entry "SCALAR" "Date"]) result) =
        .ok (schema, first ++ own ++ later.map Skip.later) ∧
      (∀ n ∈ first, n.index < 2) ∧ (∀ n ∈ later, 2 ≤ n.index) ∧
      ((Ingest.IsReservedEntry (entry "DIRECTIVE" "Date") ∧ own = []) ∨
        (¬ Ingest.IsReservedEntry (entry "DIRECTIVE" "Date") ∧ ∃ reason, own = [⟨2, reason⟩]))) ∧
    ∃ schema notes, ingest result = .ok (schema, notes) ∧
      (∀ fresh : "Colour" ∉ schema.types.keys, ingest (withTypeItems (listed ++ [entry "ENUM" "Colour"]) result) =
        .ok ({ schema with types := schema.types.add "Colour" ⟨"Colour", none, .enum []⟩ fresh }, notes)) ∧
      ("Colour" ∈ schema.types.keys → ingest (withTypeItems (listed ++ [entry "ENUM" "Colour"]) result) =
        .ok (schema, notes ++ [⟨3, .duplicate "Colour"⟩])) := by
  have hlisted : typeItems? result = some listed := rfl
  have spare : Ingest.Spare (entry "DIRECTIVE" "Date") := .unsupported rfl (by decide)
  refine ⟨hlisted, spare, ?_, ?_⟩
  · exact (bad_entry_costs_only_itself hlisted (entry "DIRECTIVE" "Date")).1 spare _ _ rfl
  · exact (bad_entry_costs_only_itself hlisted (entry "ENUM" "Colour")).2
      ⟨"ENUM", "Colour", none, [], [], [], [], []⟩ ⟨"Colour", none, .enum []⟩ rfl (by decide) (by decide)

end GraphQLCache
