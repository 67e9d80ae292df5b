import GraphQLCache.Proofs.Synthesis

/-!
# `Proofs.Termination` — when a default has a finite unfolding

`MockContext.ofRef` is a total function that answers `none` where the chain of first members is endless.
This module justifies that answer. `MockContext.Unfolds` is the recursion by which defaults are explained,
rule by rule, without a bound on chains and with depth and depth bound as integers: a derivation is a finite
tree of calls, so a call has one exactly when it ends.

The call has an unfolding with a value exactly when `ofRef` gives that value at the room that depth and bound
leave (`unfolds_iff`), and every call of a schema ends exactly when its first members form no cycle
(`ofRef_isSome`, `exists_ofRef_eq_none`).
-/

namespace GraphQLCache

namespace MockContext

/-! ## The unfolding of a default -/

/-- What a default is asked for: a reference or a named type. -/
inductive Demand where
  | ref (ref : TypeRef)
  | type (type : NamedType)

/-- **The unfolding of a default.** One constructor per way in which a call ends or calls again: a reference
    drops a non-null wrapper, is a list, names an unknown type or goes over to its type; a type is a leaf, an
    object that is cut or goes over to its fields one level deeper, or goes over to its first member. -/
inductive Unfolds (c : MockContext) :
    (visited : List String) → (depth maxDepth : Int) → Demand → Json → Prop
  | nonNull {visited depth maxDepth name inner value}
      (within : Unfolds c visited depth (max maxDepth 0) (.ref inner) value) :
      Unfolds c visited depth maxDepth (.ref (.wrap .nonNull name inner)) value
  | list {visited depth maxDepth ref} (plain : ref.IsPlain) (isList : ref.isList = true) :
      Unfolds c visited depth maxDepth (.ref ref) (.arr [])
  | unknown {visited depth maxDepth ref} (plain : ref.IsPlain) (noList : ref.isList = false)
      (missing : c.schema.get? ref.baseName = none) :
      Unfolds c visited depth maxDepth (.ref ref) (scalarDefault c.clock ref.baseName)
  | known {visited depth maxDepth ref t value} (plain : ref.IsPlain) (noList : ref.isList = false)
      (found : c.schema.get? ref.baseName = some t)
      (within : Unfolds c visited depth (max maxDepth 0) (.type t) value) :
      Unfolds c visited depth maxDepth (.ref ref) value
  | scalar {visited depth maxDepth t} (body : t.body = .scalar) :
      Unfolds c visited depth maxDepth (.type t) (scalarDefault c.clock t.name)
  | enum {visited depth maxDepth t values} (body : t.body = .enum values) :
      Unfolds c visited depth maxDepth (.type t) (.str ((values.head?.map (·.name)).getD ""))
  | seen {visited depth maxDepth t fields} (record : t.body.recordFields? = some fields)
      (seen : t.name ∈ visited) : Unfolds c visited depth maxDepth (.type t) .null
  | deep {visited depth maxDepth t fields} (record : t.body.recordFields? = some fields)
      (deep : max maxDepth 0 ≤ depth) : Unfolds c visited depth maxDepth (.type t) .null
  | object {visited depth maxDepth t fields} {value : Field → Json}
      (record : t.body.recordFields? = some fields) (fresh : t.name ∉ visited)
      (room : depth < max maxDepth 0)
      (within : ∀ f ∈ ownFields fields,
        Unfolds c (t.name :: visited) (depth + 1) (max maxDepth 0) (.ref f.type) (value f)) :
      Unfolds c visited depth maxDepth (.type t) (tagged t.name (fieldEntries fields value))
  | noMember {visited depth maxDepth t} (isAbstract : t.body.isAbstract = true)
      (none : c.schema.firstMember? t = none) : Unfolds c visited depth maxDepth (.type t) .null
  | member {visited depth maxDepth t next value} (first : c.schema.FirstMember t next)
      (within : Unfolds c visited depth (max maxDepth 0) (.type next) value) :
      Unfolds c visited depth maxDepth (.type t) value

/-! ## Unfoldings compute the defaults -/

/-- The default that a demand asks for. -/
def demanded (c : MockContext) (room : Nat) (visited : List String) : Demand → Option Json
  | .ref ref => c.ofRef room visited ref
  | .type t => c.ofType room visited t

variable {c : MockContext} {visited : List String} {depth maxDepth : Int}

/-- **Soundness.** The value of an unfolding is the default at the room that depth and bound leave. -/
theorem Unfolds.demanded_eq {demand : Demand} {value : Json}
    (h : Unfolds c visited depth maxDepth demand value) :
    c.demanded (roomAt depth maxDepth) visited demand = some value := by
  induction h with
  | nonNull _ ih => rw [roomAt_clamp] at ih; exact ih
  | list plain isList =>
      exact ofRef_of_list (by rw [TypeRef.nullable_of_plain plain]; exact isList)
  | @unknown visited depth maxDepth ref plain noList missing =>
      have hn := TypeRef.nullable_of_plain plain
      have hdefault : c.ofRef (roomAt depth maxDepth) visited ref =
          some (scalarDefault c.clock ref.nullable.baseName) :=
        ofRef_of_unknown (by rw [hn]; exact noList) (by rw [hn]; exact missing)
      rw [hn] at hdefault
      exact hdefault
  | known plain noList found _ ih =>
      have hn := TypeRef.nullable_of_plain plain
      rw [roomAt_clamp] at ih
      exact (ofRef_of_known (by rw [hn]; exact noList) (by rw [hn]; exact found)).trans ih
  | scalar body => exact ofType_of_scalar body
  | enum body => exact ofType_of_enum body
  | seen record seen => exact ofType_of_seen record seen
  | deep record deep =>
      rw [roomAt_eq_zero.mpr deep]
      exact ofType_of_noRoom record
  | @object visited depth maxDepth t fields value record fresh room _ ih =>
      rw [roomAt_eq_succ.mpr ⟨room, rfl⟩]
      have hfields : fieldsBy (c.ofRef (roomAt (depth + 1) maxDepth) (t.name :: visited)) fields =
          some (fieldEntries fields value) := by
        refine fieldsBy_of_values fun f hf => ?_
        have hvalue := ih f hf
        rw [roomAt_clamp] at hvalue
        exact hvalue
      rw [show c.demanded _ visited (.type t) = _ from ofType_of_record record fresh, hfields]
      rfl
  | noMember isAbstract none => exact ofType_of_noMember isAbstract none
  | member first _ ih =>
      rw [roomAt_clamp] at ih
      exact (ofType_of_member first).trans ih

/-- Every default at `room` has an unfolding, from whatever depth and bound that leave that room. -/
def UnfoldsAt (c : MockContext) (room : Nat) (demand : Demand) : Prop :=
  ∀ visited depth maxDepth value, roomAt depth maxDepth = room →
    c.demanded room visited demand = some value → Unfolds c visited depth maxDepth demand value

variable {room : Nat}

/-- An object unfolds at a room if all references unfold with less room. -/
theorem unfoldsAt_record {t : NamedType} {fields : List Field} (record : t.body.recordFields? = some fields)
    (below : ∀ room' < room, ∀ ref, c.UnfoldsAt room' (.ref ref)) : c.UnfoldsAt room (.type t) := by
  intro visited depth maxDepth value hroom h
  change c.ofType room visited t = some value at h
  rcases ofType_record_cases record h with
    ⟨hseen, rfl⟩ | ⟨rfl, rfl⟩ | ⟨room', values, rfl, fresh, rfl, hvalues⟩
  · exact .seen record hseen
  · exact .deep record (roomAt_eq_zero.mp hroom)
  · obtain ⟨hlt, hless⟩ := roomAt_eq_succ.mp hroom
    refine .object record fresh hlt fun f hf => ?_
    exact below room' (Nat.lt_succ_self room') f.type _ _ _ _ ((roomAt_clamp _ _).trans hless) (hvalues f hf)

/-- A type unfolds at a room if all references unfold with less room: the induction follows the chain of
    first members to where it ends. -/
theorem unfoldsAt_type (below : ∀ room' < room, ∀ ref, c.UnfoldsAt room' (.ref ref)) (t : NamedType) :
    c.UnfoldsAt room (.type t) := by
  by_cases hend : c.schema.landing t = .endless
  · intro visited depth maxDepth value _ h
    rw [show c.demanded room visited (.type t) = none from ofType_of_endless hend] at h
    exact absurd h (by simp)
  · refine Schema.landing_induction (motive := fun t => c.UnfoldsAt room (.type t)) ?_ ?_ ?_ t hend
    · intro t hconcrete visited depth maxDepth value hroom h
      rcases TypeBody.concrete_cases hconcrete with hb | ⟨values, hb⟩ | ⟨fields, hb⟩
      · cases (ofType_of_scalar hb).symm.trans h
        exact .scalar hb
      · cases (ofType_of_enum hb).symm.trans h
        exact .enum hb
      · exact unfoldsAt_record hb below visited depth maxDepth value hroom h
    · intro t habs hnone visited depth maxDepth value _ h
      cases (ofType_of_noMember habs hnone).symm.trans h
      exact .noMember habs hnone
    · intro t next hm ih visited depth maxDepth value hroom h
      refine .member hm (ih visited depth (max maxDepth 0) value ?_ ((ofType_of_member hm).symm.trans h))
      rw [roomAt_clamp]; exact hroom

/-- A plain reference unfolds where all types do. -/
theorem unfoldsAt_plain {ref : TypeRef} (plain : ref.IsPlain) (types : ∀ t, c.UnfoldsAt room (.type t)) :
    c.UnfoldsAt room (.ref ref) := by
  intro visited depth maxDepth value hroom h
  have hn := TypeRef.nullable_of_plain plain
  change c.ofRef room visited ref = some value at h
  cases hlist : ref.isList with
  | true =>
      cases (ofRef_of_list (by rw [hn]; exact hlist)).symm.trans h
      exact .list plain hlist
  | false =>
      cases hget : c.schema.get? ref.baseName with
      | none =>
          rw [ofRef_of_unknown (by rw [hn]; exact hlist) (by rw [hn]; exact hget), hn] at h
          cases h
          exact .unknown plain hlist hget
      | some t =>
          rw [ofRef_of_known (by rw [hn]; exact hlist) (by rw [hn]; exact hget)] at h
          refine .known plain hlist hget (types t visited depth (max maxDepth 0) value ?_ h)
          rw [roomAt_clamp]; exact hroom

/-- A reference unfolds where all types do: the induction strips its non-null wrappers. -/
theorem unfoldsAt_ref (types : ∀ t, c.UnfoldsAt room (.type t)) (ref : TypeRef) :
    c.UnfoldsAt room (.ref ref) := by
  induction ref with
  | leaf kind name => exact unfoldsAt_plain (by intro _ _ h; exact absurd h (by simp)) types
  | wrap kind name inner ih =>
      cases kind with
      | nonNull =>
          intro visited depth maxDepth value hroom h
          refine .nonNull (ih visited depth (max maxDepth 0) value ?_ h)
          rw [roomAt_clamp]; exact hroom
      | list => exact unfoldsAt_plain (by intro _ _ h; exact absurd h (by simp)) types
      | named w hw => exact unfoldsAt_plain (by intro _ _ h; exact absurd h (by simp)) types

/-- **Completeness.** Every default has an unfolding, whatever room there is. -/
theorem unfoldsAt_all (room : Nat) (demand : Demand) : c.UnfoldsAt room demand := by
  induction room using Nat.strong_induction_on generalizing demand with
  | _ room ih =>
      have htypes := unfoldsAt_type (c := c) fun room' hlt ref => ih room' hlt (.ref ref)
      cases demand with
      | ref ref => exact unfoldsAt_ref htypes ref
      | type t => exact htypes t

/-- **An unfolding exists exactly where there is a default**, and has its value. -/
theorem unfolds_iff {demand : Demand} {value : Json} :
    Unfolds c visited depth maxDepth demand value ↔
      c.demanded (roomAt depth maxDepth) visited demand = some value :=
  ⟨Unfolds.demanded_eq, unfoldsAt_all _ demand visited depth maxDepth value rfl⟩

/-! ## Schemas without a cycle of first members -/

/-- Fields have their defaults together if every reference has one. -/
theorem fieldsBy_isSome {g : TypeRef → Option Json} (h : ∀ ref, (g ref).isSome) (fields : List Field) :
    (fieldsBy g fields).isSome := by
  rw [fieldsBy_of_values fun f _ => (Option.some_get (h f.type)).symm]
  rfl

/-- A type whose chain ends has a default if all references have one with less room. -/
theorem ofType_isSome_of_below
    (below : ∀ room' < room, ∀ visited ref, (c.ofRef room' visited ref).isSome) {t : NamedType}
    (hend : c.schema.landing t ≠ .endless) (visited : List String) : (c.ofType room visited t).isSome := by
  refine Schema.landing_induction (motive := fun t => (c.ofType room visited t).isSome) ?_ ?_ ?_ t hend
  · intro t hconcrete
    rcases TypeBody.concrete_cases hconcrete with hb | ⟨values, hb⟩ | ⟨fields, hb⟩
    · rw [ofType_of_scalar hb]; rfl
    · rw [ofType_of_enum hb]; rfl
    · by_cases hseen : t.name ∈ visited
      · rw [ofType_of_seen hb hseen]; rfl
      · cases room with
        | zero => rw [ofType_of_noRoom hb]; rfl
        | succ room =>
            rw [ofType_of_record hb hseen, Option.isSome_map]
            exact fieldsBy_isSome (below room (Nat.lt_succ_self room) _) fields
  · intro t habs hnone
    rw [ofType_of_noMember habs hnone]; rfl
  · intro t next hm ih
    rw [ofType_of_member hm]; exact ih

/-- A reference has a default where all types do. -/
theorem ofRef_isSome_of_types (types : ∀ t, (c.ofType room visited t).isSome) (ref : TypeRef) :
    (c.ofRef room visited ref).isSome := by
  cases hlist : ref.nullable.isList with
  | true => rw [ofRef_of_list hlist]; rfl
  | false =>
      cases hget : c.schema.get? ref.nullable.baseName with
      | none => rw [ofRef_of_unknown hlist hget]; rfl
      | some t => rw [ofRef_of_known hlist hget]; exact types t

/-- **Without a cycle of first members every reference has a default.** -/
theorem ofRef_isSome (hacyclic : ¬ c.schema.FirstMembersCycle) (room : Nat) (visited : List String)
    (ref : TypeRef) : (c.ofRef room visited ref).isSome := by
  induction room using Nat.strong_induction_on generalizing visited ref with
  | _ room ih =>
      exact ofRef_isSome_of_types
        (fun t => ofType_isSome_of_below ih (Schema.landing_ne_endless hacyclic t) visited) ref

/-- A cycle of first members leaves some reference without a default, at every room. -/
theorem exists_ofRef_eq_none (hcycle : c.schema.FirstMembersCycle) :
    ∃ ref, ∀ room visited, c.ofRef room visited ref = none := by
  obtain ⟨name, t, hget, hend⟩ := Schema.exists_endless_of_cycle hcycle
  have hname := (Schema.mem_entries_of_get? hget).1
  have hbase : (TypeRef.named (.ofWord "UNION") name).baseName = name := by
    simp only [TypeRef.named, TypeRef.baseName, TypeRef.properName?, hname, Bool.false_eq_true, if_false,
      Option.getD_some]
  refine ⟨.named (.ofWord "UNION") name, fun room visited => ?_⟩
  rw [ofRef_of_known rfl (hbase.symm ▸ hget)]
  exact ofType_of_endless hend

/-- An introspection result with nothing but a union and its one member. -/
def loneUnion (name member : String) : Json :=
  .obj [("__schema", .obj [("types", .arr [.obj [("kind", .str "UNION"), ("name", .str name),
    ("possibleTypes", .arr [.obj [("name", .str member)]])]])])]

/-- **Ingestion lets cycles of first members through**: members are not looked up, so a union may have itself
    for a member. -/
theorem exists_ingested_cycle :
    ∃ raw s skips, ingest raw = .ok (s, skips) ∧ s.FirstMembersCycle := by
  refine ⟨loneUnion "U" "U", ⟨.ofPairs [("U", ⟨"U", none, .union ["U"]⟩)], none, none, none⟩, [], ?_, ?_⟩
  · rfl
  · decide

/-- A union whose member is missing forms no cycle. -/
theorem exists_ingested_acyclic :
    ∃ raw s skips, ingest raw = .ok (s, skips) ∧ ¬ s.FirstMembersCycle := by
  refine ⟨loneUnion "U" "V", ⟨.ofPairs [("U", ⟨"U", none, .union ["V"]⟩)], none, none, none⟩, [], ?_, ?_⟩
  · rfl
  · decide

/-- **Exact termination of synthesis.** A call has a finite unfolding with a value exactly when the default
    is that value, at the room that depth and bound leave; and all calls, for every reference, every set of
    visited types and all depths and bounds, have one exactly when no first members form a cycle. Ingestion
    returns schemas of both sorts. -/
theorem every_default_unfolds_iff (c : MockContext) :
    (∀ visited depth maxDepth ref value,
      Unfolds c visited depth maxDepth (.ref ref) value ↔
        c.ofRef (roomAt depth maxDepth) visited ref = some value) ∧
    ((∀ visited depth maxDepth ref, ∃ value, Unfolds c visited depth maxDepth (.ref ref) value) ↔
      ¬ c.schema.FirstMembersCycle) ∧
    (∃ raw s skips, ingest raw = .ok (s, skips) ∧ s.FirstMembersCycle) ∧
    (∃ raw s skips, ingest raw = .ok (s, skips) ∧ ¬ s.FirstMembersCycle) := by
  refine ⟨fun visited depth maxDepth ref value => unfolds_iff, ⟨?_, ?_⟩, exists_ingested_cycle,
    exists_ingested_acyclic⟩
  · intro hall hcycle
    obtain ⟨ref, hnone⟩ := exists_ofRef_eq_none hcycle
    obtain ⟨value, hunfolds⟩ := hall [] 0 0 ref
    have hvalue := hunfolds.demanded_eq
    rw [show c.demanded _ [] (.ref ref) = none from hnone _ _] at hvalue
    exact absurd hvalue (by simp)
  · intro hacyclic visited depth maxDepth ref
    obtain ⟨value, hvalue⟩ :=
      Option.isSome_iff_exists.mp (ofRef_isSome hacyclic (roomAt depth maxDepth) visited ref)
    exact ⟨value, unfolds_iff.mpr hvalue⟩

end MockContext

end GraphQLCache
