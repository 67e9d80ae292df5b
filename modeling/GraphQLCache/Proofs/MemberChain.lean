import GraphQLCache.Mock.Synthesis
import GraphQLCache.Proofs.Regular
import Mathlib.Data.List.Chain
import Mathlib.Data.List.Perm.Subperm
import Mathlib.Logic.Relation

/-!
# `Proofs.MemberChain` — where the chain of first members ends

An interface or a union stands for its first member, which may be an interface or a union again.
`Schema.landing` follows this chain for as many steps as the schema has types. This module shows that the
bound is harmless: the landing satisfies the unbounded equations of the chain (`landing_of_concrete`,
`landing_of_noMember`, `landing_of_member`), and it is `endless` exactly when the chain runs into a cycle
(`landing_eq_endless_iff`). The key is a pigeonhole argument: every type behind the first is a value of the
schema, so a longer walk visits one of them twice.
-/

namespace GraphQLCache

open Relation

namespace TypeBody

/-- Whether a body stands for its members: an interface or a union. -/
def isAbstract : TypeBody → Bool
  | .interface _ _ | .union _ => true
  | _ => false

/-- The fields of a body whose values are objects of that type: an object or an input object. -/
def recordFields? : TypeBody → Option (List Field)
  | .object fields _ | .inputObject fields => some fields
  | _ => none

variable {b : TypeBody} {fields : List Field}

theorem isAbstract_cases (h : b.isAbstract = true) :
    (∃ fields members, b = .interface fields members) ∨ ∃ members, b = .union members := by
  cases b with
  | interface fields members => exact Or.inl ⟨fields, members, rfl⟩
  | union members => exact Or.inr ⟨members, rfl⟩
  | _ => exact absurd h Bool.noConfusion

theorem recordFields?_cases (h : b.recordFields? = some fields) :
    (∃ interfaces, b = .object fields interfaces) ∨ b = .inputObject fields := by
  cases b with
  | object fs interfaces => cases h; exact Or.inl ⟨interfaces, rfl⟩
  | inputObject fs => cases h; exact Or.inr rfl
  | _ => exact absurd h (by simp [recordFields?])

/-- A record stands for no members. -/
theorem isAbstract_of_recordFields (h : b.recordFields? = some fields) : b.isAbstract = false := by
  rcases recordFields?_cases h with ⟨_, rfl⟩ | rfl
  · rfl
  · rfl

/-- The fields of a record are its declared fields. -/
theorem fields_of_recordFields (h : b.recordFields? = some fields) : b.fields = fields := by
  rcases recordFields?_cases h with ⟨_, rfl⟩ | rfl
  · rfl
  · rfl

/-- A body that stands for no members is a leaf or a record. -/
theorem concrete_cases (h : b.isAbstract = false) :
    b = .scalar ∨ (∃ values, b = .enum values) ∨ ∃ fields, b.recordFields? = some fields := by
  cases b with
  | scalar => exact Or.inl rfl
  | enum values => exact Or.inr (Or.inl ⟨values, rfl⟩)
  | object fields _ => exact Or.inr (Or.inr ⟨fields, rfl⟩)
  | inputObject fields => exact Or.inr (Or.inr ⟨fields, rfl⟩)
  | _ => exact absurd h Bool.noConfusion

end TypeBody

namespace Schema

variable {s : Schema} {t u next : NamedType}

/-! ## First members -/

/-- The first member of an interface or a union, if it has one and the schema holds it. -/
def firstMember? (s : Schema) (t : NamedType) : Option NamedType := t.body.members.head?.bind s.get?

/-- `next` is the first member of `t`. -/
def FirstMember (s : Schema) (t next : NamedType) : Prop := s.firstMember? t = some next

/-- **First members form a cycle**: some type is reached from itself by one or more steps to a first
    member. -/
def FirstMembersCycle (s : Schema) : Prop := ∃ t, TransGen s.FirstMember t t

theorem FirstMember.unique {u' : NamedType} (h : s.FirstMember t u) (h' : s.FirstMember t u') : u = u' :=
  Option.some.inj (h.symm.trans h')

/-- Only an interface or a union has a first member. -/
theorem FirstMember.isAbstract (h : s.FirstMember t next) : t.body.isAbstract = true := by
  unfold FirstMember firstMember? at h
  cases hb : t.body with
  | interface _ _ => rfl
  | union _ => rfl
  | scalar => rw [hb] at h; exact absurd h (by simp [TypeBody.members])
  | enum _ => rw [hb] at h; exact absurd h (by simp [TypeBody.members])
  | object _ _ => rw [hb] at h; exact absurd h (by simp [TypeBody.members])
  | inputObject _ => rw [hb] at h; exact absurd h (by simp [TypeBody.members])

/-- A first member is found by a name. -/
theorem FirstMember.exists_name (h : s.FirstMember t next) : ∃ name, s.get? name = some next := by
  obtain ⟨name, _, hget⟩ := Option.bind_eq_some_iff.mp h
  exact ⟨name, hget⟩

/-- A first member is one of the types of the schema. -/
theorem FirstMember.mem_values (h : s.FirstMember t next) : next ∈ s.types.values := by
  obtain ⟨_, hget⟩ := h.exists_name
  exact mem_values_of_get? hget

/-! ## One step of the bounded walk -/

/-- Reading the members of an interface or a union comes to reading the first of them. -/
theorem landing_of_members (n : Nat) (members : List String) :
    (match members with
      | [] => Landing.nowhere
      | first :: _ =>
        match s.get? first with
        | none => .nowhere
        | some next =>
          match n with
          | 0 => .endless
          | n + 1 => s.landingWithin n next) =
    match members.head?.bind s.get? with
      | none => .nowhere
      | some next =>
        match n with
        | 0 => .endless
        | n + 1 => s.landingWithin n next := by
  cases members with
  | nil => rfl
  | cons first _ => rw [List.head?_cons, Option.bind_some]

/-- What one step of the walk does, by the first member alone. -/
theorem landingWithin_eq (n : Nat) (t : NamedType) :
    s.landingWithin n t =
      if t.body.isAbstract then
        match s.firstMember? t with
        | none => .nowhere
        | some next =>
          match n with
          | 0 => .endless
          | n + 1 => s.landingWithin n next
      else .concrete t := by
  rw [landingWithin, firstMember?]
  cases t.body with
  | interface _ members => exact landing_of_members n members
  | union members => exact landing_of_members n members
  | scalar => rfl
  | enum _ => rfl
  | object _ _ => rfl
  | inputObject _ => rfl

theorem landingWithin_of_concrete (n : Nat) (h : t.body.isAbstract = false) :
    s.landingWithin n t = .concrete t := by
  rw [landingWithin_eq, h]; rfl

theorem landingWithin_of_noMember (n : Nat) (h : t.body.isAbstract = true) (hn : s.firstMember? t = none) :
    s.landingWithin n t = .nowhere := by
  rw [landingWithin_eq, h, hn]; rfl

theorem landingWithin_zero_of_member (h : s.FirstMember t next) : s.landingWithin 0 t = .endless := by
  rw [landingWithin_eq, h.isAbstract, show s.firstMember? t = some next from h]; rfl

theorem landingWithin_succ_of_member (n : Nat) (h : s.FirstMember t next) :
    s.landingWithin (n + 1) t = s.landingWithin n next := by
  rw [landingWithin_eq, h.isAbstract, show s.firstMember? t = some next from h]; rfl

/-- A type is concrete, stands for no member, or has a first member. -/
theorem chain_cases (s : Schema) (t : NamedType) :
    t.body.isAbstract = false ∨ (t.body.isAbstract = true ∧ s.firstMember? t = none) ∨
      ∃ next, s.FirstMember t next := by
  cases hm : s.firstMember? t with
  | some next => exact Or.inr (Or.inr ⟨next, hm⟩)
  | none =>
      cases hb : t.body.isAbstract with
      | false => exact Or.inl rfl
      | true => exact Or.inr (Or.inl ⟨rfl, rfl⟩)

/-! ## Walks that do not end -/

/-- A walk that is cut off after `n` steps went through `n + 1` first members. -/
theorem exists_walk_of_endless {n : Nat} (h : s.landingWithin n t = .endless) :
    ∃ walk : List NamedType, walk.length = n + 1 ∧ (t :: walk).IsChain s.FirstMember := by
  induction n generalizing t with
  | zero =>
      rcases s.chain_cases t with hc | ⟨habs, hn⟩ | ⟨next, hm⟩
      · rw [landingWithin_of_concrete 0 hc] at h; exact absurd h (by simp)
      · rw [landingWithin_of_noMember 0 habs hn] at h; exact absurd h (by simp)
      · exact ⟨[next], rfl, List.isChain_cons_cons.mpr ⟨hm, List.isChain_singleton next⟩⟩
  | succ n ih =>
      rcases s.chain_cases t with hc | ⟨habs, hn⟩ | ⟨next, hm⟩
      · rw [landingWithin_of_concrete _ hc] at h; exact absurd h (by simp)
      · rw [landingWithin_of_noMember _ habs hn] at h; exact absurd h (by simp)
      · rw [landingWithin_succ_of_member n hm] at h
        obtain ⟨walk, hlen, hchain⟩ := ih h
        exact ⟨next :: walk, by simp [hlen], List.isChain_cons_cons.mpr ⟨hm, hchain⟩⟩

/-- Every type behind the first of a walk is one of the types of the schema. -/
theorem walk_subset_values {walk : List NamedType} (h : (t :: walk).IsChain s.FirstMember) :
    walk ⊆ s.types.values := by
  induction walk generalizing t with
  | nil => exact List.nil_subset _
  | cons next rest ih =>
      obtain ⟨hm, hrest⟩ := List.isChain_cons_cons.mp h
      exact List.cons_subset.mpr ⟨hm.mem_values, ih hrest⟩

/-- **Pigeonhole.** A walk with more steps than the schema has types reaches a cycle. -/
theorem exists_cycle_of_long_walk {walk : List NamedType} (hchain : (t :: walk).IsChain s.FirstMember)
    (hlen : s.types.values.length < walk.length) :
    ∃ u, ReflTransGen s.FirstMember t u ∧ TransGen s.FirstMember u u := by
  by_contra hno
  have hpair : (t :: walk).Pairwise (TransGen s.FirstMember) :=
    (hchain.imp fun _ _ hab => TransGen.single hab).pairwise
  obtain ⟨hfrom, hwalk⟩ := List.pairwise_cons.mp hpair
  -- two equal types of the walk would close a cycle that `t` reaches
  have hnodup : walk.Nodup := by
    refine hwalk.imp_of_mem ?_
    intro a b ha _ hab heq
    exact hno ⟨a, (hfrom a ha).to_reflTransGen, by rw [← heq] at hab; exact hab⟩
  have hle := (hnodup.subperm (walk_subset_values hchain)).length_le
  omega

/-- A walk that starts on a cycle never ends. -/
theorem landingWithin_of_cycle (n : Nat) (h : TransGen s.FirstMember t t) :
    s.landingWithin n t = .endless := by
  induction n generalizing t with
  | zero =>
      obtain ⟨next, hm, _⟩ := TransGen.head'_iff.mp h
      exact landingWithin_zero_of_member hm
  | succ n ih =>
      obtain ⟨next, hm, hback⟩ := TransGen.head'_iff.mp h
      rw [landingWithin_succ_of_member n hm]
      exact ih (TransGen.tail' hback hm)

/-- A walk that reaches a cycle never ends. -/
theorem landingWithin_of_reaches_cycle (n : Nat) (h : ReflTransGen s.FirstMember t u)
    (hcycle : TransGen s.FirstMember u u) : s.landingWithin n t = .endless := by
  induction h using ReflTransGen.head_induction_on generalizing n with
  | refl => exact landingWithin_of_cycle n hcycle
  | head hm _ ih =>
      cases n with
      | zero => exact landingWithin_zero_of_member hm
      | succ n => rw [landingWithin_succ_of_member n hm]; exact ih n

/-- **The bound is enough**: the landing is `endless` exactly when the chain reaches a cycle. -/
theorem landing_eq_endless_iff :
    s.landing t = .endless ↔ ∃ u, ReflTransGen s.FirstMember t u ∧ TransGen s.FirstMember u u := by
  constructor
  · intro h
    obtain ⟨walk, hlen, hchain⟩ := exists_walk_of_endless h
    refine exists_cycle_of_long_walk hchain ?_
    rw [hlen, Keyed.values, List.length_map]
    exact Nat.lt_succ_self _
  · rintro ⟨u, hreach, hcycle⟩
    exact landingWithin_of_reaches_cycle _ hreach hcycle

/-! ## The equations of the landing -/

theorem landing_of_concrete (h : t.body.isAbstract = false) : s.landing t = .concrete t :=
  landingWithin_of_concrete _ h

theorem landing_of_noMember (h : t.body.isAbstract = true) (hn : s.firstMember? t = none) :
    s.landing t = .nowhere := landingWithin_of_noMember _ h hn

/-- More steps do not change a walk that has ended. -/
theorem landingWithin_succ_of_ended {n : Nat} (h : s.landingWithin n t ≠ .endless) :
    s.landingWithin (n + 1) t = s.landingWithin n t := by
  induction n generalizing t with
  | zero =>
      rcases s.chain_cases t with hc | ⟨habs, hn⟩ | ⟨next, hm⟩
      · rw [landingWithin_of_concrete _ hc, landingWithin_of_concrete _ hc]
      · rw [landingWithin_of_noMember _ habs hn, landingWithin_of_noMember _ habs hn]
      · exact absurd (landingWithin_zero_of_member hm) h
  | succ n ih =>
      rcases s.chain_cases t with hc | ⟨habs, hn⟩ | ⟨next, hm⟩
      · rw [landingWithin_of_concrete _ hc, landingWithin_of_concrete _ hc]
      · rw [landingWithin_of_noMember _ habs hn, landingWithin_of_noMember _ habs hn]
      · rw [landingWithin_succ_of_member n hm] at h
        rw [landingWithin_succ_of_member _ hm, landingWithin_succ_of_member n hm]
        exact ih h

/-- **A type lands where its first member lands**, whatever the bound of the walk. -/
theorem landing_of_member (h : s.FirstMember t next) : s.landing t = s.landing next := by
  by_cases hend : s.landing t = .endless
  · obtain ⟨u, hreach, hcycle⟩ := landing_eq_endless_iff.mp hend
    rw [hend]
    refine (landing_eq_endless_iff.mpr ?_).symm
    rcases hreach.cases_head with rfl | ⟨next', hm, hrest⟩
    · -- `t` itself lies on the cycle, and so does its first member
      obtain ⟨next', hm, hback⟩ := TransGen.head'_iff.mp hcycle
      rw [h.unique hm]
      exact ⟨t, hback, hcycle⟩
    · rw [h.unique hm]
      exact ⟨u, hrest, hcycle⟩
  · calc s.landing t
        = s.landingWithin (s.types.entries.length + 1) t := (landingWithin_succ_of_ended hend).symm
      _ = s.landing next := landingWithin_succ_of_member _ h

/-- No chain of a schema without a cycle of first members is endless. -/
theorem landing_ne_endless (h : ¬ s.FirstMembersCycle) (t : NamedType) : s.landing t ≠ .endless := by
  intro hend
  obtain ⟨u, _, hcycle⟩ := landing_eq_endless_iff.mp hend
  exact h ⟨u, hcycle⟩

/-- A type on a cycle is found by its name and has an endless chain. -/
theorem exists_endless_of_cycle (h : s.FirstMembersCycle) :
    ∃ name t, s.get? name = some t ∧ s.landing t = .endless := by
  obtain ⟨t, hcycle⟩ := h
  obtain ⟨u, _, hm⟩ := TransGen.tail'_iff.mp hcycle
  obtain ⟨name, hget⟩ := hm.exists_name
  exact ⟨name, t, hget, landing_eq_endless_iff.mpr ⟨t, .refl, hcycle⟩⟩

/-- Whether first members form a cycle shows in the landings of the types of the schema. -/
theorem firstMembersCycle_iff : s.FirstMembersCycle ↔ ∃ t ∈ s.types.values, s.landing t = .endless := by
  constructor
  · intro h
    obtain ⟨name, t, hget, hend⟩ := exists_endless_of_cycle h
    exact ⟨t, mem_values_of_get? hget, hend⟩
  · rintro ⟨t, _, hend⟩
    obtain ⟨u, _, hcycle⟩ := landing_eq_endless_iff.mp hend
    exact ⟨u, hcycle⟩

instance (s : Schema) : Decidable s.FirstMembersCycle :=
  decidable_of_iff (∃ t ∈ s.types.values, s.landing t = .endless) firstMembersCycle_iff.symm

/-- **Induction along a chain that ends**: from the types where a chain can end, back over first members. -/
theorem landing_induction {motive : NamedType → Prop}
    (concrete : ∀ t, t.body.isAbstract = false → motive t)
    (noMember : ∀ t, t.body.isAbstract = true → s.firstMember? t = none → motive t)
    (member : ∀ t next, s.FirstMember t next → motive next → motive t)
    (t : NamedType) (h : s.landing t ≠ .endless) : motive t := by
  -- the walk of `n` steps ends, and `n` is what the induction is on
  suffices hall : ∀ n t, s.landingWithin n t ≠ .endless → motive t from hall _ t h
  intro n
  induction n with
  | zero =>
      intro t h
      rcases s.chain_cases t with hc | ⟨habs, hn⟩ | ⟨next, hm⟩
      · exact concrete t hc
      · exact noMember t habs hn
      · exact absurd (landingWithin_zero_of_member hm) h
  | succ n ih =>
      intro t h
      rcases s.chain_cases t with hc | ⟨habs, hn⟩ | ⟨next, hm⟩
      · exact concrete t hc
      · exact noMember t habs hn
      · rw [landingWithin_succ_of_member n hm] at h
        exact member t next hm (ih next h)

/-- Where types are stored under their own names, a chain from a type that is found lands on one. -/
theorem get?_of_landing {x : NamedType} (own : s.OwnNames) {name : String} (hget : s.get? name = some t)
    (h : s.landing t = .concrete x) : s.get? x.name = some x := by
  have hend : s.landing t ≠ .endless := by rw [h]; exact Landing.noConfusion
  refine landing_induction (motive := fun t => ∀ name, s.get? name = some t → s.landing t = .concrete x →
    s.get? x.name = some x) ?_ ?_ ?_ t hend name hget h
  · intro t hconcrete name hget h
    rw [landing_of_concrete hconcrete] at h
    cases h
    exact own.get?_name hget
  · intro t habs hnone _ _ h
    rw [landing_of_noMember habs hnone] at h
    cases h
  · intro t next hm ih _ _ h
    obtain ⟨name, hget⟩ := hm.exists_name
    exact ih name hget ((landing_of_member hm).symm.trans h)

end Schema

end GraphQLCache
