import GraphQLCache.Proofs.EntryLoop
import GraphQLCache.Proofs.Keyed

/-!
# `Proofs.EntryAccount` — every entry of an introspection result is accounted for once

Ingestion stores the first entry that describes a type under a name, passes over the entries of the
introspection system and leaves a note on each of the others. `IsAccount` is the whole account of a list of
entries: the places of the entries that were stored, of those that were passed over and of those that are
noted are together the places of the list, each once, and every one of them is where it is for a reason that
is told by the entry and the ones before it alone.

The account of a list is kept entry by entry. What one entry can do is said by `judge_cases`,
`IsAccount.concat` is the step for an entry more, and `exists_account` is the run.
-/

namespace GraphQLCache

namespace Ingest

variable {index : Nat} {items : List Json} {types : Keyed NamedType} {notes : List Skip}
  {places passed : List Nat} {j : Json} {t t' : NamedType} {name : String} {reason : SkipReason}

/-! ## What one entry is -/

/-- **An entry describes a type**: it can be read, is of a known kind and not of the introspection system. -/
def Describes (j : Json) (t : NamedType) : Prop :=
  ∃ e, readEntry j = .valid e ∧ isReserved e.name = false ∧ e.toType? = some t

theorem Describes.unique (h : Describes j t) (h' : Describes j t') : t = t' := by
  obtain ⟨e, read, _, described⟩ := h
  obtain ⟨e', read', _, described'⟩ := h'
  rw [read] at read'
  cases read'
  rw [described] at described'
  exact Option.some.inj described'

theorem Describes.not_reserved (h : Describes j t) : ¬ IsReservedEntry j := by
  obtain ⟨e, read, visible, _⟩ := h
  rintro ⟨e', read', reserved⟩
  rw [read] at read'
  cases read'
  rw [visible] at reserved
  cases reserved

theorem Describes.visible (h : Describes j t) : isReserved t.name = false := by
  obtain ⟨e, _, visible, described⟩ := h
  rw [name_of_toType? described]
  exact visible

/-- What describes a type is an entry of a named kind under a name that is not of the introspection system. -/
theorem exists_describes_iff :
    (∃ t, Describes j t ∧ t.name = name) ↔
      isReserved name = false ∧
        ∃ e, readEntry j = .valid e ∧ e.name = name ∧ ∃ kind ∈ TypeKind.all, e.kind = kind.word := by
  constructor
  · rintro ⟨t, ⟨e, read, visible, described⟩, rfl⟩
    have hname := name_of_toType? described
    obtain ⟨kind, hkind, _⟩ := Option.map_eq_some_iff.mp described
    have hword : kind.word = e.kind := by simpa using List.find?_some hkind
    exact ⟨hname ▸ visible, e, read, hname.symm, kind, List.mem_of_find?_eq_some hkind, hword.symm⟩
  · rintro ⟨visible, e, read, rfl, kind, hkind, hword⟩
    have hfound : (TypeKind.ofWord? e.kind).isSome = true :=
      List.find?_isSome.mpr ⟨kind, hkind, decide_eq_true hword.symm⟩
    obtain ⟨kind', hkind'⟩ := Option.isSome_iff_exists.mp hfound
    obtain ⟨t, ht⟩ : ∃ t, e.toType? = some t := by
      unfold Entry.toType?
      rw [hkind']
      exact ⟨_, rfl⟩
    exact ⟨t, ⟨e, read, visible, ht⟩, name_of_toType? ht⟩

/-- A name is taken by entries if one of them describes a type of this name. -/
def Taken (items : List Json) (name : String) : Prop := ∃ j ∈ items, ∃ t, Describes j t ∧ t.name = name

/-- **What there is to say against an entry** when the names in `taken` are taken: it cannot be read; or its
    name is taken; or its name is new, but its kind is none of the named ones. -/
inductive Objection (taken : String → Prop) (j : Json) : SkipReason → Prop
  | malformed {faults : Nat} (unread : readEntry j = .invalid faults) : Objection taken j (.malformed faults)
  | duplicate {e : Entry} (read : readEntry j = .valid e) (visible : isReserved e.name = false)
      (known : taken e.name) : Objection taken j (.duplicate e.name)
  | unsupported {e : Entry} (read : readEntry j = .valid e) (visible : isReserved e.name = false)
      (new : ¬ taken e.name) (unknown : e.toType? = none) : Objection taken j (.unsupported e.kind e.name)

/-- Nothing is said against an entry of the introspection system. -/
theorem Objection.not_reserved {taken : String → Prop} (h : Objection taken j reason) :
    ¬ IsReservedEntry j := by
  rintro ⟨e, read, reserved⟩
  cases h with
  | malformed unread => rw [read] at unread; cases unread
  | duplicate read' visible =>
      rw [read] at read'
      cases read'
      rw [reserved] at visible
      cases visible
  | unsupported read' visible =>
      rw [read] at read'
      cases read'
      rw [reserved] at visible
      cases visible

/-- An entry that describes a type is objected to for its name alone. -/
theorem Objection.taken_of_describes {taken : String → Prop} (h : Objection taken j reason)
    (described : Describes j t) : taken t.name := by
  obtain ⟨e, read, _, htype⟩ := described
  cases h with
  | malformed unread => rw [read] at unread; cases unread
  | duplicate read' _ known =>
      rw [read] at read'
      cases read'
      rw [name_of_toType? htype]
      exact known
  | unsupported read' _ _ unknown =>
      rw [read] at read'
      cases read'
      rw [htype] at unknown
      cases unknown

/-- **The verdict on an entry**: it describes a type of a new name and is added, or it is of the introspection
    system and passed over, or there is something to say against it and it is skipped for that reason. -/
theorem judge_cases (known : List String) (j : Json) :
    (∃ t, judge known j = .add t ∧ Describes j t ∧ t.name ∉ known) ∨
    (judge known j = .pass ∧ IsReservedEntry j) ∨
    ∃ reason, judge known j = .skip reason ∧ Objection (· ∈ known) j reason := by
  cases read : readEntry j with
  | invalid faults => exact Or.inr (Or.inr ⟨_, judge_of_unreadable read, .malformed read⟩)
  | valid e =>
      cases visible : isReserved e.name with
      | true => exact Or.inr (Or.inl ⟨judge_of_reserved ⟨e, read, visible⟩, e, read, visible⟩)
      | false =>
          by_cases hknown : e.name ∈ known
          · exact Or.inr (Or.inr ⟨_, judge_of_known read visible hknown, .duplicate read visible hknown⟩)
          · have hjudge := judge_of_new read visible hknown
            cases described : e.toType? with
            | none =>
                rw [described] at hjudge
                exact Or.inr (Or.inr ⟨_, hjudge, .unsupported read visible hknown described⟩)
            | some t =>
                rw [described] at hjudge
                exact Or.inl ⟨t, hjudge, ⟨e, read, visible, described⟩, name_of_toType? described ▸ hknown⟩

/-! ## What stands at a place -/

/-- The entry at a place is the first that describes a type of its name. -/
def FirstAt (items : List Json) (index : Nat) (t : NamedType) : Prop :=
  ∃ j, items[index]? = some j ∧ Describes j t ∧ ¬ Taken (items.take index) t.name

/-- The entry at a place is of the introspection system. -/
def ReservedAt (items : List Json) (index : Nat) : Prop := ∃ j, items[index]? = some j ∧ IsReservedEntry j

/-- There is something to say against the entry at a place. -/
def ObjectionAt (items : List Json) (index : Nat) (reason : SkipReason) : Prop :=
  ∃ j, items[index]? = some j ∧ Objection (Taken (items.take index)) j reason

/-- Neither the entry at a place nor those before it change with one more at the end. -/
theorem getElem?_take_concat (h : items[index]? = some j) (last : Json) :
    (items ++ [last])[index]? = some j ∧ (items ++ [last]).take index = items.take index := by
  obtain ⟨hlt, _⟩ := List.getElem?_eq_some_iff.mp h
  exact ⟨by rw [List.getElem?_append_left hlt, h], List.take_append_of_le_length (Nat.le_of_lt hlt)⟩

theorem FirstAt.concat (h : FirstAt items index t) (last : Json) : FirstAt (items ++ [last]) index t := by
  obtain ⟨j, hj, described, first⟩ := h
  obtain ⟨hat, htake⟩ := getElem?_take_concat hj last
  exact ⟨j, hat, described, by rw [htake]; exact first⟩

theorem ObjectionAt.concat (h : ObjectionAt items index reason) (last : Json) :
    ObjectionAt (items ++ [last]) index reason := by
  obtain ⟨j, hj, objection⟩ := h
  obtain ⟨hat, htake⟩ := getElem?_take_concat hj last
  exact ⟨j, hat, by rw [htake]; exact objection⟩

/-- The last entry stands behind all the others. -/
theorem getElem?_take_last (items : List Json) (last : Json) :
    (items ++ [last])[items.length]? = some last ∧ (items ++ [last]).take items.length = items :=
  ⟨List.getElem?_concat_length, List.take_left⟩

/-- With an entry more at the end, a place of the introspection system is an old one or the last. -/
theorem reservedAt_concat_iff {last : Json} :
    ReservedAt (items ++ [last]) index ↔
      ReservedAt items index ∨ (index = items.length ∧ IsReservedEntry last) := by
  constructor
  · rintro ⟨j, hj, reserved⟩
    obtain ⟨hlt, _⟩ := List.getElem?_eq_some_iff.mp hj
    rw [List.length_append, List.length_singleton] at hlt
    by_cases hlast : index = items.length
    · rw [hlast, (getElem?_take_last items last).1] at hj
      cases hj
      exact Or.inr ⟨hlast, reserved⟩
    · rw [List.getElem?_append_left (by omega)] at hj
      exact Or.inl ⟨j, hj, reserved⟩
  · rintro (⟨j, hj, reserved⟩ | ⟨rfl, reserved⟩)
    · exact ⟨j, (getElem?_take_concat hj last).1, reserved⟩
    · exact ⟨last, (getElem?_take_last items last).1, reserved⟩

theorem taken_concat_iff {last : Json} :
    Taken (items ++ [last]) name ↔ Taken items name ∨ ∃ t, Describes last t ∧ t.name = name := by
  unfold Taken
  constructor
  · rintro ⟨j, hj, hdescribed⟩
    rcases List.mem_append.mp hj with hmem | hlast
    · exact Or.inl ⟨j, hmem, hdescribed⟩
    · rw [List.mem_singleton] at hlast
      exact Or.inr (hlast ▸ hdescribed)
  · rintro (⟨j, hj, hdescribed⟩ | hdescribed)
    · exact ⟨j, List.mem_append_left _ hj, hdescribed⟩
    · exact ⟨last, List.mem_append_right _ (List.mem_singleton_self _), hdescribed⟩

/-- A name is taken in a list by the first entry that describes a type of it, which stands at one place. -/
theorem FirstAt.unique {index' : Nat} (h : FirstAt items index t) (h' : FirstAt items index' t')
    (hname : t.name = t'.name) : index = index' ∧ t = t' := by
  obtain ⟨j, hj, described, first⟩ := h
  obtain ⟨j', hj', described', first'⟩ := h'
  -- Of two places the entry at the earlier one takes the name from the later one.
  have htaken : ∀ {a b : Nat} {k : Json} {u : NamedType}, a < b → items[a]? = some k → Describes k u →
      Taken (items.take b) u.name := by
    intro a b k u hlt hk hu
    have hmem : k ∈ items.take b := List.mem_of_getElem? (by rw [List.getElem?_take_of_lt hlt, hk])
    exact ⟨k, hmem, u, hu, rfl⟩
  have hindex : index = index' := by
    rcases Nat.lt_trichotomy index index' with hlt | heq | hgt
    · exact absurd (hname ▸ htaken hlt hj described) first'
    · exact heq
    · exact absurd (hname ▸ htaken hgt hj' described') first
  subst hindex
  rw [hj] at hj'
  cases hj'
  exact ⟨rfl, described.unique described'⟩

/-! ## The account -/

/-- **The account of a list of entries**: `places` are those of the entries that are stored, `passed` those of
    the entries that are passed over without a word. With the places of the notes they are the places of the
    list, each once. Each type is stored under its own name for the first entry that describes a type of this
    name, in the order of these entries; and a name is there if and only if there is such an entry. What is
    passed over is of the introspection system. A note names its place and says what there is to say against
    the entry there, and notes come in the order of their places. -/
structure IsAccount (items : List Json) (types : Keyed NamedType) (notes : List Skip)
    (places passed : List Nat) : Prop where
  once : (places ++ passed ++ notes.map (·.index)).Perm (List.range items.length)
  stored : List.Forall₂ (fun i e => FirstAt items i e.2 ∧ e.1 = e.2.name) places types.entries
  inOrder : places.Pairwise (· < ·)
  present : ∀ name, name ∈ types.keys ↔ Taken items name
  silent : ∀ i, i ∈ passed ↔ ReservedAt items i
  noted : ∀ n ∈ notes, ObjectionAt items n.index n.reason
  notesInOrder : (notes.map (·.index)).Pairwise (· < ·)

theorem isAccount_nil : IsAccount [] .empty [] [] [] where
  once := List.Perm.nil
  stored := List.Forall₂.nil
  inOrder := List.Pairwise.nil
  present := by
    intro name
    constructor
    · intro h; cases h
    · rintro ⟨j, hj, _⟩; cases hj
  silent := by
    intro i
    constructor
    · intro h; cases h
    · rintro ⟨j, hj, _⟩; cases hj
  noted := by intro n hn; cases hn
  notesInOrder := List.Pairwise.nil

namespace IsAccount

/-- No place of the account is behind the list. -/
theorem lt_length (h : IsAccount items types notes places passed) {i : Nat}
    (hi : i ∈ places ++ passed ++ notes.map (·.index)) : i < items.length :=
  List.mem_range.mp (h.once.mem_iff.mp hi)

/-- The place of an entry more, in whatever part of the account it is put. -/
theorem perm_range_succ {length : Nat} {front behind : List Nat} (h : (front ++ behind).Perm (List.range length)) :
    (front ++ [length] ++ behind).Perm (List.range (length + 1)) := by
  rw [List.range_succ, List.append_assoc]
  refine List.Perm.trans (List.perm_append_comm.append_left front) ?_
  rw [← List.append_assoc]
  exact h.append_right [length]

/-- One more place at the end of a strictly ascending part of the account. -/
theorem pairwise_concat {part : List Nat} {last : Nat} (h : part.Pairwise (· < ·))
    (hlast : ∀ i ∈ part, i < last) : (part ++ [last]).Pairwise (· < ·) := by
  refine List.pairwise_append.mpr ⟨h, List.pairwise_singleton _ _, ?_⟩
  intro i hi b hb
  rw [List.mem_singleton.mp hb]
  exact hlast i hi

/-- The places that are passed over stay the same with an entry more that is not of the introspection
    system. -/
theorem silent_concat (h : IsAccount items types notes places passed) (ordinary : ¬ IsReservedEntry j) (i : Nat) :
    i ∈ passed ↔ ReservedAt (items ++ [j]) i := by
  rw [reservedAt_concat_iff, ← h.silent, or_iff_left fun hlast => ordinary hlast.2]

/-- The types that are there stay those of the first entries with one entry more. -/
theorem stored_concat (h : IsAccount items types notes places passed) (last : Json) :
    List.Forall₂ (fun i e => FirstAt (items ++ [last]) i e.2 ∧ e.1 = e.2.name) places types.entries :=
  h.stored.imp fun _ _ hfirst => ⟨hfirst.1.concat last, hfirst.2⟩

/-- **An entry that is added** is the first that describes a type of its name. -/
theorem concat_add (h : IsAccount items types notes places passed) (described : Describes j t)
    (new : t.name ∉ types.keys) :
    IsAccount (items ++ [j]) (types.addNew t.name t) notes (places ++ [items.length]) passed := by
  obtain ⟨hat, htake⟩ := getElem?_take_last items j
  have hadd : types.addNew t.name t = types.add t.name t new := dif_neg new
  rw [hadd]
  refine ⟨?once, ?stored, ?inOrder, ?present, h.silent_concat described.not_reserved, ?noted, h.notesInOrder⟩
  case once =>
    have hrest := h.once
    rw [List.append_assoc] at hrest
    rw [List.length_append, List.length_singleton, List.append_assoc]
    exact perm_range_succ hrest
  case stored =>
    refine List.rel_append (h.stored_concat j) (List.Forall₂.cons ⟨⟨j, hat, described, ?_⟩, rfl⟩ .nil)
    rw [htake]
    exact fun htaken => new ((h.present t.name).mpr htaken)
  case inOrder =>
    refine pairwise_concat h.inOrder fun i hi => h.lt_length ?_
    exact List.mem_append_left _ (List.mem_append_left _ hi)
  case present =>
    intro name
    have hkeys : (types.add t.name t new).keys = types.keys ++ [t.name] := List.map_append
    rw [hkeys, List.mem_append, List.mem_singleton, h.present, taken_concat_iff]
    refine or_congr_right ⟨fun hname => ⟨t, described, hname.symm⟩, ?_⟩
    rintro ⟨t', described', rfl⟩
    rw [described.unique described']
  case noted => exact fun n hn => (h.noted n hn).concat j

/-- **An entry that adds nothing** leaves the types and the names that are taken as they are. -/
theorem present_concat (h : IsAccount items types notes places passed)
    (nothing : ∀ t, Describes j t → t.name ∈ types.keys) (name : String) :
    name ∈ types.keys ↔ Taken (items ++ [j]) name := by
  rw [taken_concat_iff, ← h.present]
  refine ⟨Or.inl, ?_⟩
  rintro (hmem | ⟨t, described, rfl⟩)
  · exact hmem
  · exact nothing t described

/-- **An entry that is passed over** is of the introspection system. -/
theorem concat_pass (h : IsAccount items types notes places passed) (reserved : IsReservedEntry j) :
    IsAccount (items ++ [j]) types notes places (passed ++ [items.length]) := by
  refine ⟨?once, h.stored_concat j, h.inOrder,
    h.present_concat fun t described => absurd reserved described.not_reserved, ?silent, ?noted, h.notesInOrder⟩
  case once =>
    rw [List.length_append, List.length_singleton, ← List.append_assoc]
    exact perm_range_succ h.once
  case silent =>
    intro i
    rw [reservedAt_concat_iff, List.mem_append, List.mem_singleton, h.silent, and_iff_left reserved]
  case noted => exact fun n hn => (h.noted n hn).concat j

/-- **An entry that is skipped** is noted for what there is to say against it. -/
theorem concat_skip (h : IsAccount items types notes places passed)
    (objection : Objection (· ∈ types.keys) j reason) :
    IsAccount (items ++ [j]) types (notes ++ [⟨items.length, reason⟩]) places passed := by
  obtain ⟨hat, htake⟩ := getElem?_take_last items j
  refine ⟨?once, h.stored_concat j, h.inOrder,
    h.present_concat fun t described => objection.taken_of_describes described,
    h.silent_concat objection.not_reserved, ?noted, ?notesInOrder⟩
  case once =>
    have hall := h.once
    rw [← List.append_nil (notes.map (·.index)), ← List.append_assoc] at hall
    rw [List.length_append, List.length_singleton, List.map_append, ← List.append_assoc, ← List.append_nil (_ ++ _)]
    exact perm_range_succ hall
  case noted =>
    intro n hn
    rcases List.mem_append.mp hn with hold | hlast
    · exact (h.noted n hold).concat j
    · rw [List.mem_singleton.mp hlast]
      refine ⟨j, hat, ?_⟩
      have htaken : Taken items = (· ∈ types.keys) := funext fun name => propext (h.present name).symm
      show Objection (Taken ((items ++ [j]).take items.length)) j reason
      rw [htake, htaken]
      exact objection
  case notesInOrder =>
    rw [List.map_append]
    exact pairwise_concat h.notesInOrder fun i hi => h.lt_length (List.mem_append_right _ hi)

/-- **One entry more** is accounted for by the step of the loop. -/
theorem concat (h : IsAccount items types notes places passed) (j : Json) :
    ∃ places' passed',
      IsAccount (items ++ [j]) (typesAfter types j) (notes ++ notesOn items.length types j) places' passed' := by
  rcases judge_cases types.keys j with ⟨t, hjudge, described, new⟩ | ⟨hjudge, reserved⟩ | ⟨reason, hjudge, objection⟩
  · obtain ⟨htypes, hnotes⟩ : _ ∧ notesOn items.length types j = [] := step_of_add hjudge
    rw [htypes, hnotes, List.append_nil]
    exact ⟨_, _, h.concat_add described new⟩
  · obtain ⟨htypes, hnotes⟩ : _ ∧ notesOn items.length types j = [] := step_of_pass hjudge
    rw [htypes, hnotes, List.append_nil]
    exact ⟨_, _, h.concat_pass reserved⟩
  · obtain ⟨htypes, hnotes⟩ : _ ∧ notesOn items.length types j = [⟨items.length, reason⟩] := step_of_skip hjudge
    rw [htypes, hnotes]
    exact ⟨_, _, h.concat_skip objection⟩

/-! ### What the account says of the types -/

/-- Every type that is stored has its place. -/
theorem exists_firstAt (h : IsAccount items types notes places passed) {e : String × NamedType}
    (he : e ∈ types.entries) : ∃ i ∈ places, FirstAt items i e.2 ∧ e.1 = e.2.name := by
  -- Places and types are lists of one length, so a type is found beside its place.
  obtain ⟨k, hk, hget⟩ := List.mem_iff_getElem.mp he
  obtain ⟨hlength, hpairs⟩ := List.forall₂_iff_get.mp h.stored
  have hplace : k < places.length := hlength ▸ hk
  have hfirst := hpairs k hplace hk
  rw [List.get_eq_getElem, List.get_eq_getElem, hget] at hfirst
  exact ⟨places[k], List.getElem_mem hplace, hfirst⟩

/-- **The first good entry wins**: what is found under a name is what the first entry that describes a type of
    this name describes. -/
theorem get?_eq_some_iff (h : IsAccount items types notes places passed) :
    types.get? name = some t ↔ ∃ i, FirstAt items i t ∧ t.name = name := by
  constructor
  · intro hget
    obtain ⟨i, _, first, hname⟩ := h.exists_firstAt (Keyed.get?_eq_some_iff.mp hget)
    exact ⟨i, first, hname.symm⟩
  · rintro ⟨i, first, rfl⟩
    have htaken : Taken items t.name := by
      obtain ⟨j, hj, described, _⟩ := first
      exact ⟨j, List.mem_of_getElem? hj, t, described, rfl⟩
    -- Under this name some type is stored, and there is but one first entry for the name.
    obtain ⟨e, he, hkey⟩ := List.mem_map.mp ((h.present t.name).mpr htaken)
    obtain ⟨i', _, first', hname⟩ := h.exists_firstAt he
    obtain ⟨_, htype⟩ := first'.unique first (hname.symm.trans hkey)
    rw [← htype] at hkey ⊢
    exact Keyed.get?_eq_some_iff.mpr (hname ▸ he)

end IsAccount

/-- **The types that a list of entries yields.** They have distinct names, and each of them is stored under its
    own, which is not of the introspection system, and is of one of the six kinds. A name is there if and only
    if an entry that can be read has this name and a kind that is named; and what is there under it is what the
    first such entry describes. -/
structure FirstGoodWins (items : List Json) (types : Keyed NamedType) : Prop where
  distinct : types.keys.Nodup
  named : ∀ e ∈ types.entries, e.1 = e.2.name ∧ isReserved e.1 = false ∧ e.2.kind ∈ TypeKind.all
  present : ∀ name, isReserved name = false → (name ∈ types.keys ↔ ∃ j ∈ items, ∃ e,
    readEntry j = .valid e ∧ e.name = name ∧ ∃ kind ∈ TypeKind.all, e.kind = kind.word)
  first : ∀ name t, types.get? name = some t ↔ ∃ i, FirstAt items i t ∧ t.name = name

theorem IsAccount.firstGoodWins (h : IsAccount items types notes places passed) : FirstGoodWins items types where
  distinct := types.distinct
  named := by
    intro e he
    obtain ⟨_, _, ⟨_, _, described, _⟩, hname⟩ := h.exists_firstAt he
    refine ⟨hname, hname ▸ described.visible, ?_⟩
    cases e.2.kind <;> decide
  present := by
    intro name visible
    rw [h.present, Taken]
    refine exists_congr fun j => and_congr_right fun _ => ?_
    rw [exists_describes_iff, and_iff_right visible]
  first := fun _ _ => h.get?_eq_some_iff

/-- **The account of a whole run.** -/
theorem exists_account (items : List Json) :
    ∃ places passed,
      IsAccount items (ingestFrom 0 .empty items).1 (ingestFrom 0 .empty items).2 places passed := by
  induction items using List.reverseRecOn with
  | nil => exact ⟨[], [], isAccount_nil⟩
  | append_singleton items j ih =>
      obtain ⟨places, passed, h⟩ := ih
      rw [ingestFrom_append, ingestFrom_cons, Nat.zero_add]
      simp only [ingestFrom, List.append_nil]
      exact h.concat j

end Ingest

/-- The words of a note begin with its place. -/
theorem Skip.exists_message (n : Skip) : ∃ words, n.message = "types[" ++ toString n.index ++ "]: " ++ words :=
  ⟨_, rfl⟩

/-- **Every entry is accounted for exactly once, and the first good one wins**, for every introspection result
    with a `types` array: there is an account of the array, which tells the places of the entries that are
    stored, passed over and noted, and the types of the schema are those of the first good entries. -/
theorem entries_accounted_once {raw : Json} {items : List Json} (hitems : typeItems? raw = some items) :
    ∃ schema notes, ingest raw = .ok (schema, notes) ∧
      (∃ places passed, Ingest.IsAccount items schema.types notes places passed) ∧
      Ingest.FirstGoodWins items schema.types ∧
      ∀ n ∈ notes, ∃ words, n.message = "types[" ++ toString n.index ++ "]: " ++ words := by
  obtain ⟨places, passed, h⟩ := Ingest.exists_account items
  exact ⟨_, _, ingest_eq hitems, ⟨places, passed, h⟩, h.firstGoodWins, fun n _ => n.exists_message⟩

namespace MixedResult

open SmallResult

/-- An entry that cannot be read, one of no known kind, one of the introspection system, and a scalar, between
    the second and an enumeration of the same name. -/
def listed : List Json :=
  [.null, entry "DIRECTIVE" "Date", entry "OBJECT" "__Type", entry "SCALAR" "Date", entry "ENUM" "Date"]

def result : Json := .obj [("__schema", .obj [("types", .arr listed)])]

end MixedResult

open MixedResult in
/-- Of the entries under one name the scalar is stored; the one before it does not keep it from its name, and
    the one behind it is a duplicate. -/
theorem mixedResult_accounted_once :
    typeItems? result = some listed ∧
    ∃ schema notes, ingest result = .ok (schema, notes) ∧
      (∃ places passed, Ingest.IsAccount listed schema.types notes places passed) ∧
      Ingest.FirstGoodWins listed schema.types ∧
      schema.types.get? "Date" = some ⟨"Date", none, .scalar⟩ ∧
      notes = [⟨0, .malformed 1⟩, ⟨1, .unsupported "DIRECTIVE" "Date"⟩, ⟨4, .duplicate "Date"⟩] := by
  have hlisted : typeItems? result = some listed := rfl
  obtain ⟨schema, notes, hrun, haccount, hfirst, _⟩ := entries_accounted_once hlisted
  have hnotes : (ingest result).toOption.map (·.2) =
      some [⟨0, .malformed 1⟩, ⟨1, .unsupported "DIRECTIVE" "Date"⟩, ⟨4, .duplicate "Date"⟩] := by decide
  have hscalar : (ingest result).toOption.bind (·.1.types.get? "Date") = some ⟨"Date", none, .scalar⟩ := by decide
  rw [hrun] at hnotes hscalar
  exact ⟨hlisted, schema, notes, hrun, haccount, hfirst, hscalar, Option.some.inj hnotes⟩

end GraphQLCache
