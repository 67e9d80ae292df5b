import GraphQLCache.Cache.Snapshot
import Mathlib.Data.List.Chain
import Mathlib.Data.List.Nodup

/-!
# `Proofs.References` — where a chain of references ends

`resolve?` follows references with two brakes, a number of look-ups and the ids that were seen. A
`ReferencePath` knows neither: it is a list of distinct cache ids, each holding a reference to the next, the
last one holding a record that is none. `resolve?_iff_referencePath` says that the walk finds exactly the ends of
such paths, as long as the look-ups suffice.

The proof follows the recursion. `resolveWithin?_succ_eq_some_iff` says what one look-up can do, and
`resolveWithin?_eq_some_iff` puts look-ups together; there a path must also keep away from the ids seen.
-/

namespace GraphQLCache

/-! ## References -/

theorem refTarget?_eq_some_iff {entries : Entries} {target : String} :
    refTarget? entries = some target ↔ Entries.get? entries "__ref" = some (.str target) := by
  unfold refTarget?
  constructor
  · intro h
    obtain ⟨j, hget, hstr⟩ := Option.bind_eq_some_iff.mp h
    cases j with
    | str s => rw [hget, ← Option.some.inj hstr]
    | _ => cases hstr
  · intro h
    rw [h]
    rfl

theorem isReference_obj (entries : Entries) : isReference (.obj entries) = (refTarget? entries).isSome := rfl

namespace Snapshot

variable {s : Snapshot} {link : Link} {id : String} {entries record : Entries} {path seen : List String}
  {steps : Nat}

theorem record?_eq_some_iff : s.record? id = some record ↔ s.get? id = some (.obj record) := by
  unfold record?
  constructor
  · intro h
    obtain ⟨j, hget, hobj⟩ := Option.bind_eq_some_iff.mp h
    cases j with
    | obj entries => rw [hget, Option.some.inj hobj]
    | _ => cases hobj
  · intro h
    rw [h]
    rfl

/-- One id refers to another: it holds an object with that other id under the reference key. -/
def RefersTo (s : Snapshot) (id next : String) : Prop :=
  ∃ entries, s.get? id = some (.obj entries) ∧ Entries.get? entries "__ref" = some (.str next)

/-- **A path of references** from a link to a record: distinct ids from the target of the link on, each
    referring to the next, and the last one holding the record, which is no reference itself. -/
structure ReferencePath (s : Snapshot) (link : Link) (path : List String) (record : Entries) : Prop where
  begins : path.head? = link.target?
  distinct : path.Nodup
  refers : path.IsChain s.RefersTo
  ends : ∃ last, path.getLast? = some last ∧ s.get? last = some (.obj record)
  final : isReference (.obj record) = false

/-! ## Paths, id by id -/

/-- A record that is no reference is the end of a path of one id. -/
theorem ReferencePath.single (target : link.target? = some id) (stored : s.get? id = some (.obj record))
    (final : isReference (.obj record) = false) : s.ReferencePath link [id] record where
  begins := target.symm
  distinct := List.nodup_singleton id
  refers := List.isChain_singleton id
  ends := ⟨id, rfl, stored⟩
  final := final

/-- A path from what an id holds becomes one from the id, unless it comes through the id again. -/
theorem ReferencePath.cons (target : link.target? = some id) (stored : s.get? id = some (.obj entries))
    (p : s.ReferencePath (.object entries) path record) (fresh : id ∉ path) :
    s.ReferencePath link (id :: path) record := by
  obtain ⟨last, hlast, hrecord⟩ := p.ends
  cases path with
  | nil => cases hlast
  | cons next rest =>
      have hnext : Entries.get? entries "__ref" = some (.str next) :=
        refTarget?_eq_some_iff.mp p.begins.symm
      exact
        { begins := target.symm
          distinct := List.nodup_cons.mpr ⟨fresh, p.distinct⟩
          refers := List.isChain_cons_cons.mpr ⟨⟨entries, stored, hnext⟩, p.refers⟩
          ends := ⟨last, by rw [List.getLast?_cons_cons]; exact hlast, hrecord⟩
          final := p.final }

/-- A path begins at an object. This is the record at its end, or it refers to the rest of the path. -/
theorem ReferencePath.cases_head (p : s.ReferencePath link path record) :
    ∃ id rest entries, path = id :: rest ∧ link.target? = some id ∧ s.get? id = some (.obj entries) ∧
      ((rest = [] ∧ entries = record) ∨
        (isReference (.obj entries) = true ∧ s.ReferencePath (.object entries) rest record)) := by
  obtain ⟨last, hlast, hrecord⟩ := p.ends
  cases path with
  | nil => cases hlast
  | cons id rest =>
      cases rest with
      | nil =>
          have hid : id = last := Option.some.inj hlast
          exact ⟨id, [], record, rfl, p.begins.symm, hid ▸ hrecord, Or.inl ⟨rfl, rfl⟩⟩
      | cons next rest =>
          obtain ⟨⟨entries, stored, hnext⟩, hrefers⟩ := List.isChain_cons_cons.mp p.refers
          have htarget : refTarget? entries = some next := refTarget?_eq_some_iff.mpr hnext
          rw [List.getLast?_cons_cons] at hlast
          refine ⟨id, next :: rest, entries, rfl, p.begins.symm, stored, Or.inr ⟨?_, ?_⟩⟩
          · rw [isReference_obj, htarget]
            rfl
          · exact ⟨htarget.symm, (List.nodup_cons.mp p.distinct).2, hrefers, ⟨last, hlast, hrecord⟩, p.final⟩

/-! ## The walk -/

/-- **One look-up**: a new id that holds an object. Either this is no reference, and the walk is over, or the
    walk goes on from it. -/
theorem resolveWithin?_succ_eq_some_iff :
    s.resolveWithin? (steps + 1) seen link = some record ↔
      ∃ id entries, link.target? = some id ∧ id ∉ seen ∧ s.get? id = some (.obj entries) ∧
        ((isReference (.obj entries) = false ∧ entries = record) ∨
          (isReference (.obj entries) = true ∧
            s.resolveWithin? steps (id :: seen) (.object entries) = some record)) := by
  rw [resolveWithin?]
  constructor
  · intro h
    obtain ⟨id, htarget, h⟩ := Option.bind_eq_some_iff.mp h
    by_cases hseen : seen.contains id = true
    · rw [if_pos hseen] at h
      cases h
    · rw [if_neg hseen] at h
      obtain ⟨entries, hrecord, h⟩ := Option.bind_eq_some_iff.mp h
      refine ⟨id, entries, htarget, fun hmem => hseen (List.contains_iff_mem.mpr hmem),
        record?_eq_some_iff.mp hrecord, ?_⟩
      rw [isReference_obj]
      cases href : (refTarget? entries).isSome with
      | true =>
          rw [href, if_pos rfl] at h
          exact Or.inr ⟨rfl, h⟩
      | false =>
          rw [href, if_neg Bool.false_ne_true] at h
          exact Or.inl ⟨rfl, Option.some.inj h⟩
  · rintro ⟨id, entries, htarget, hseen, stored, h⟩
    have hnot : ¬ seen.contains id = true := fun hmem => hseen (List.contains_iff_mem.mp hmem)
    show (link.target?.bind fun target => if seen.contains target = true then none
      else (s.record? target).bind fun record => _) = _
    rw [htarget, Option.bind_some, if_neg hnot, record?_eq_some_iff.mpr stored, Option.bind_some]
    rcases h with ⟨href, rfl⟩ | ⟨href, hrest⟩
    · rw [isReference_obj] at href
      rw [href, if_neg Bool.false_ne_true]
    · rw [isReference_obj] at href
      rw [href, if_pos rfl]
      exact hrest

/-- **A whole walk** finds the ends of the paths that are no longer than its look-ups and keep away from the
    ids seen. -/
theorem resolveWithin?_eq_some_iff :
    s.resolveWithin? steps seen link = some record ↔
      ∃ path, s.ReferencePath link path record ∧ path.length ≤ steps ∧ ∀ id ∈ path, id ∉ seen := by
  induction steps generalizing seen link with
  | zero =>
      constructor
      · intro h
        cases h
      · rintro ⟨path, p, hlength, _⟩
        obtain ⟨id, rest, _, rfl, _⟩ := p.cases_head
        cases hlength
  | succ steps ih =>
      rw [resolveWithin?_succ_eq_some_iff]
      constructor
      · rintro ⟨id, entries, htarget, hseen, stored, ⟨hfinal, rfl⟩ | ⟨_, hrest⟩⟩
        · refine ⟨[id], .single htarget stored hfinal, Nat.succ_le_succ (Nat.zero_le steps), ?_⟩
          intro a ha
          rw [List.mem_singleton.mp ha]
          exact hseen
        · obtain ⟨path, p, hlength, hfresh⟩ := ih.mp hrest
          -- The rest of the path keeps away from `id` because the walk has put it to the ids seen.
          have hid : id ∉ path := fun hmem => hfresh id hmem List.mem_cons_self
          refine ⟨id :: path, p.cons htarget stored hid, Nat.succ_le_succ hlength, ?_⟩
          intro a ha
          rcases List.mem_cons.mp ha with rfl | hpath
          · exact hseen
          · exact fun hmem => hfresh a hpath (List.mem_cons_of_mem _ hmem)
      · rintro ⟨path, p, hlength, hfresh⟩
        obtain ⟨id, rest, entries, rfl, htarget, stored, ⟨rfl, rfl⟩ | ⟨href, hrest⟩⟩ := p.cases_head
        · exact ⟨id, entries, htarget, hfresh id List.mem_cons_self, stored, Or.inl ⟨p.final, rfl⟩⟩
        · refine ⟨id, entries, htarget, hfresh id List.mem_cons_self, stored, Or.inr ⟨href, ?_⟩⟩
          refine ih.mpr ⟨rest, hrest, Nat.le_of_succ_le_succ hlength, ?_⟩
          intro a ha hmem
          rcases List.mem_cons.mp hmem with rfl | hold
          · exact (List.nodup_cons.mp p.distinct).1 ha
          · exact hfresh a (List.mem_cons_of_mem _ ha) hold

/-! ## The end of a chain -/

/-- **A chain is resolved exactly to the end of its path.** Take a snapshot, or none, which is like an empty
    one, a cache id or an object to start from, and any number of hops. A record is found if and only if a path
    of references leads to it whose ids are no more than the hops, or one where these are fewer. Where there is
    no such path (the start refers to nothing, an id on the way is missing or holds no object, the references
    run into a circle, or the path is too long) nothing is found. -/
theorem resolve?_iff_referencePath (cache : Option Snapshot) (link : Link) (maxHops : Int) :
    (∀ record, (cache.getD .empty).resolve? link maxHops = some record ↔
      ∃ path, (cache.getD .empty).ReferencePath link path record ∧ (path.length : Int) ≤ max maxHops 1) ∧
    ((cache.getD .empty).resolve? link maxHops = none ↔
      ∀ path record, (cache.getD .empty).ReferencePath link path record →
        max maxHops 1 < (path.length : Int)) := by
  have hfound : ∀ record, (cache.getD .empty).resolve? link maxHops = some record ↔
      ∃ path, (cache.getD .empty).ReferencePath link path record ∧
        (path.length : Int) ≤ max maxHops 1 := by
    intro record
    rw [resolve?, resolveWithin?_eq_some_iff]
    constructor
    · rintro ⟨path, p, hlength, _⟩
      exact ⟨path, p, by omega⟩
    · rintro ⟨path, p, hlength⟩
      exact ⟨path, p, by omega, fun _ _ => List.not_mem_nil⟩
  refine ⟨hfound, ?_⟩
  rw [Option.eq_none_iff_forall_ne_some]
  constructor
  · intro hnone path record p
    by_contra hlength
    exact hnone record ((hfound record).mpr ⟨path, p, by omega⟩)
  · intro hlong record hsome
    obtain ⟨path, p, hlength⟩ := (hfound record).mp hsome
    have := hlong path record p
    omega

end Snapshot

end GraphQLCache
