import GraphQLCache.Proofs.Keyed
import GraphQLCache.Proofs.References

/-!
# `Proofs.HopBudget` — the two brakes of a walk along references

A walk along references is braked by the ids that it has seen and by a number of look-ups. Neither changes what
is found. `Snapshot.resolveFreely?` is the walk without the first brake, and it is the same function
(`resolveWithin?_eq_resolveFreely?`): a walk that comes through an id twice could have left out the part in
between, so whatever it finds stands at the end of a shorter path. And a path of distinct ids has no more ids
than the snapshot has entries, so that many look-ups find all that there is to be found.
-/

namespace GraphQLCache

namespace Snapshot

variable {s : Snapshot} {link : Link} {id : String} {entries record : Entries} {path : List String} {steps : Nat}

/-- The first record that is no reference, at most `steps` look-ups away; an id may be passed any number of
    times. -/
def resolveFreely? (s : Snapshot) : (steps : Nat) → Link → Option Entries
  | 0, _ => none
  | steps + 1, link => do
    let record ← s.follow? link
    if isReference (.obj record) then s.resolveFreely? steps (.object record) else some record

/-! ## Paths -/

/-- Whatever leads into a path has the rest of the path in front of it. -/
theorem ReferencePath.exists_suffix (p : s.ReferencePath link path record) (hmem : id ∈ path) {other : Link}
    (target : other.target? = some id) : ∃ rest, rest <:+ path ∧ s.ReferencePath other rest record := by
  obtain ⟨before, behind, rfl⟩ := List.append_of_mem hmem
  have hsuffix : id :: behind <:+ before ++ id :: behind := List.suffix_append _ _
  obtain ⟨last, hlast, stored⟩ := p.ends
  refine ⟨id :: behind, hsuffix, ?_⟩
  exact
    { begins := target.symm
      distinct := p.distinct.sublist hsuffix.sublist
      refers := p.refers.suffix hsuffix
      ends := ⟨last, by rwa [List.getLast?_append_cons] at hlast, stored⟩
      final := p.final }

/-- A path has its ids among those of the snapshot. -/
theorem ReferencePath.subset_keys (p : s.ReferencePath link path record) : path ⊆ s.keys := by
  intro id hmem
  have hlink : (Link.key id).target? = some id := rfl
  obtain ⟨rest, -, q⟩ := p.exists_suffix hmem hlink
  obtain ⟨id', _, entries, -, htarget, stored, -⟩ := q.cases_head
  have hid : id = id' := Option.some.inj htarget
  have hentry : (id', Json.obj entries) ∈ s.entries := Keyed.get?_eq_some_iff.mp stored
  rw [hid]
  exact List.mem_map.mpr ⟨_, hentry, rfl⟩

/-- **A path is no longer than the snapshot**, because its ids are distinct. -/
theorem ReferencePath.length_le (p : s.ReferencePath link path record) : path.length ≤ s.entries.length := by
  have hkeys : path.length ≤ s.keys.length := p.distinct.length_le_of_subset p.subset_keys
  simpa [Keyed.keys] using hkeys

/-! ## The walk without the ids seen -/

theorem follow?_eq_some_iff :
    s.follow? link = some entries ↔ ∃ id, link.target? = some id ∧ s.get? id = some (.obj entries) := by
  unfold follow?
  simp only [Option.bind_eq_some_iff, record?_eq_some_iff]

/-- **One look-up**: an object, which is no reference, or from which the walk goes on. -/
theorem resolveFreely?_succ_eq_some_iff :
    s.resolveFreely? (steps + 1) link = some record ↔
      ∃ entries, s.follow? link = some entries ∧
        ((isReference (.obj entries) = false ∧ entries = record) ∨
          (isReference (.obj entries) = true ∧ s.resolveFreely? steps (.object entries) = some record)) := by
  rw [resolveFreely?]
  simp only [Option.bind_eq_bind, Option.bind_eq_some_iff]
  refine exists_congr fun entries => and_congr_right fun _ => ?_
  cases isReference (.obj entries) with
  | true => simp
  | false => simp

/-- **A walk without the ids seen** finds the ends of the paths that are no longer than its look-ups. The
    induction is on the look-ups. -/
theorem resolveFreely?_eq_some_iff :
    s.resolveFreely? steps link = some record ↔
      ∃ path, s.ReferencePath link path record ∧ path.length ≤ steps := by
  induction steps generalizing link with
  | zero =>
      constructor
      · intro h
        cases h
      · rintro ⟨path, p, hlength⟩
        obtain ⟨id, rest, _, rfl, _⟩ := p.cases_head
        cases hlength
  | succ steps ih =>
      rw [resolveFreely?_succ_eq_some_iff]
      constructor
      · rintro ⟨entries, hfollow, hcases⟩
        obtain ⟨id, htarget, stored⟩ := follow?_eq_some_iff.mp hfollow
        rcases hcases with ⟨hfinal, rfl⟩ | ⟨_, hrest⟩
        · exact ⟨[id], .single htarget stored hfinal, Nat.succ_le_succ (Nat.zero_le steps)⟩
        · obtain ⟨path, p, hlength⟩ := ih.mp hrest
          by_cases hmem : id ∈ path
          · -- The walk has come to `id` again, so what it went in between is left out.
            obtain ⟨rest, hsuffix, q⟩ := p.exists_suffix hmem htarget
            have hshorter : rest.length ≤ path.length := hsuffix.length_le
            exact ⟨rest, q, by omega⟩
          · exact ⟨id :: path, p.cons htarget stored hmem, Nat.succ_le_succ hlength⟩
      · rintro ⟨path, p, hlength⟩
        obtain ⟨id, rest, entries, rfl, htarget, stored, hcases⟩ := p.cases_head
        refine ⟨entries, follow?_eq_some_iff.mpr ⟨id, htarget, stored⟩, ?_⟩
        rcases hcases with ⟨-, rfl⟩ | ⟨href, q⟩
        · exact Or.inl ⟨p.final, rfl⟩
        · exact Or.inr ⟨href, ih.mpr ⟨rest, q, Nat.le_of_succ_le_succ hlength⟩⟩

/-- **The ids seen change nothing**: with and without them the walk finds the ends of the same paths. -/
theorem resolveWithin?_eq_resolveFreely? (s : Snapshot) (steps : Nat) (link : Link) :
    s.resolveWithin? steps [] link = s.resolveFreely? steps link := by
  apply Option.ext
  intro record
  rw [resolveWithin?_eq_some_iff, resolveFreely?_eq_some_iff]
  simp

/-! ## The number of look-ups -/

/-- Once found, a record is found with any larger number of look-ups. -/
theorem resolveFreely?_of_le {more : Nat} (hle : steps ≤ more) (hfound : s.resolveFreely? steps link = some record) :
    s.resolveFreely? more link = some record := by
  obtain ⟨path, p, hlength⟩ := resolveFreely?_eq_some_iff.mp hfound
  exact resolveFreely?_eq_some_iff.mpr ⟨path, p, hlength.trans hle⟩

/-- With a look-up for every entry the walk finds the end of the path, however long this is. -/
theorem resolveFreely?_of_enough (henough : s.entries.length ≤ steps) :
    s.resolveFreely? steps link = some record ↔ ∃ path, s.ReferencePath link path record := by
  rw [resolveFreely?_eq_some_iff]
  constructor
  · rintro ⟨path, p, -⟩
    exact ⟨path, p⟩
  · rintro ⟨path, p⟩
    exact ⟨path, p, p.length_le.trans henough⟩

/-- **Neither brake changes what is found.** Take a snapshot, or none, which is like an empty one, and a cache id
    or an object to start from. With any number of hops the walk finds what the walk without the ids seen
    finds, which makes as many look-ups, and at least one. A record that is found is found with every larger
    number of hops. And from the number of entries on all numbers of hops find the same. -/
theorem walk_needs_no_guard_and_saturates (cache : Option Snapshot) (link : Link) :
    (∀ maxHops : Int, (cache.getD .empty).resolve? link maxHops =
      (cache.getD .empty).resolveFreely? (max maxHops 1).toNat link) ∧
    (∀ maxHops more : Int, maxHops ≤ more → ∀ record,
      (cache.getD .empty).resolve? link maxHops = some record →
      (cache.getD .empty).resolve? link more = some record) ∧
    ∀ maxHops : Int, ((cache.getD .empty).entries.length : Int) ≤ maxHops →
      (cache.getD .empty).resolve? link maxHops =
        (cache.getD .empty).resolve? link (cache.getD .empty).entries.length := by
  generalize cache.getD .empty = s
  have hguard : ∀ maxHops : Int, s.resolve? link maxHops = s.resolveFreely? (max maxHops 1).toNat link :=
    fun maxHops => resolveWithin?_eq_resolveFreely? s _ link
  refine ⟨hguard, ?grows, ?saturates⟩
  case grows =>
    intro maxHops more hle record hfound
    rw [hguard] at hfound ⊢
    have hsteps : (max maxHops 1).toNat ≤ (max more 1).toNat := by omega
    exact resolveFreely?_of_le hsteps hfound
  case saturates =>
    intro maxHops hle
    have henough : s.entries.length ≤ (max maxHops 1).toNat := by omega
    have hjust : s.entries.length ≤ (max (s.entries.length : Int) 1).toNat := by omega
    rw [hguard, hguard]
    apply Option.ext
    intro record
    rw [resolveFreely?_of_enough henough, resolveFreely?_of_enough hjust]

/-- A reference to the next sign, one to a record, two that lead in a circle and one that leads nowhere. -/
def signposts : Snapshot :=
  .ofPairs [("sign", .obj [("__ref", .str "next")]), ("next", .obj [("__ref", .str "goal")]),
    ("goal", .obj [("id", .str "goal")]), ("east", .obj [("__ref", .str "west")]),
    ("west", .obj [("__ref", .str "east")]), ("lost", .obj [("__ref", .str "nowhere")])]

/-- The goal is three look-ups away and found from there on; from the circle no number of hops leads out. -/
theorem signposts_need_no_guard_and_saturate :
    signposts.resolve? (.key "sign") 2 = none ∧
    signposts.resolve? (.key "sign") 3 = some [("id", .str "goal")] ∧
    signposts.resolve? (.key "sign") 1000 = some [("id", .str "goal")] ∧
    signposts.resolve? (.key "east") 5 = signposts.resolveFreely? 5 (.key "east") ∧
    (signposts.entries.length : Int) ≤ 1000 ∧
    signposts.resolve? (.key "east") 1000 = signposts.resolve? (.key "east") 6 ∧
    signposts.resolve? (.key "east") 6 = none := by
  have hfound : signposts.resolve? (.key "sign") 3 = some [("id", .str "goal")] := rfl
  have hlength : (signposts.entries.length : Int) ≤ 1000 := by decide
  obtain ⟨-, hgrows, -⟩ := walk_needs_no_guard_and_saturates (some signposts) (.key "sign")
  obtain ⟨hguard, -, hsaturates⟩ := walk_needs_no_guard_and_saturates (some signposts) (.key "east")
  exact ⟨rfl, hfound, hgrows 3 1000 (by decide) _ hfound, hguard 5, hlength, hsaturates 1000 hlength, rfl⟩

end Snapshot

end GraphQLCache
