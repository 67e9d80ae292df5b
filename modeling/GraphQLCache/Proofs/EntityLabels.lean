import GraphQLCache.Cache.Entity
import GraphQLCache.Proofs.UnknownKeys

/-!
# `Proofs.EntityLabels` — what the label of an entry depends on

A label shows one scalar of a priority field or, where no priority field holds a scalar, the first two other scalars
under keys that are not excluded. Everything else in a record is silent (`isSilent`): null, lists and objects under
whatever key, and whatever stands under an excluded key.

The two halves of a label are taken apart (`entryLabel_congr`). The first depends on what the priority fields hold,
in whatever order they stand (`priorityText?_congr`), the second on the first two entries that can be shown
(`take_scalarTexts`). Silent entries reach neither of them.
-/

namespace GraphQLCache

/-- Whether a value is a scalar: not null, no list and no object. -/
def Json.isScalar : Json → Bool
  | .null | .arr _ | .obj _ => false
  | .bool _ | .int _ | .float _ | .str _ => true

/-- An entry that no label shows: it holds no scalar, or its key is excluded. -/
def isSilent (e : String × Json) : Bool := !e.2.isScalar || labelExcluded.contains e.1

/-- The entries that a label can show, in order. -/
def labelEntries (record : Entries) : Entries := record.filter fun e => !isSilent e

/-- Whether a priority field holds a scalar. -/
def hasPriority (record : Entries) : Bool :=
  labelPriority.any fun field => (Entries.get? record field).any Json.isScalar

/-- The label that shows these entries: the bare id if there are none. -/
def labelShowing (id : String) (shown : Entries) : String :=
  match shown.filterMap fun e => labelText? e.2 with
  | [] => id
  | texts => ", ".intercalate texts ++ " (" ++ id ++ ")"

variable {a b record : Entries} {id field : String} {v : Json} {keep : String × Json → Bool}

/-- **Scalars are what has a text in a label.** -/
theorem isSome_labelText? (v : Json) : (labelText? v).isSome = v.isScalar := by
  cases v with
  | float x =>
      unfold labelText?
      dsimp only
      split
      · split <;> rfl
      · rfl
  | _ => rfl

theorem labelText?_eq_none (h : v.isScalar = false) : labelText? v = none := by
  rw [← Option.not_isSome_iff_eq_none, isSome_labelText?, h]
  exact Bool.false_ne_true

/-! ## Deleting entries -/

namespace Entries

variable {entries : Entries} {key : String} {value : Json}

/-- **Under distinct keys** a key finds what its entry holds. -/
theorem get?_eq_some_iff (distinct : (keys entries).Nodup) :
    get? entries key = some value ↔ (key, value) ∈ entries :=
  Keyed.get?_eq_some_iff (k := ⟨entries, distinct⟩)

/-- A key finds what it found before, if this was not deleted. -/
theorem get?_filter (distinct : (keys entries).Nodup) (keep : String × Json → Bool) (key : String) :
    get? (entries.filter keep) key = (get? entries key).filter fun value => keep (key, value) := by
  have distinct' : (keys (entries.filter keep)).Nodup := distinct.sublist (List.filter_sublist.map Prod.fst)
  refine Option.ext fun value => ?_
  rw [get?_eq_some_iff distinct', Option.filter_eq_some_iff, get?_eq_some_iff distinct, List.mem_filter]

end Entries

/-! ## The two halves of a label -/

/-- **A label is settled** by the text of the priority fields and, without one, by the first two other texts. -/
theorem entryLabel_congr (hpriority : priorityText? a = priorityText? b)
    (hscalars : priorityText? b = none → (scalarTexts a).take 2 = (scalarTexts b).take 2) :
    entryLabel id a = entryLabel id b := by
  unfold entryLabel
  rw [hpriority]
  cases htext : priorityText? b with
  | some text => rfl
  | none => rw [hscalars htext]

theorem isSome_priorityText? (record : Entries) : (priorityText? record).isSome = hasPriority record := by
  have hfield : ∀ field, ((Entries.get? record field).bind labelText?).isSome =
      (Entries.get? record field).any Json.isScalar := by
    intro field
    cases Entries.get? record field with
    | none => rfl
    | some v => exact isSome_labelText? v
  unfold priorityText? hasPriority
  rw [List.isSome_findSome?]
  simp only [hfield]

/-- **What the priority fields show** depends on what each of them shows. -/
theorem priorityText?_congr
    (h : ∀ field ∈ labelPriority,
      (Entries.get? a field).bind labelText? = (Entries.get? b field).bind labelText?) :
    priorityText? a = priorityText? b := by
  unfold priorityText?
  revert h
  induction labelPriority with
  | nil =>
      intro _
      rfl
  | cons field rest ih =>
      intro h
      rw [List.findSome?_cons, List.findSome?_cons, h field List.mem_cons_self,
        ih fun field' hmem => h field' (List.mem_cons_of_mem _ hmem)]

/-- The texts of a record are those of the entries that a label can show. -/
theorem scalarTexts_eq (record : Entries) :
    scalarTexts record = (labelEntries record).filterMap fun e => labelText? e.2 := by
  unfold scalarTexts labelEntries
  rw [List.filterMap_filter, List.filterMap_filter]
  apply List.filterMap_congr
  intro e _
  cases hscalar : e.2.isScalar with
  | true => simp [isSilent, hscalar]
  | false => simp [labelText?_eq_none hscalar]

/-- Where each item gives a result, the first results are those of the first items. -/
theorem take_filterMap {α β : Type} {f : α → Option β} {items : List α} (h : ∀ item ∈ items, (f item).isSome = true)
    (n : Nat) : (items.filterMap f).take n = (items.take n).filterMap f := by
  induction items generalizing n with
  | nil => simp
  | cons item rest ih =>
      obtain ⟨result, hresult⟩ := Option.isSome_iff_exists.mp (h item List.mem_cons_self)
      cases n with
      | zero => simp
      | succ n =>
          have hrest := ih (fun item' hmem => h item' (List.mem_cons_of_mem _ hmem)) n
          rw [List.filterMap_cons_some hresult, List.take_succ_cons, List.take_succ_cons,
            List.filterMap_cons_some hresult, hrest]

/-- **The first texts are those of the first entries** that a label can show. -/
theorem take_scalarTexts (record : Entries) (n : Nat) :
    (scalarTexts record).take n = ((labelEntries record).take n).filterMap fun e => labelText? e.2 := by
  rw [scalarTexts_eq]
  apply take_filterMap
  intro e he
  have hshown : isSilent e = false := by simpa using (List.mem_filter.mp he).2
  rw [isSome_labelText?]
  rw [isSilent, Bool.or_eq_false_iff] at hshown
  simpa using hshown.1

/-- Without a scalar in a priority field a label shows the first two entries that it can. -/
theorem entryLabel_of_not_hasPriority (h : hasPriority record = false) :
    entryLabel id record = labelShowing id ((labelEntries record).take 2) := by
  have hnone : priorityText? record = none := by
    rw [← Option.not_isSome_iff_eq_none, isSome_priorityText?, h]
    exact Bool.false_ne_true
  unfold entryLabel labelShowing
  cases htexts : ((labelEntries record).take 2).filterMap fun e => labelText? e.2 with
  | nil => simp [hnone, take_scalarTexts, htexts]
  | cons text rest => simp [hnone, take_scalarTexts, htexts]

/-! ## What a label does not depend on -/

/-- **Only the priority fields count** where one of them holds a scalar. -/
theorem entryLabel_of_priority (h : hasPriority b = true)
    (hfields : ∀ field ∈ labelPriority, Entries.get? a field = Entries.get? b field) :
    entryLabel id a = entryLabel id b := by
  have htext : priorityText? a = priorityText? b := by
    apply priorityText?_congr
    intro field hfield
    rw [hfields field hfield]
  apply entryLabel_congr htext
  intro hnone
  rw [← isSome_priorityText?, hnone] at h
  cases h

theorem not_excluded_of_priority : ∀ field ∈ labelPriority, labelExcluded.contains field = false := by decide

/-- **A priority field shows the same** when silent entries are deleted, for its own entry is kept or has no text. -/
theorem get?_filter_bind_labelText? (distinct : (Entries.keys record).Nodup)
    (silent : ∀ e ∈ record, keep e = false → isSilent e = true) (hfield : field ∈ labelPriority) :
    (Entries.get? (record.filter keep) field).bind labelText? = (Entries.get? record field).bind labelText? := by
  rw [Entries.get?_filter distinct]
  cases hget : Entries.get? record field with
  | none => rfl
  | some v =>
      cases hkeep : keep (field, v) with
      | true => simp [Option.filter, hkeep]
      | false =>
          -- No priority field is excluded, so its entry can only be silent for what it holds.
          have hsilent : isSilent (field, v) = true := silent _ ((Entries.get?_eq_some_iff distinct).mp hget) hkeep
          rw [isSilent, not_excluded_of_priority field hfield, Bool.or_false] at hsilent
          have hscalar : v.isScalar = false := by simpa using hsilent
          simp [Option.filter, hkeep, labelText?_eq_none hscalar]

/-- What a label can show is what it can show when silent entries are deleted. -/
theorem labelEntries_filter (silent : ∀ e ∈ record, keep e = false → isSilent e = true) :
    labelEntries (record.filter keep) = labelEntries record := by
  unfold labelEntries
  rw [List.filter_filter]
  apply List.filter_congr
  intro e he
  cases hkeep : keep e with
  | true => simp
  | false => simp [silent e he hkeep]

/-- **Silent entries can be deleted.** -/
theorem entryLabel_filter (distinct : (Entries.keys record).Nodup)
    (silent : ∀ e ∈ record, keep e = false → isSilent e = true) :
    entryLabel id (record.filter keep) = entryLabel id record := by
  apply entryLabel_congr
  · apply priorityText?_congr
    intro field hfield
    exact get?_filter_bind_labelText? distinct silent hfield
  · intro _
    rw [take_scalarTexts, take_scalarTexts, labelEntries_filter silent]

/-- **A label depends on the scalars that it shows alone**, for every cache id and every record, in which each key
    stands once. Any entries may be deleted that hold null, a list or an object, or whose key is excluded. If a
    priority field holds a scalar, the entries may also be reordered, and changed wherever this leaves what the
    priority fields hold. Otherwise the label shows the first two scalars under keys that are not excluded, and
    nothing else. -/
theorem label_depends_on_scalars_alone (id : String) (record : Entries) (distinct : (Entries.keys record).Nodup) :
    (∀ keep : String × Json → Bool, (∀ e ∈ record, keep e = false → isSilent e = true) →
      entryLabel id (record.filter keep) = entryLabel id record) ∧
    (hasPriority record = true →
      (∀ other, other.Perm record → entryLabel id other = entryLabel id record) ∧
      ∀ other, (∀ field ∈ labelPriority, Entries.get? other field = Entries.get? record field) →
        entryLabel id other = entryLabel id record) ∧
    (hasPriority record = false →
      entryLabel id record = labelShowing id ((labelEntries record).take 2)) := by
  refine ⟨?deleted, ?priority, entryLabel_of_not_hasPriority⟩
  case deleted =>
    intro keep silent
    exact entryLabel_filter distinct silent
  case priority =>
    intro h
    constructor
    · intro other hperm
      apply entryLabel_of_priority h
      intro field _
      exact (Entries.get?_perm distinct hperm.symm field).symm
    · intro other hfields
      exact entryLabel_of_priority h hfields

/-- An order without a name: nulls, lists and excluded keys, and more scalars than a label shows. -/
def orderRecord : Entries :=
  [("__typename", .str "Order"), ("id", .str "9"), ("name", .null), ("lines", .arr [.int 1]), ("total", .int (-12)),
    ("paid", .bool false), ("note", .str "third")]

/-- The label of the order, the same without its silent entries, and that of an order with a title. -/
theorem order_label_depends_on_scalars :
    (Entries.keys orderRecord).Nodup ∧ (Entries.keys (("title", .str "Tea") :: orderRecord)).Nodup ∧
    hasPriority orderRecord = false ∧
    entryLabel "Order:9" orderRecord = labelShowing "Order:9" [("total", .int (-12)), ("paid", .bool false)] ∧
    entryLabel "Order:9" orderRecord = "-12, false (Order:9)" ∧
    entryLabel "Order:9" [("total", .int (-12)), ("paid", .bool false), ("note", .str "third")] =
      entryLabel "Order:9" orderRecord ∧
    entryLabel "Order:9" [("note", .null), ("name", .null), ("title", .str "Tea")] =
      entryLabel "Order:9" (("title", .str "Tea") :: orderRecord) := by
  have hdistinct : (Entries.keys orderRecord).Nodup := by decide
  have hdistinct' : (Entries.keys (("title", .str "Tea") :: orderRecord)).Nodup := by decide
  obtain ⟨hdeleted, -, hshown⟩ := label_depends_on_scalars_alone "Order:9" orderRecord hdistinct
  obtain ⟨-, hpriority, -⟩ :=
    label_depends_on_scalars_alone "Order:9" (("title", .str "Tea") :: orderRecord) hdistinct'
  refine ⟨hdistinct, hdistinct', by decide, hshown (by decide), by decide, ?_, ?_⟩
  · exact hdeleted (fun e => !isSilent e) (by decide)
  · apply (hpriority (by decide)).2
    simp [labelPriority, orderRecord, Entries.get?_cons]

end GraphQLCache
