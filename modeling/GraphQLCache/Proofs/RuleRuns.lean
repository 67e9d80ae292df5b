import GraphQLCache.Sdl.Rules
import Mathlib.Data.List.Nodup

/-!
# `Proofs.RuleRuns` — what a document without rule faults keeps to

All rules read the events of a document in step, but none looks at another's memory, so the rules find
nothing exactly if each of them finds nothing when it reads alone (`run_eq_nil_iff`).

Most rules that ask for uniqueness are of one shape: they collect keys from the events and report a key that
they know already. Such a rule is a *collector*, and one that reports nothing has seen distinct keys
(`Rule.Collector.nodup_of_nil`). The keys of types and of fields follow from it, and with the rule on
extensions the shape of an accepted document, `Orderly`.
-/

namespace GraphQLCache.Sdl

/-! ## One rule alone -/

/-- The faults that a rule reports when it reads events alone, from a state on. -/
def Rule.faultsFrom (r : Rule) (state : r.State) : List Event → List RuleFault
  | [] => []
  | e :: rest => (r.step state e).2 ++ r.faultsFrom (r.step state e).1 rest

/-- One step of all rules is a step of each of them. -/
theorem RunningRule.stepAll_eq (e : Event) (rules : List RunningRule) :
    RunningRule.stepAll e rules =
      (rules.map fun r => ⟨r.rule, (r.rule.step r.state e).1⟩,
        rules.flatMap fun r => (r.rule.step r.state e).2) := by
  induction rules with
  | nil => rfl
  | cons r rest ih => rw [stepAll, ih]; rfl

/-- **Rules do not disturb each other**: together they report nothing exactly if each reports nothing. -/
theorem RunningRule.run_eq_nil_iff (rules : List RunningRule) (events : List Event) :
    RunningRule.run rules events = [] ↔ ∀ r ∈ rules, r.rule.faultsFrom r.state events = [] := by
  induction events generalizing rules with
  | nil =>
      constructor
      · intro _ r _
        rfl
      · intro _
        rfl
  | cons e rest ih =>
      show (RunningRule.stepAll e rules).2 ++ RunningRule.run (RunningRule.stepAll e rules).1 rest = [] ↔ _
      rw [stepAll_eq, List.append_eq_nil_iff, ih, List.flatMap_eq_nil_iff]
      constructor
      · rintro ⟨hnow, hlater⟩ r hr
        have hrest := hlater _ (List.mem_map.mpr ⟨r, hr, rfl⟩)
        exact List.append_eq_nil_iff.mpr ⟨hnow r hr, hrest⟩
      · intro h
        refine ⟨fun r hr => (List.append_eq_nil_iff.mp (h r hr)).1, ?_⟩
        intro r' hr'
        obtain ⟨r, hr, rfl⟩ := List.mem_map.mp hr'
        exact (List.append_eq_nil_iff.mp (h r hr)).2

theorem ruleFaults_eq_nil_iff (document : Document) :
    ruleFaults document = [] ↔
      ∀ r ∈ rules document, r.faultsFrom r.start (Event.ofDocument document) = [] := by
  unfold ruleFaults
  rw [RunningRule.run_eq_nil_iff, List.forall_mem_map]

/-- A rule without memory reports nothing only if it reports nothing at each event. -/
theorem Rule.check_eq_nil_of_stateless {check : Event → List RuleFault} {state : Unit} {events : List Event}
    (h : (Rule.stateless check).faultsFrom state events = []) : ∀ e ∈ events, check e = [] := by
  induction events with
  | nil =>
      intro e he
      cases he
  | cons first rest ih =>
      obtain ⟨hfirst, hrest⟩ := List.append_eq_nil_iff.mp h
      intro e he
      rcases List.mem_cons.mp he with rfl | hmem
      · exact hfirst
      · exact ih hrest e hmem

/-! ## Collectors -/

section Collectors

variable {α : Type} [DecidableEq α]

/-- What is known after a list: what was known before, and the list. -/
theorem mem_repeats_known {known items : List α} {a : α} :
    a ∈ (repeats known items).1 ↔ a ∈ known ∨ a ∈ items := by
  induction items generalizing known with
  | nil => simp [repeats]
  | cons b rest ih =>
      rw [repeats]
      split
      next hb =>
        show a ∈ (repeats known rest).1 ↔ _
        rw [ih, List.mem_cons]
        constructor
        · exact fun h => h.imp id Or.inr
        · rintro (h | rfl | h)
          · exact Or.inl h
          · exact Or.inl hb
          · exact Or.inr h
      next =>
        rw [ih, List.mem_cons, List.mem_cons]
        tauto

/-- Nothing is a repetition exactly if the list is duplicate-free and all new. -/
theorem repeats_again_eq_nil_iff {known items : List α} :
    (repeats known items).2 = [] ↔ items.Nodup ∧ ∀ a ∈ items, a ∉ known := by
  induction items generalizing known with
  | nil => simp [repeats]
  | cons b rest ih =>
      rw [repeats]
      split
      next hb =>
        show b :: (repeats known rest).2 = [] ↔ _
        constructor
        · intro h
          cases h
        · rintro ⟨_, hnew⟩
          exact absurd hb (hnew b List.mem_cons_self)
      next hb =>
        rw [ih, List.nodup_cons]
        constructor
        · rintro ⟨hnodup, hnew⟩
          refine ⟨⟨fun hmem => hnew b hmem List.mem_cons_self, hnodup⟩, ?_⟩
          intro a ha
          rcases List.mem_cons.mp ha with rfl | hmem
          · exact hb
          · exact fun hknown => hnew a hmem (List.mem_cons_of_mem _ hknown)
        · rintro ⟨⟨hnot, hnodup⟩, hnew⟩
          refine ⟨hnodup, ?_⟩
          intro a ha hmem
          rcases List.mem_cons.mp hmem with rfl | hknown
          · exact hnot ha
          · exact hnew a (List.mem_cons_of_mem _ ha) hknown

/-- **A collector** takes keys from each event and reports those that it knows already. Its memory is a list
    of keys. -/
structure Rule.Collector (step : List α → Event → List α × List RuleFault) (keys : Event → List α) : Prop where
  known : ∀ known e, (step known e).1 = (repeats known (keys e)).1
  reports : ∀ known e, (step known e).2 = [] → (repeats known (keys e)).2 = []

/-- **A collector that reports nothing has seen distinct keys**, none of them known before. -/
theorem Rule.Collector.nodup_of_nil {step : List α → Event → List α × List RuleFault}
    {keys : Event → List α} (c : Rule.Collector step keys) {known : List α} {events : List Event}
    (h : Rule.faultsFrom ⟨List α, [], step⟩ known events = []) :
    (events.flatMap keys).Nodup ∧ ∀ a ∈ events.flatMap keys, a ∉ known := by
  induction events generalizing known with
  | nil => exact ⟨List.nodup_nil, fun a ha => absurd ha List.not_mem_nil⟩
  | cons e rest ih =>
      obtain ⟨hfirst, hrest⟩ := List.append_eq_nil_iff.mp h
      obtain ⟨hnodup, hnew⟩ := repeats_again_eq_nil_iff.mp (c.reports known e hfirst)
      -- What comes later is new to a memory that holds the keys of this event.
      obtain ⟨hrestNodup, hrestNew⟩ := ih hrest
      have hknown : ∀ a, a ∈ (step known e).1 ↔ a ∈ known ∨ a ∈ keys e := by
        intro a
        rw [c.known, mem_repeats_known]
      rw [List.flatMap_cons]
      constructor
      · refine List.nodup_append.mpr ⟨hnodup, hrestNodup, ?_⟩
        rintro a ha b hb rfl
        exact hrestNew a hb ((hknown a).mpr (Or.inr ha))
      · intro a ha
        rcases List.mem_append.mp ha with hmem | hmem
        · exact hnew a hmem
        · exact fun hold => hrestNew a hmem ((hknown a).mpr (Or.inl hold))

end Collectors

/-! ## The keys of a document -/

/-- The name that a definition gives to a type. -/
def definedName : Definition → List String
  | .type d => [d.name]
  | _ => []

/-- The fields that a definition or an extension adds to a type, each with the name of the type. -/
def addedFields : Definition → List (String × String)
  | .type d => fieldNames d
  | .extendType d => fieldNames d
  | _ => []

/-- The keys that a collector takes from the beginnings of definitions. -/
def keysAt {α : Type} (keys : Definition → List α) : Event → List α
  | .definition d => keys d
  | _ => []

/-- What a collector takes from the definitions of a document is part of what it takes from all events. -/
theorem flatMap_sublist_events {α : Type} (keys : Definition → List α) (document : Document) :
    (document.flatMap keys).Sublist ((Event.ofDocument document).flatMap (keysAt keys)) := by
  induction document with
  | nil => exact List.Sublist.slnil
  | cons d rest ih =>
      show (keys d ++ rest.flatMap keys).Sublist
        ((.definition d :: Event.inside d ++ Event.ofDocument rest).flatMap (keysAt keys))
      rw [List.flatMap_append, List.flatMap_cons]
      exact (List.sublist_append_left (keys d) _).append ih

theorem mem_ofDocument {document : Document} {d : Definition} (h : d ∈ document) :
    .definition d ∈ Event.ofDocument document :=
  List.mem_flatMap.mpr ⟨d, h, List.mem_cons_self⟩

theorem collector_uniqueTypes : Rule.Collector uniqueTypes.step (keysAt definedName) := by
  constructor
  · intro known e
    cases e with
    | definition d => cases d <;> rfl
    | _ => rfl
  · intro known e h
    cases e with
    | definition d =>
        cases d with
        | type d => exact List.map_eq_nil_iff.mp h
        | _ => rfl
    | _ => rfl

theorem collector_uniqueFields : Rule.Collector uniqueFields.step (keysAt addedFields) := by
  constructor
  · intro known e
    cases e with
    | definition d => cases d <;> rfl
    | _ => rfl
  · intro known e h
    cases e with
    | definition d =>
        cases d with
        | type d => exact List.map_eq_nil_iff.mp h
        | extendType d => exact List.map_eq_nil_iff.mp h
        | _ => rfl
    | _ => rfl

/-! ## Orderly documents -/

theorem mem_declarations_iff {document : Document} {d : Declaration} :
    d ∈ declarations document ↔ .type d ∈ document := by
  unfold declarations
  rw [List.mem_filterMap]
  constructor
  · rintro ⟨definition, hmem, h⟩
    cases definition with
    | type d' => cases h; exact hmem
    | _ => cases h
  · intro hmem
    exact ⟨.type d, hmem, rfl⟩

theorem map_name_declarations (document : Document) :
    (declarations document).map (·.name) = document.flatMap definedName := by
  induction document with
  | nil => rfl
  | cons d rest ih =>
      rw [List.flatMap_cons, ← ih]
      cases d <;> rfl

/-- **An orderly document** defines each type once and each field of a type once, extensions included, and
    extends only what it defines, by more of the same kind. -/
structure Orderly (document : Document) : Prop where
  types : (document.flatMap definedName).Nodup
  fields : (document.flatMap addedFields).Nodup
  extensions : ∀ d, .extendType d ∈ document →
    ∃ first, .type first ∈ document ∧ first.name = d.name ∧ kindWord first.content = kindWord d.content

/-- **A document without rule faults is orderly.** -/
theorem orderly_of_ruleFaults {document : Document} (h : ruleFaults document = []) : Orderly document := by
  have hrules := (ruleFaults_eq_nil_iff document).mp h
  refine ⟨?types, ?fields, ?extensions⟩
  case types =>
    have hrule : uniqueTypes.faultsFrom [] (Event.ofDocument document) = [] :=
      hrules uniqueTypes (by simp [rules])
    exact (collector_uniqueTypes.nodup_of_nil hrule).1.sublist (flatMap_sublist_events _ document)
  case fields =>
    have hrule : uniqueFields.faultsFrom [] (Event.ofDocument document) = [] :=
      hrules uniqueFields (by simp [rules])
    exact (collector_uniqueFields.nodup_of_nil hrule).1.sublist (flatMap_sublist_events _ document)
  case extensions =>
    intro d hd
    -- The rule looks the definition up; it is there, and it is of the same kind, or there would be a fault.
    have hrule : (extensionsFit document).faultsFrom () (Event.ofDocument document) = [] :=
      hrules (extensionsFit document) (by simp [rules])
    have hcheck := Rule.check_eq_nil_of_stateless hrule _ (mem_ofDocument hd)
    simp only at hcheck
    split at hcheck
    next => cases hcheck
    next first hfind =>
      have hname := List.find?_some hfind
      refine ⟨first, ?_, of_decide_eq_true hname, ?_⟩
      · exact mem_declarations_iff.mp (List.mem_reverse.mp (List.mem_of_find?_eq_some hfind))
      · by_contra hkind
        rw [if_neg hkind] at hcheck
        cases hcheck

end GraphQLCache.Sdl
