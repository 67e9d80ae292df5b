import GraphQLCache.Proofs.ReaderRuns
import GraphQLCache.Sdl.Load
import Mathlib.Tactic.DefEqTransformations

/-!
# `Proofs.ReadNames` — the names that a read document gives are names

The lexer makes a word of nothing but a name, and a reader takes its names from the words before it. So
whatever a document declares, it declares under names, and names are never empty.

`Yields r P` says of a reader what holds of all its results: on a cursor whose words are names, `r` leaves
such a cursor and gives what has the property `P`. There is one rule for each way readers are put together.
Most readers only have to leave the cursor as they should, which is `Yields r fun _ => True`.
-/

namespace GraphQLCache.Sdl

/-- What succeeds in two steps succeeds in each of them. -/
theorem exists_of_bind_eq_ok {ε α β : Type} {x : Except ε α} {f : α → Except ε β} {b : β}
    (h : (x >>= f) = .ok b) : ∃ a, x = .ok a ∧ f a = .ok b := by
  cases x with
  | error e => cases h
  | ok a => exact ⟨a, rfl, h⟩

theorem exists_of_map_eq_ok {ε α β : Type} {x : Except ε α} {f : α → β} {b : β} (h : x.map f = .ok b) :
    ∃ a, x = .ok a ∧ f a = b := by
  cases x with
  | error e => cases h
  | ok a => exact ⟨a, rfl, Except.ok.inj h⟩

/-! ## Words -/

/-- Whether a lexeme, if it is a word, is a name. -/
def Lexeme.isSpelt : Lexeme → Bool
  | .name word => isName word
  | _ => true

/-- What may begin a name may also go on one. -/
theorem isNameRest_of_isNameStart {c : Char} (h : isNameStart c = true) : isNameRest c = true := by
  unfold isNameStart at h
  unfold isNameRest
  rcases Bool.or_eq_true_iff.mp h with hline | halpha
  · rw [hline]
    rfl
  · unfold Char.isAlphanum
    rw [halpha, Bool.true_or, Bool.or_true]

/-- The longest word from a character that may begin one is a name. -/
theorem isName_takeWhile {c : Char} {rest : List Char} (h : isNameStart c = true) :
    isName (String.ofList ((c :: rest).takeWhile isNameRest)) = true := by
  unfold isName
  rw [String.toList_ofList, List.takeWhile_cons_of_pos (isNameRest_of_isNameStart h)]
  show (isNameStart c && (rest.takeWhile isNameRest).all isNameRest) = true
  rw [h, List.all_takeWhile]
  rfl

/-- A number is no word. -/
theorem isSpelt_of_readNumberToken {cs rest : List Char} {l : Lexeme}
    (h : readNumberToken cs = .ok (l, rest)) : l.isSpelt = true := by
  obtain ⟨whole, _, h⟩ := exists_of_bind_eq_ok h
  obtain ⟨fraction, _, h⟩ := exists_of_bind_eq_ok h
  obtain ⟨exponent, _, h⟩ := exists_of_bind_eq_ok h
  -- Sign and digits do not matter: what is left to do is to make a number of them, or to stop.
  have hnumber : ∀ (whole : Bool) digits,
      (if whole = true then Lexeme.int digits else Lexeme.float digits).isSpelt = true := by
    intro whole digits
    cases whole <;> rfl
  simp only at h
  split at h
  next =>
    split at h
    · cases h
    · cases h
      exact hnumber _ _
  next =>
    cases h
    exact hnumber _ _

/-- **Words are names**: every lexeme that is read is spelt as it should be. -/
theorem isSpelt_of_readLexeme {cs rest : List Char} {l : Lexeme} (h : readLexeme cs = .ok (l, rest)) :
    l.isSpelt = true := by
  unfold readLexeme at h
  split at h
  next =>
    cases h
    rfl
  next =>
    obtain ⟨_, _, hr⟩ := exists_of_map_eq_ok h
    cases hr
    rfl
  next =>
    obtain ⟨_, _, hr⟩ := exists_of_map_eq_ok h
    cases hr
    rfl
  next =>
    unfold readPoints at h
    split at h
    next => cases h; rfl
    next => cases h
    next =>
      simp only at h
      split at h <;> cases h
  next c rest' _ _ _ =>
    -- The one way to a word begins with a character that may begin a name.
    split at h
    next => cases h; rfl
    next =>
      split at h
      next => exact isSpelt_of_readNumberToken h
      next =>
        split at h
        next hstart =>
          cases h
          exact isName_takeWhile hstart
        next => split at h <;> cases h

theorem isSpelt_of_mem_tokensFrom {fuel : Nat} {cs : List Char} {t : Token} (h : t ∈ tokensFrom fuel cs) :
    t.lexeme.isSpelt = true := by
  induction fuel generalizing cs with
  | zero => cases h
  | succ fuel ih =>
      unfold tokensFrom at h
      simp only at h
      split at h
      next => cases List.mem_singleton.mp h; rfl
      next => cases List.mem_singleton.mp h; rfl
      next hread =>
        rcases List.mem_cons.mp h with rfl | hrest
        · exact isSpelt_of_readLexeme hread
        · exact ih hrest

/-- **A spelt cursor** stands before words that are names. -/
def Cursor.Spelt (c : Cursor) : Prop := ∀ l ∈ c.lexemes, l.isSpelt = true

theorem Cursor.spelt_ofTokens {cs : List Char} {c : Cursor} (h : Cursor.ofTokens (tokens cs) = .ok c) :
    c.Spelt := by
  unfold Cursor.ofTokens at h
  intro l hl
  split at h
  next =>
    cases h
    cases List.mem_singleton.mp hl
    rfl
  next => cases h
  next token ahead _ heq =>
    cases h
    rcases List.mem_cons.mp hl with rfl | hahead
    · exact isSpelt_of_mem_tokensFrom (heq ▸ List.mem_cons_self)
    · obtain ⟨t, ht, rfl⟩ := List.mem_map.mp hahead
      exact isSpelt_of_mem_tokensFrom (heq ▸ List.mem_cons_of_mem _ ht)

/-! ## What readers yield -/

namespace Reader

/-- **What a reader yields**: on spelt cursors all its results have a property, and it leaves spelt
    cursors. -/
def Yields {α : Type} (r : Reader α) (P : α → Prop) : Prop :=
  ∀ c a c', c.Spelt → r c = .ok (a, c') → c'.Spelt ∧ P a

/-- A reader of which only the cursor matters. -/
abbrev StaysSpelt {α : Type} (r : Reader α) : Prop := Yields r fun _ => True

namespace Yields

variable {α β : Type} {r r' : Reader α} {f : α → Reader β} {a : α} {P : α → Prop} {Q : β → Prop}
  {mark close opening : Punctuator} {word : String} {token : Token} {fault : SyntaxFault} {fuel levels : Nat}
  {constant : Bool}

protected theorem pure (h : P a) : Yields (pure a) P := by
  intro c a' c' spelt hr
  cases hr
  exact ⟨spelt, h⟩

/-- **Two readers in a row**: the second may count on what the first yields. -/
protected theorem bind (h : Yields r P) (hf : ∀ a, P a → Yields (f a) Q) : Yields (r >>= f) Q := by
  intro c b c'' spelt hr
  obtain ⟨⟨a, c'⟩, hfirst, hsecond⟩ := exists_of_bind_eq_ok hr
  obtain ⟨spelt', ha⟩ := h c a c' spelt hfirst
  exact hf a ha c' b c'' spelt' hsecond

protected theorem ite {p : Prop} [Decidable p] (h : Yields r P) (h' : Yields r' P) :
    Yields (if p then r else r') P := by
  split
  · exact h
  · exact h'

/-- The way the branches of a choice go on alike. -/
theorem iteThen {p : Prop} [Decidable p] (h : Yields r P) (h' : Yields r' P)
    (hf : ∀ a, P a → Yields (f a) Q) : Yields (if p then r >>= f else r' >>= f) Q :=
  .ite (.bind h hf) (.bind h' hf)

protected theorem weaken {P' : α → Prop} (h : Yields r P) (himp : ∀ a, P a → P' a) : Yields r P' := by
  intro c a c' spelt hr
  obtain ⟨spelt', ha⟩ := h c a c' spelt hr
  exact ⟨spelt', himp a ha⟩

/-! ### Steps -/

/-- A reader that stops yields nothing. -/
protected theorem stopAt : Yields (stopAt token fault) P := by
  intro c a c' _ hr
  cases hr

protected theorem unexpected : Yields (unexpected token) P := .stopAt

protected theorem current : Yields current fun t => t.lexeme.isSpelt = true := by
  intro c t c' spelt hr
  cases hr
  exact ⟨spelt, spelt _ List.mem_cons_self⟩

protected theorem unexpectedHere : Yields unexpectedHere P := .bind .current fun _ _ => .stopAt

/-- Behind a stop nothing is read. -/
theorem stopped {f : α → Reader β} : Yields (Reader.stopAt token fault >>= f) Q :=
  .bind (P := fun _ => False) .stopAt fun _ h => h.elim

theorem stoppedHere : Yields (Reader.unexpectedHere >>= f) Q :=
  .bind (P := fun _ => False) .unexpectedHere fun _ h => h.elim

protected theorem tooDeepHere : Yields tooDeepHere P := .bind .current fun _ _ => .stopAt

protected theorem lexeme : Yields lexeme fun l => l.isSpelt = true := by
  intro c l c' spelt hr
  cases hr
  exact ⟨spelt, spelt _ List.mem_cons_self⟩

protected theorem room : StaysSpelt room := by
  intro c n c' spelt hr
  cases hr
  exact ⟨spelt, trivial⟩

protected theorem lookAhead : StaysSpelt lookAhead := by
  intro c t c' spelt hr
  unfold lookAhead at hr
  split at hr
  next => cases hr; exact ⟨spelt, trivial⟩
  next =>
    split at hr
    next => cases hr
    next => cases hr; exact ⟨spelt, trivial⟩

/-- The cursor moves on to lexemes that it stood before. -/
protected theorem advance : StaysSpelt advance := by
  intro c u c' spelt hr
  obtain ⟨token, ahead⟩ := c
  unfold advance at hr
  split at hr
  next =>
    cases hr
    refine ⟨?_, trivial⟩
    intro l hl
    cases List.mem_singleton.mp hl
    rfl
  next heq =>
    cases heq
    split at hr
    next => cases hr
    next =>
      cases hr
      exact ⟨fun l hl => spelt l (List.mem_cons_of_mem _ hl), trivial⟩

/-! ### Punctuators, keywords and names -/

protected theorem at? : StaysSpelt (at? mark) := .bind .lexeme fun _ _ => .pure trivial

protected theorem skip? : StaysSpelt (skip? mark) :=
  .bind .at? fun _ _ => .ite (.bind .advance fun _ _ => .pure trivial) (.pure trivial)

protected theorem expect : StaysSpelt (expect mark) :=
  .bind .skip? fun _ _ => .ite (.pure trivial) (.bind .current fun _ _ => .stopAt)

protected theorem skipWord? : StaysSpelt (skipWord? word) :=
  .bind .lexeme fun _ _ => .ite (.bind .advance fun _ _ => .pure trivial) (.pure trivial)

protected theorem expectWord : StaysSpelt (expectWord word) :=
  .bind .skipWord? fun _ _ => .ite (.pure trivial) (.bind .current fun _ _ => .stopAt)

/-- **A name that is read is a name.** -/
protected theorem name : Yields name fun word => isName word = true := by
  refine .bind .current fun t ht => ?_
  split
  next word heq =>
    rw [heq] at ht
    exact .bind .advance fun _ _ => .pure ht
  next => exact .stopAt

/-! ### Lists -/

theorem itemsUntil (h : Yields r P) : Yields (itemsUntil close r fuel) fun as => ∀ a ∈ as, P a := by
  induction fuel with
  | zero => exact .unexpectedHere
  | succ fuel ih =>
      refine .bind h fun first hfirst => .bind .skip? fun _ _ => .ite (.pure ?_) ?_
      · exact List.forall_mem_singleton.mpr hfirst
      · exact .bind ih fun rest hrest => .pure (List.forall_mem_cons.mpr ⟨hfirst, hrest⟩)

theorem many (h : Yields r P) : Yields (many opening close r) fun as => ∀ a ∈ as, P a :=
  .bind .expect fun _ _ => .bind .room fun _ _ => .itemsUntil h

theorem optionalMany (h : Yields r P) : Yields (optionalMany opening close r) fun as => ∀ a ∈ as, P a := by
  refine .bind .skip? fun _ _ => .ite ?_ (.pure ?_)
  · exact .bind .room fun _ _ => .itemsUntil h
  · exact fun _ ha => absurd ha List.not_mem_nil

theorem anyNumber (h : Yields r P) : Yields (anyNumber opening close r) fun as => ∀ a ∈ as, P a := by
  refine .bind .expect fun _ _ => .bind .skip? fun _ _ => .ite (.pure ?_) ?_
  · exact fun _ ha => absurd ha List.not_mem_nil
  · exact .bind .room fun _ _ => .itemsUntil h

theorem itemsBetween (h : Yields r P) : StaysSpelt (itemsBetween mark r fuel) := by
  induction fuel with
  | zero => exact .unexpectedHere
  | succ fuel ih =>
      refine .bind h fun _ _ => .bind .skip? fun _ _ => .ite ?_ (.pure trivial)
      exact .bind ih fun _ _ => .pure trivial

theorem delimited (h : Yields r P) : StaysSpelt (delimited mark r) :=
  .bind .skip? fun _ _ => .bind .room fun _ _ => .itemsBetween h

/-! ### Descriptions, values and directives -/

protected theorem atText? : StaysSpelt atText? := by
  refine .bind .lexeme fun _ _ => ?_
  split <;> exact .pure trivial

protected theorem description : StaysSpelt description := by
  refine .bind .lexeme fun _ _ => ?_
  split
  next => exact .bind .advance fun _ _ => .pure trivial
  next => exact .bind .advance fun _ _ => .pure trivial
  next => exact .pure trivial

protected theorem parameter : StaysSpelt (parameter constant) := by
  refine .bind .current fun _ _ => .bind .advance fun _ _ => .ite ?_ ?_
  · refine .bind .lexeme fun _ _ => ?_
    split <;> exact .stopAt
  · exact .bind .name fun _ _ => .pure trivial

protected theorem flatValue : StaysSpelt (flatValue constant) := by
  refine .bind .lexeme fun _ _ => ?_
  split
  next => exact .tooDeepHere
  next => exact .tooDeepHere
  next => exact .parameter
  next => exact .bind .advance fun _ _ => .pure trivial
  next => exact .bind .advance fun _ _ => .pure trivial
  next => exact .bind .advance fun _ _ => .pure trivial
  next => exact .bind .advance fun _ _ => .pure trivial
  next => exact .bind .advance fun _ _ => .pure trivial
  next => exact .unexpectedHere

protected theorem value : StaysSpelt (value constant levels) := by
  induction levels with
  | zero => exact .flatValue
  | succ levels ih =>
      refine .bind .lexeme fun _ _ => ?_
      split
      next => exact .bind (.anyNumber ih) fun _ _ => .pure trivial
      next =>
        refine .bind (.anyNumber (P := fun _ => True) ?_) fun _ _ => .pure trivial
        exact .bind .name fun _ _ => .bind .expect fun _ _ => .bind ih fun _ _ => .pure trivial
      next => exact .flatValue

protected theorem argument : StaysSpelt (argument constant levels) :=
  .bind .name fun _ _ => .bind .expect fun _ _ => .bind .current fun _ _ =>
    .bind .value fun _ _ => .pure trivial

protected theorem arguments : StaysSpelt (arguments constant levels) :=
  .weaken (.optionalMany .argument) fun _ _ => trivial

protected theorem directivesFrom : StaysSpelt (directivesFrom constant levels fuel) := by
  induction fuel with
  | zero => exact .pure trivial
  | succ fuel ih =>
      refine .bind .current fun _ _ => .bind .skip? fun _ _ => .ite ?_ (.pure trivial)
      exact .bind .name fun _ _ => .bind .arguments fun _ _ => .bind ih fun _ _ => .pure trivial

protected theorem appliedDirectives : StaysSpelt (appliedDirectives levels) :=
  .bind .room fun _ _ => .directivesFrom

protected theorem directives : StaysSpelt directives := .bind .room fun _ _ => .directivesFrom

protected theorem defaultValue : StaysSpelt defaultValue :=
  .bind .skip? fun _ _ => .ite (.bind .value fun _ _ => .pure trivial) (.pure trivial)

end Yields

end Reader

/-! ## Named declarations -/

/-- The fields that a type declares, each with its type. -/
def Content.declaredFields : Content → List (String × TypeExpr)
  | .object _ fields => fields.map fun f => (f.name, f.type)
  | .interface _ fields => fields.map fun f => (f.name, f.type)
  | .input fields => fields.map fun f => (f.name, f.type)
  | _ => []

/-- Whether all fields of a content have names, and types with names. -/
def Content.IsNamed (content : Content) : Prop :=
  ∀ p ∈ content.declaredFields, isName p.1 = true ∧ isName p.2.baseName = true

/-- Whether a declaration, its fields and their types have names. -/
structure Declaration.IsNamed (d : Declaration) : Prop where
  name : isName d.name = true
  content : d.content.IsNamed

/-- Whether what a definition says of a type is said in names. -/
def Definition.IsNamed : Definition → Prop
  | .type d => d.IsNamed
  | .extendType d => d.IsNamed
  | _ => True

namespace Reader.Yields

variable {α β : Type} {levels fuel : Nat} {constant described : Bool} {word : String} {keyword : Token}
  {d : Option String}

/-! ### Types -/

protected theorem typeAround {element : Reader TypeExpr}
    (h : Yields element fun e => isName e.baseName = true) :
    Yields (typeAround element) fun e => isName e.baseName = true := by
  -- With brackets or without, an exclamation mark may follow.
  have hwrapped : ∀ inner : TypeExpr, isName inner.baseName = true → Yields (do
      if ← Reader.skip? .bang then
        return TypeExpr.nonNull inner
      return inner) fun e => isName e.baseName = true :=
    fun _ hinner => .bind .skip? fun _ _ => .ite (.pure hinner) (.pure hinner)
  refine .bind .skip? fun _ _ => .ite ?list ?named
  case list =>
    refine .bind h fun e he => .bind .expect fun _ _ => ?_
    exact .bind (.pure he) hwrapped
  case named =>
    refine .bind .name fun word hword => ?_
    exact .bind (P := fun e => isName e.baseName = true) (.pure hword) hwrapped

/-- **A type that is read has a name inside.** -/
protected theorem typeExpr : Yields typeExpr fun e => isName e.baseName = true := by
  have hfrom : ∀ levels, Yields (typeExprFrom levels) fun e => isName e.baseName = true := by
    intro levels
    induction levels with
    | zero => exact .typeAround .tooDeepHere
    | succ levels ih => exact .typeAround ih
  exact hfrom maxDepth

protected theorem inputDefinition :
    Yields inputDefinition fun i => isName i.name = true ∧ isName i.type.baseName = true := by
  refine .bind .description fun _ _ => .bind .name fun name hname => .bind .expect fun _ _ => ?_
  refine .bind .typeExpr fun type htype => .bind .defaultValue fun _ _ => .bind .directives fun _ _ => ?_
  exact .pure ⟨hname, htype⟩

protected theorem fieldDefinition :
    Yields fieldDefinition fun f => isName f.name = true ∧ isName f.type.baseName = true := by
  refine .bind .description fun _ _ => .bind .name fun name hname => ?_
  refine .bind (.optionalMany .inputDefinition) fun _ _ => .bind .expect fun _ _ => ?_
  exact .bind .typeExpr fun type htype => .bind .directives fun _ _ => .pure ⟨hname, htype⟩

protected theorem enumValueDefinition : StaysSpelt enumValueDefinition := by
  refine .bind .description fun _ _ => .bind .current fun _ _ => ?_
  split
  next =>
    refine .ite .stopped ?_
    exact .bind .name fun _ _ => .bind .directives fun _ _ => .pure trivial
  next => exact .bind .name fun _ _ => .bind .directives fun _ _ => .pure trivial

protected theorem interfaces : StaysSpelt interfaces :=
  .bind .skipWord? fun _ _ => .ite (.delimited .name) (.pure trivial)

protected theorem fielded {make : List String → List FieldDefinition → Content}
    (hmake : ∀ interfaces fields, (∀ f ∈ fields, isName f.name = true ∧ isName f.type.baseName = true) →
      (make interfaces fields).IsNamed) :
    Yields (fielded make) fun p => p.2.IsNamed := by
  refine .bind .interfaces fun interfaces _ => .bind .directives fun _ _ => ?_
  exact .bind (.optionalMany .fieldDefinition) fun fields hfields => .pure (hmake interfaces fields hfields)

protected theorem typeBody : Yields (typeBody word) fun p => p.2.IsNamed := by
  have hbare : ∀ p ∈ ([] : List (String × TypeExpr)), isName p.1 = true ∧ isName p.2.baseName = true :=
    fun p hp => absurd hp List.not_mem_nil
  refine .ite ?type (.ite ?interface ?others)
  case type => exact .fielded fun _ fields hfields => List.forall_mem_map.mpr hfields
  case interface => exact .fielded fun _ fields hfields => List.forall_mem_map.mpr hfields
  case others =>
    refine .bind .directives fun _ _ => .ite ?union (.ite ?enum (.ite ?input (.pure hbare)))
    case union =>
      exact .bind .skip? fun _ _ => .iteThen (.delimited .name) (.pure trivial) fun _ _ => .pure hbare
    case enum => exact .bind (.optionalMany .enumValueDefinition) fun _ _ => .pure hbare
    case input =>
      exact .bind (.optionalMany .inputDefinition) fun _ hfields => .pure (List.forall_mem_map.mpr hfields)

protected theorem declaration : Yields (declaration d word) Declaration.IsNamed :=
  .bind .expectWord fun _ _ => .bind .name fun _ hname => .bind .typeBody fun _ hcontent =>
    .pure ⟨hname, hcontent⟩

/-! ### Schemas, directives and extensions -/

protected theorem operationWord : StaysSpelt operationWord := by
  refine .bind .current fun _ _ => .bind .name fun _ _ => ?_
  split
  next => exact .pure trivial
  next => exact .unexpected

protected theorem rootDeclaration : StaysSpelt rootDeclaration :=
  .bind .operationWord fun _ _ => .bind .expect fun _ _ => .bind .name fun _ _ => .pure trivial

protected theorem schemaDefinition : Yields schemaDefinition Definition.IsNamed :=
  .bind .expectWord fun _ _ => .bind .directives fun _ _ => .bind (.many .rootDeclaration) fun _ _ =>
    .pure trivial

protected theorem directiveLocation : StaysSpelt directiveLocation :=
  .bind .current fun _ _ => .bind .name fun _ _ => .ite (.pure trivial) .unexpected

protected theorem directiveDefinition : Yields (directiveDefinition d) Definition.IsNamed := by
  refine .bind .expectWord fun _ _ => .bind .expect fun _ _ => .bind .name fun _ _ => ?_
  refine .bind (.optionalMany .inputDefinition) fun _ _ => .bind .directives fun _ _ => ?_
  refine .bind .skipWord? fun _ _ => .bind .expectWord fun _ _ => ?_
  exact .bind (.delimited .directiveLocation) fun _ _ => .pure trivial

protected theorem extension : Yields extension Definition.IsNamed := by
  refine .bind .lookAhead fun _ _ => ?_
  split
  next =>
    refine .ite ?schema (.ite ?type (.ite ?directive .unexpected))
    case schema =>
      refine .bind .advance fun _ _ => .bind .expectWord fun _ _ => .bind .directives fun _ _ => ?_
      refine .bind (.optionalMany .rootDeclaration) fun _ _ => ?_
      exact .ite .stoppedHere (.pure trivial)
    case type =>
      refine .bind .advance fun _ _ => .bind .declaration fun declaration hnamed => ?_
      exact .ite .stoppedHere (.pure hnamed)
    case directive =>
      refine .bind .advance fun _ _ => .bind .expectWord fun _ _ => .bind .expect fun _ _ => ?_
      refine .bind .name fun _ _ => .bind .directives fun _ _ => ?_
      exact .ite .stoppedHere (.pure trivial)
  next => exact .unexpected

/-! ### Operations and fragments -/

protected theorem fragmentName : StaysSpelt fragmentName := by
  have hname : StaysSpelt Reader.name := .weaken .name fun _ _ => trivial
  exact .bind .lexeme fun _ _ => .ite .stoppedHere hname

protected theorem selection {below : Reader (List OperationSelection)} (h : StaysSpelt below) :
    StaysSpelt (selection levels below) := by
  refine .bind .skip? fun _ _ => .ite ?spread ?field
  case spread =>
    refine .bind .skipWord? fun conditioned _ => .bind .lexeme fun l _ => ?_
    split
    next => exact .bind .fragmentName fun _ _ => .bind .appliedDirectives fun _ _ => .pure trivial
    next =>
      refine .iteThen (P := fun _ => True) ?_ (.pure trivial) fun _ _ => ?_
      · exact .bind .name fun _ _ => .pure trivial
      exact .bind .appliedDirectives fun _ _ => .bind h fun _ _ => .pure trivial
  case field =>
    refine .bind .name fun first _ => .bind .skip? fun _ _ => ?_
    have hrest : ∀ p : Option String × String, StaysSpelt (do
        let arguments ← Reader.arguments false levels
        let directives ← Reader.appliedDirectives levels
        let selections ← if ← Reader.at? .braceOpen then below else pure []
        return OperationSelection.field p.1 p.2 arguments directives selections) := by
      intro p
      refine .bind .arguments fun _ _ => .bind .appliedDirectives fun _ _ => .bind .at? fun _ _ => ?_
      exact .iteThen h (.pure trivial) fun _ _ => .pure trivial
    refine .ite ?_ ?_
    · exact .bind .name fun field _ => hrest (some first, field)
    · exact hrest (none, first)

protected theorem selectionSet : StaysSpelt selectionSet := by
  have hfrom : ∀ levels, StaysSpelt (selectionsFrom levels) := by
    intro levels
    induction levels with
    | zero => exact .tooDeepHere
    | succ levels ih => exact .weaken (.anyNumber (.selection ih)) fun _ _ => trivial
  exact hfrom maxDepth

protected theorem parameterDefinition : StaysSpelt parameterDefinition := by
  refine .bind .description fun _ _ => .bind .expect fun _ _ => .bind .name fun _ _ => ?_
  refine .bind .expect fun _ _ => .bind .typeExpr fun _ _ => .bind .defaultValue fun _ _ => ?_
  exact .bind .directives fun _ _ => .pure trivial

protected theorem operationDefinition : Yields operationDefinition Definition.IsNamed := by
  refine .bind .operationWord fun operation _ => .bind .lexeme fun _ _ => ?_
  -- The name of an operation may be left out; what comes then is the same.
  have hrest : Yields (do
      let parameters ← Reader.optionalMany .parenOpen .parenClose Reader.parameterDefinition
      let directives ← Reader.appliedDirectives maxDepth
      return .operation operation parameters directives (← Reader.selectionSet)) Definition.IsNamed := by
    refine .bind (.optionalMany .parameterDefinition) fun _ _ => .bind .appliedDirectives fun _ _ => ?_
    exact .bind .selectionSet fun _ _ => .pure trivial
  split
  next => exact .bind .advance fun _ _ => hrest
  next => exact hrest

protected theorem fragmentDefinition : Yields fragmentDefinition Definition.IsNamed := by
  refine .bind .expectWord fun _ _ => .bind .fragmentName fun _ _ => .bind .expectWord fun _ _ => ?_
  refine .bind .name fun _ _ => .bind .appliedDirectives fun _ _ => ?_
  exact .bind .selectionSet fun _ _ => .pure trivial

/-! ### Documents -/

protected theorem keywordDefinition :
    Yields (keywordDefinition described keyword word) Definition.IsNamed := by
  refine .bind .current fun _ _ => .ite ?schema (.ite ?type (.ite ?directive (.ite ?operation (.ite ?fragment
    (.ite .stopAt (.ite .extension .unexpected))))))
  case schema => exact .bind .description fun _ _ => .schemaDefinition
  case type => exact .bind .description fun _ _ => .bind .declaration fun _ hnamed => .pure hnamed
  case directive => exact .bind .description fun _ _ => .directiveDefinition
  case operation => exact .bind .description fun _ _ => .operationDefinition
  case fragment => exact .bind .description fun _ _ => .fragmentDefinition

protected theorem definition : Yields definition Definition.IsNamed := by
  have hshort : Yields (do return .operation .query [] [] (← Reader.selectionSet)) Definition.IsNamed :=
    .bind .selectionSet fun _ _ => .pure trivial
  refine .bind .atText? fun described _ => ?_
  refine .iteThen .lookAhead (.weaken .current fun _ _ => trivial) fun keyword _ => ?_
  beta_reduce
  split
  next => exact .ite (.bind .current fun _ _ => .stopped) hshort
  next => exact .keywordDefinition
  next => exact .unexpected

protected theorem definitions : Yields (definitions fuel) fun document => ∀ d ∈ document, d.IsNamed := by
  induction fuel with
  | zero => exact .unexpectedHere
  | succ fuel ih =>
      refine .bind .definition fun first hfirst => .bind .lexeme fun _ _ => .ite (.pure ?_) ?_
      · exact List.forall_mem_singleton.mpr hfirst
      · exact .bind ih fun rest hrest => .pure (List.forall_mem_cons.mpr ⟨hfirst, hrest⟩)

end Reader.Yields

/-- **What a document declares, it declares under names.** -/
theorem isNamed_of_readDocument {text : List Char} {document : Document}
    (h : readDocument text = .ok document) : ∀ d ∈ document, d.IsNamed := by
  unfold readDocument at h
  split at h
  next read hparse =>
    cases h
    obtain ⟨start, hstart, hrun⟩ := exists_of_bind_eq_ok hparse
    obtain ⟨⟨read, c⟩, hrun, hread⟩ := exists_of_bind_eq_ok hrun
    cases hread
    have hyields : (do Reader.definitions (← Reader.room)).Yields
        fun document => ∀ d ∈ document, d.IsNamed := .bind .room fun _ _ => .definitions
    exact (hyields start _ c (Cursor.spelt_ofTokens hstart) hrun).2
  next => cases h

end GraphQLCache.Sdl
