import GraphQLCache.Sdl.Parser

/-!
# `Proofs.ReaderRuns` — what a reader makes of the lexemes before it

`Runs r before a behind` says that `r` gives `a` on every cursor that has the lexemes `before`, and leaves the
lexemes `behind`. Where the tokens lie in the text is left open, and nothing is said of a run that stops.
There is one rule for each way a reader goes on, so a reader that is made of others runs as they do.
-/

namespace GraphQLCache.Sdl

/-- The lexeme under the cursor and those behind it. -/
def Cursor.lexemes (c : Cursor) : List Lexeme := c.token.lexeme :: c.ahead.map (·.lexeme)

/-- Whether a lexeme is one, and not a fault in the place of one. -/
def Lexeme.isSound : Lexeme → Bool
  | .broken _ => false
  | _ => true

/-- A text whose tokens are all sound has a first cursor, before these tokens. -/
theorem Cursor.lexemes_ofTokens {ts : List Token} {l : Lexeme} {ls : List Lexeme}
    (h : ts.map (·.lexeme) = l :: ls) (sound : l.isSound = true) :
    ∃ c, Cursor.ofTokens ts = .ok c ∧ c.lexemes = l :: ls := by
  cases ts with
  | nil => exact absurd h (List.cons_ne_nil _ _).symm
  | cons token ahead =>
      obtain ⟨rfl, rfl⟩ := List.cons.inj h
      refine ⟨⟨token, ahead⟩, ?_, rfl⟩
      unfold Cursor.ofTokens
      split
      · rename_i heq
        exact absurd heq (List.cons_ne_nil _ _)
      · rename_i heq
        obtain ⟨rfl, rfl⟩ := List.cons.inj heq
        exact absurd sound Bool.noConfusion
      · rename_i heq
        obtain ⟨rfl, rfl⟩ := List.cons.inj heq
        rfl

namespace Reader

/-- **A reader runs**: on every cursor with the lexemes `before` it gives `a` and leaves the lexemes
    `behind`. -/
def Runs {α : Type} (r : Reader α) (before : List Lexeme) (a : α) (behind : List Lexeme) : Prop :=
  ∀ c : Cursor, c.lexemes = before → ∃ c', r c = .ok (a, c') ∧ c'.lexemes = behind

namespace Runs

variable {α β : Type} {r : Reader α} {f : α → Reader β} {a : α} {b : β} {l next : Lexeme}
  {ls before middle behind : List Lexeme} {mark close opening : Punctuator} {word : String} {fuel levels : Nat}

/-! ## One step -/

protected theorem pure : Runs (pure a) ls a ls := fun c h => ⟨c, rfl, h⟩

/-- **Two readers in a row**: the second runs on what the first leaves. -/
protected theorem bind (h : Runs r before a middle) (hf : Runs (f a) middle b behind) :
    Runs (r >>= f) before b behind := by
  intro c hc
  obtain ⟨c', hr, hc'⟩ := h c hc
  obtain ⟨c'', hfr, hc''⟩ := hf c' hc'
  refine ⟨c'', ?_, hc''⟩
  change (r c >>= fun p => f p.1 p.2) = .ok (b, c'')
  rw [hr]
  exact hfr

protected theorem map {g : α → β} (h : Runs r before a behind) : Runs (g <$> r) before (g a) behind := by
  intro c hc
  obtain ⟨c', hr, hc'⟩ := h c hc
  refine ⟨c', ?_, hc'⟩
  change (r c >>= fun p => .ok (g p.1, p.2)) = .ok (g a, c')
  rw [hr]
  rfl

protected theorem lexeme : Runs lexeme (l :: ls) l (l :: ls) := by
  intro c h
  refine ⟨c, ?_, h⟩
  rw [← (List.cons.inj h).1]
  rfl

/-- The token under the cursor is passed on; only its lexeme is known. -/
protected theorem current {f : Token → Reader β}
    (h : ∀ t : Token, t.lexeme = l → Runs (f t) (l :: ls) b behind) :
    Runs (current >>= f) (l :: ls) b behind := by
  intro c hc
  exact h c.token (List.cons.inj hc).1 c hc

protected theorem room : Runs room ls (ls.length + 1) ls := by
  intro c h
  refine ⟨c, ?_, h⟩
  rw [← h, Cursor.lexemes, List.length_cons, List.length_map]
  rfl

/-- The cursor moves onto a sound lexeme. -/
protected theorem advance (sound : next.isSound = true) : Runs advance (l :: next :: ls) () (next :: ls) := by
  intro c h
  obtain ⟨token, ahead⟩ := c
  obtain ⟨rfl, hahead⟩ := List.cons.inj h
  cases ahead with
  | nil => exact absurd hahead (List.cons_ne_nil _ _).symm
  | cons t ts =>
      obtain ⟨rfl, rfl⟩ := List.cons.inj hahead
      refine ⟨⟨t, ts⟩, ?_, rfl⟩
      obtain ⟨lexeme, left⟩ := t
      cases lexeme with
      | broken fault => exact absurd sound Bool.noConfusion
      | _ => rfl

/-! ## Punctuators, keywords and names -/

protected theorem at? : Runs (at? mark) (l :: ls) (decide (l = .punctuator mark)) (l :: ls) :=
  .bind .lexeme .pure

/-- A punctuator is passed. -/
theorem skip (sound : next.isSound = true) :
    Runs (skip? mark) (.punctuator mark :: next :: ls) true (next :: ls) := by
  refine .bind .at? ?_
  rw [decide_eq_true rfl]
  exact .bind (.advance sound) .pure

/-- Any other lexeme stays. -/
theorem stay (h : l ≠ .punctuator mark) : Runs (skip? mark) (l :: ls) false (l :: ls) := by
  refine .bind .at? ?_
  rw [decide_eq_false h]
  exact .bind .pure .pure

protected theorem expect (sound : next.isSound = true) :
    Runs (expect mark) (.punctuator mark :: next :: ls) () (next :: ls) := .bind (.skip sound) .pure

protected theorem skipWord (sound : next.isSound = true) :
    Runs (skipWord? word) (.name word :: next :: ls) true (next :: ls) := by
  refine .bind .lexeme ?_
  rw [if_pos rfl]
  exact .bind (.advance sound) .pure

protected theorem expectWord (sound : next.isSound = true) :
    Runs (expectWord word) (.name word :: next :: ls) () (next :: ls) := .bind (.skipWord sound) .pure

protected theorem name (sound : next.isSound = true) :
    Runs name (.name word :: next :: ls) word (next :: ls) := by
  refine .current fun t ht => ?_
  rw [ht]
  exact .bind (.advance sound) .pure

/-- The name of a fragment is any name but one. -/
protected theorem fragmentName (hword : word ≠ "on") (sound : next.isSound = true) :
    Runs fragmentName (.name word :: next :: ls) word (next :: ls) := by
  refine .bind .lexeme ?_
  have hvalue : (Lexeme.name word).value? ≠ some "on" := fun h => hword (Option.some.inj h)
  simp only [if_neg hvalue]
  exact .name sound

/-! ## Lists -/

/-- The last item, behind which the list is closed. -/
theorem itemsUntil_last (h : Runs r before a (.punctuator close :: next :: ls)) (sound : next.isSound = true) :
    Runs (itemsUntil close r (fuel + 1)) before [a] (next :: ls) :=
  .bind h (.bind (.skip sound) .pure)

/-- An item with others behind it. -/
theorem itemsUntil_cons {as : List α} (h : Runs r before a (l :: ls)) (hl : l ≠ .punctuator close)
    (hrest : Runs (itemsUntil close r fuel) (l :: ls) as behind) :
    Runs (itemsUntil close r (fuel + 1)) before (a :: as) behind :=
  .bind h (.bind (.stay hl) (.bind hrest .pure))

/-- **Items between punctuators**, read with more fuel than there are lexemes. -/
protected theorem many {as : List α} (sound : l.isSound = true)
    (h : Runs (itemsUntil close r ((l :: ls).length + 1)) (l :: ls) as behind) :
    Runs (many opening close r) (.punctuator opening :: l :: ls) as behind :=
  .bind (.expect sound) (.bind .room h)

/-! ## Arguments and directives -/

/-- There are no arguments without a parenthesis. -/
theorem noArguments {constant : Bool} (h : l ≠ .punctuator .parenOpen) :
    Runs (arguments constant levels) (l :: ls) [] (l :: ls) := .bind (.stay h) .pure

/-- There are no directives without their mark. -/
theorem noDirectives (h : l ≠ .punctuator .atSign) : Runs (appliedDirectives levels) (l :: ls) [] (l :: ls) := by
  refine .bind .room ?_
  exact .current fun _ _ => .bind (.stay h) (.bind .pure .pure)

end Runs

end Reader

end GraphQLCache.Sdl
