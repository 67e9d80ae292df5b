import GraphQLCache.Proofs.Builder
import GraphQLCache.Proofs.DocumentTokens
import GraphQLCache.Proofs.ReaderRuns
import GraphQLCache.Proofs.Regular

/-!
# `Proofs.DocumentReading` — printed documents read back

`parseFragment` reads a text that is one fragment, with the lexer and the readers of the language in full: a
selection may have an alias, arguments and directives, selections nest as deep as there are tokens, and a
selection set holds a selection at least. What a built document prints reads back as the document itself
(`parseFragment_print`), because a printed text spells its lexemes (`Fragment.lexemes_tokens_print`) and the
readers run on these. One selection is read whatever goes on behind it (`Selection.runs`), by recursion on the
selection and on the list that it stands in.

Both builders leave no selection set empty (`Fragment.Built.filled`), and a document is told by what is read
(`Fragment.eq_of_definition_eq`), so two documents that print alike are one.
-/

namespace GraphQLCache

open Sdl

/-! ## Reading a fragment -/

namespace Sdl

namespace Reader

/-- Selections in braces, one at least, of as many levels at most. -/
def filledSelections : (levels : Nat) → Reader (List OperationSelection)
  | 0 => tooDeepHere
  | levels + 1 => many .braceOpen .braceClose (selection levels (filledSelections levels))

/-- A fragment with nothing behind it. No text nests deeper than it has tokens. -/
def loneFragment : Reader Definition := do
  let levels ← room
  expectWord "fragment"
  let fragment ← fragmentName
  expectWord "on"
  let type ← name
  let directives ← appliedDirectives levels
  let selections ← filledSelections levels
  if (← lexeme) = .ending then return .fragment fragment type directives selections
  unexpectedHere

end Reader

/-- The fragment that a text spells. -/
def parseFragment (cs : List Char) : Except SyntaxStop Definition := do
  let start ← Cursor.ofTokens (tokens cs)
  let (fragment, _) ← Reader.loneFragment start
  return fragment

end Sdl

/-! ## Documents in the form that they are read in -/

mutual

/-- A selection as it is read: without alias, arguments and directives. -/
def Selection.operation : Selection → OperationSelection
  | .field name selections => .field none name [] [] (operationsOf selections)
  | .inlineOn type selections => .inlineOn (some type) [] (operationsOf selections)

/-- Selections as they are read. -/
def operationsOf : List Selection → List OperationSelection
  | [] => []
  | s :: rest => s.operation :: operationsOf rest

end

/-- A document as it is read. -/
def Fragment.definition (f : Fragment) : Definition := .fragment f.name f.type [] (operationsOf f.selections)

mutual

/-- A selection is told by what is read of it. -/
theorem Selection.eq_of_operation_eq : (s s' : Selection) → s.operation = s'.operation → s = s'
  | .field name selections, .field name' selections', h => by
      obtain ⟨-, rfl, -, -, hbelow⟩ := OperationSelection.field.inj h
      rw [eq_of_operationsOf_eq selections selections' hbelow]
  | .inlineOn type selections, .inlineOn type' selections', h => by
      obtain ⟨htype, -, hbelow⟩ := OperationSelection.inlineOn.inj h
      rw [Option.some.inj htype, eq_of_operationsOf_eq selections selections' hbelow]
  | .field _ _, .inlineOn _ _, h => OperationSelection.noConfusion h
  | .inlineOn _ _, .field _ _, h => OperationSelection.noConfusion h

theorem eq_of_operationsOf_eq : (selections selections' : List Selection) →
    operationsOf selections = operationsOf selections' → selections = selections'
  | [], [], _ => rfl
  | s :: rest, s' :: rest', h => by
      obtain ⟨hfirst, hrest⟩ := List.cons.inj h
      rw [s.eq_of_operation_eq s' hfirst, eq_of_operationsOf_eq rest rest' hrest]
  | [], _ :: _, h => absurd h (List.cons_ne_nil _ _).symm
  | _ :: _, [], h => absurd h (List.cons_ne_nil _ _)

end

/-- **A document is told by what is read of it.** -/
theorem Fragment.eq_of_definition_eq {f g : Fragment} (h : f.definition = g.definition) : f = g := by
  obtain ⟨name, type, selections⟩ := f
  obtain ⟨name', type', selections'⟩ := g
  obtain ⟨rfl, rfl, -, hselections⟩ := Definition.fragment.inj h
  rw [eq_of_operationsOf_eq selections selections' hselections]

/-! ## No selection set is empty -/

mutual

/-- No selection set in a selection is empty. A bare field has none. -/
def Selection.Filled : Selection → Prop
  | .field _ selections => FilledAll selections
  | .inlineOn _ selections => selections ≠ [] ∧ FilledAll selections

/-- No selection set in selections is empty. -/
def FilledAll : List Selection → Prop
  | [] => True
  | s :: rest => s.Filled ∧ FilledAll rest

end

/-- No selection set of a document is empty. -/
def Fragment.Filled (f : Fragment) : Prop := f.selections ≠ [] ∧ FilledAll f.selections

theorem filledAll_map {α : Type} {f : α → Selection} (h : ∀ a, (f a).Filled) (as : List α) :
    FilledAll (as.map f) := by
  induction as with
  | nil => trivial
  | cons a _ ih => exact ⟨h a, ih⟩

theorem filled_bare (name : String) : (Selection.bare name).Filled := trivial

namespace Selection

/-- The fallback keeps a selection set from being empty. -/
theorem orTypename_ne_nil (selections : List Selection) : orTypename selections ≠ [] := by
  unfold orTypename
  split
  · exact List.cons_ne_nil _ _
  · rename_i h
    exact fun hnil => h (List.isEmpty_iff.mpr hnil)

theorem filledAll_orTypename {selections : List Selection} (h : FilledAll selections) :
    FilledAll (orTypename selections) := by
  unfold orTypename
  split
  · exact ⟨filled_bare _, trivial⟩
  · exact h

end Selection

/-! ## The readers on the lexemes of a document -/

/-- Whether a set of selections goes on with the lexeme, behind a selection: with another one or to its end. -/
def Sdl.Lexeme.continuesSet : Lexeme → Bool
  | .name _ => true
  | .punctuator .spread => true
  | .punctuator .braceClose => true
  | _ => false

theorem ne_of_continuesSet {l l' : Lexeme} (h : l.continuesSet = true) (h' : l'.continuesSet = false) : l ≠ l' := by
  rintro rfl
  exact absurd (h.symm.trans h') Bool.noConfusion

theorem isSound_of_continuesSet {l : Lexeme} (h : l.continuesSet = true) : l.isSound = true := by
  cases l with
  | broken _ => exact absurd h Bool.noConfusion
  | _ => rfl

/-- A selection begins like one, not like the end of a set. -/
theorem Selection.exists_lexemes_eq (s : Selection) :
    ∃ l ls, s.lexemes = l :: ls ∧ l.continuesSet = true ∧ l ≠ .punctuator .braceClose := by
  cases s with
  | field name selections =>
      cases selections with
      | nil => exact ⟨.name name, _, rfl, rfl, Lexeme.noConfusion⟩
      | cons _ _ => exact ⟨.name name, _, rfl, rfl, Lexeme.noConfusion⟩
  | inlineOn type selections => exact ⟨.punctuator .spread, _, rfl, rfl, by decide⟩

theorem Selection.length_lexemes_pos (s : Selection) : 0 < s.lexemes.length := by
  obtain ⟨l, ls, hs, -⟩ := s.exists_lexemes_eq
  rw [hs]
  exact Nat.succ_pos _

theorem length_inBraces (ls : List Lexeme) : (inBraces ls).length = ls.length + 2 := by
  rw [inBraces, List.length_cons, List.length_append]
  rfl

section Readers

open Reader

/-- A field without alias, arguments and directives: what stands behind its name decides whether it is bare. -/
theorem runs_field {levels : Nat} {below : Reader (List OperationSelection)} {name : String} {l : Lexeme}
    {ls behind : List Lexeme} {selections : List OperationSelection} (sound : l.isSound = true)
    (noAlias : l ≠ .punctuator .colon) (noArguments : l ≠ .punctuator .parenOpen)
    (noDirectives : l ≠ .punctuator .atSign)
    (h : Runs (if l = .punctuator .braceOpen then below else pure []) (l :: ls) selections behind) :
    Runs (selection levels below) (.name name :: l :: ls) (.field none name [] [] selections) behind := by
  refine .bind (.stay Lexeme.noConfusion) ?_
  refine .bind (.name sound) ?_
  refine .bind (.stay noAlias) ?_
  refine .bind .pure ?_
  refine .bind (.noArguments noArguments) ?_
  refine .bind (.noDirectives noDirectives) ?_
  refine .bind .at? ?_
  by_cases hopen : l = .punctuator .braceOpen
  · rw [if_pos hopen] at h
    rw [decide_eq_true hopen]
    exact .bind h .pure
  · rw [if_neg hopen] at h
    rw [decide_eq_false hopen]
    exact .bind h .pure

/-- The selections of a set are read to its end, in front of `next`, if there are levels and fuel for all their
    lexemes. -/
def ReadAsItems (selections : List Selection) (next : Lexeme) : Prop :=
  ∀ (rest : List Lexeme) (levels fuel : Nat), (lexemesOf selections).length ≤ levels →
    (lexemesOf selections).length ≤ fuel →
    Runs (itemsUntil .braceClose (selection levels (filledSelections levels)) fuel)
      (lexemesOf selections ++ .punctuator .braceClose :: next :: rest) (operationsOf selections) (next :: rest)

/-- **A set is read** if its selections are, which have a level less. -/
theorem ReadAsItems.runs_set {selections : List Selection} {next : Lexeme} {rest : List Lexeme} {levels : Nat}
    (items : ReadAsItems selections next) (hne : selections ≠ []) (hlevels : (lexemesOf selections).length < levels) :
    Runs (filledSelections levels) (inBraces (lexemesOf selections) ++ next :: rest) (operationsOf selections)
      (next :: rest) := by
  obtain ⟨levels, rfl⟩ : ∃ n, levels = n + 1 := Nat.exists_eq_succ_of_ne_zero (Nat.ne_zero_of_lt hlevels)
  cases selections with
  | nil => exact absurd rfl hne
  | cons s ss =>
      obtain ⟨l, ls, hs, hl, -⟩ := s.exists_lexemes_eq
      have hitems := items rest levels
      rw [lexemesOf, hs] at hitems hlevels ⊢
      simp only [inBraces, List.cons_append, List.append_assoc, List.nil_append] at hitems ⊢
      -- The room before a set counts every lexeme left, so it is fuel enough for those of the set.
      refine .many (isSound_of_continuesSet hl) (hitems _ (Nat.le_of_lt_succ hlevels) ?_)
      simp only [List.length_cons, List.length_append]
      omega

mutual

/-- **A selection is read** as it is, whatever the set goes on with. -/
theorem Selection.runs : (s : Selection) → s.Filled → ∀ {levels : Nat} {next : Lexeme} {rest : List Lexeme},
    s.lexemes.length ≤ levels → next.continuesSet = true →
    Runs (selection levels (filledSelections levels)) (s.lexemes ++ next :: rest) s.operation (next :: rest)
  | .field name [], _, _, _, _, _, hnext => by
      have hother {l : Lexeme} (h : l.continuesSet = false) := ne_of_continuesSet hnext h
      refine runs_field (isSound_of_continuesSet hnext) (hother rfl) (hother rfl) (hother rfl) ?_
      rw [if_neg (hother rfl)]
      exact .pure
  | .field name (s :: ss), h, _, _, _, hlevels, hnext => by
      have items := readAsItems (s :: ss) (List.cons_ne_nil s ss) h (isSound_of_continuesSet hnext)
      refine runs_field rfl (by decide) (by decide) (by decide) ?_
      rw [if_pos rfl]
      refine items.runs_set (List.cons_ne_nil s ss) ?_
      rw [Selection.lexemes, List.length_cons, length_inBraces] at hlevels
      omega
  | .inlineOn type selections, h, _, _, _, hlevels, hnext => by
      have sound := isSound_of_continuesSet hnext
      refine .bind (.skip rfl) ?_
      refine .bind (.skipWord rfl) ?_
      refine .bind .lexeme ?_
      refine .bind (.map (.name rfl)) ?_
      refine .bind (.noDirectives (by decide)) ?_
      refine .bind ((readAsItems selections h.1 h.2 sound).runs_set h.1 ?_) .pure
      rw [Selection.lexemes, List.length_cons, List.length_cons, List.length_cons, length_inBraces] at hlevels
      omega

/-- **Selections are read** one after the other. -/
theorem readAsItems : (selections : List Selection) → selections ≠ [] → FilledAll selections →
    ∀ {next : Lexeme}, next.isSound = true → ReadAsItems selections next
  | [], hne, _, _, _ => absurd rfl hne
  | [s], _, h, _, sound => by
      intro rest levels fuel hlevels hfuel
      have hs := s.length_lexemes_pos
      rw [lexemesOf, lexemesOf, List.append_nil] at hlevels hfuel ⊢
      obtain ⟨fuel, rfl⟩ : ∃ n, fuel = n + 1 := Nat.exists_eq_succ_of_ne_zero (by omega)
      exact .itemsUntil_last (s.runs h.1 hlevels rfl) sound
  | s :: s' :: ss, _, h, next, sound => by
      intro rest levels fuel hlevels hfuel
      have hs := s.length_lexemes_pos
      rw [lexemesOf, List.length_append] at hlevels hfuel
      obtain ⟨fuel, rfl⟩ : ∃ n, fuel = n + 1 := Nat.exists_eq_succ_of_ne_zero (by omega)
      have hlevels' : (lexemesOf (s' :: ss)).length ≤ levels := by omega
      have hfuel' : (lexemesOf (s' :: ss)).length ≤ fuel := by omega
      obtain ⟨l, ls, hs', hl, hne⟩ := s'.exists_lexemes_eq
      have hsplit : lexemesOf (s' :: ss) = l :: (ls ++ lexemesOf ss) := by rw [lexemesOf, hs', List.cons_append]
      -- What follows is a selection: it neither goes on with the one before it nor closes the set.
      rw [lexemesOf, hsplit, List.append_assoc, List.cons_append]
      refine .itemsUntil_cons (s.runs h.1 (by omega) hl) hne ?_
      rw [← List.cons_append, ← hsplit]
      exact readAsItems (s' :: ss) (List.cons_ne_nil _ _) h.2 sound rest levels fuel hlevels' hfuel'

end

/-- **A document is read** from its lexemes. -/
theorem Fragment.runs {f : Fragment} (filled : f.Filled) (hname : f.name ≠ "on") :
    Runs loneFragment (f.lexemes ++ [.ending]) f.definition [.ending] := by
  refine .bind .room ?_
  refine .bind (.expectWord rfl) ?_
  refine .bind (.fragmentName hname rfl) ?_
  refine .bind (.expectWord rfl) ?_
  refine .bind (.name rfl) ?_
  refine .bind (.noDirectives (by decide)) ?_
  refine .bind ((readAsItems f.selections filled.1 filled.2 rfl).runs_set filled.1 ?_) ?_
  · simp only [Fragment.lexemes, List.length_append, List.length_cons, length_inBraces]
    omega
  · exact .bind .lexeme .pure

end Readers

/-- A text is read as the document of which it has the tokens. -/
theorem Fragment.parseFragment_of_lexemes {f : Fragment} {cs : List Char} (filled : f.Filled)
    (hname : f.name ≠ "on") (h : (tokens cs).map (·.lexeme) = f.lexemes ++ [.ending]) :
    parseFragment cs = .ok f.definition := by
  obtain ⟨start, hstart, hlexemes⟩ := Cursor.lexemes_ofTokens h rfl
  obtain ⟨behind, hrun, -⟩ := f.runs filled hname start hlexemes
  unfold parseFragment
  rw [hstart]
  change (Reader.loneFragment start >>= fun p => .ok p.1) = _
  rw [hrun]
  rfl

/-- **A printed document reads back as itself.** -/
theorem Fragment.parseFragment_print {f : Fragment} (filled : f.Filled) (names : ∀ n ∈ f.names, isName n = true)
    (hname : f.name ≠ "on") : parseFragment f.print.toList = .ok f.definition :=
  parseFragment_of_lexemes filled hname (f.lexemes_tokens_print names)

/-! ## Built documents -/

theorem Schema.Nesting.filled_selection (n : Nesting) (key : String) {below : List Selection}
    (h : FilledAll below) : (n.selection key below).Filled := by
  unfold selection
  cases n.concrete with
  | none => exact Selection.filledAll_orTypename h
  | some concrete => exact ⟨⟨Selection.orTypename_ne_nil below, Selection.filledAll_orTypename h⟩, trivial⟩

/-- The builder that is guided by a schema leaves no selection set empty. -/
theorem Schema.filledAll_selectionsOf (s : Schema) (room : Nat) (visited : List String) (fields : List Field)
    (entries : Entries) : FilledAll (s.selectionsOf room visited fields entries) := by
  induction room generalizing visited fields entries with
  | zero =>
      rw [selectionsOf_eq]
      refine filledAll_map (fun e => ?_) _
      unfold fieldSelection
      split
      · exact filled_bare e.1
      · exact filled_bare e.1
  | succ room ih =>
      rw [selectionsOf_eq]
      refine filledAll_map (fun e => ?_) _
      unfold fieldSelection
      split
      · exact filled_bare e.1
      · rename_i n _
        dsimp only
        split
        · exact filled_bare e.1
        · exact n.filled_selection e.1 (ih _ _ _)

/-- The builder that goes by the shape alone leaves no selection set empty: a nested object without a selected
    key makes its field bare. -/
theorem filledAll_shapeSelections (room : Nat) (entries : Entries) : FilledAll (shapeSelections room entries) := by
  induction room generalizing entries with
  | zero =>
      rw [shapeSelections]
      refine filledAll_map (fun e => ?_) _
      split
      · exact filled_bare e.1
      · exact filled_bare e.1
  | succ room ih =>
      rw [shapeSelections]
      refine filledAll_map (fun e => ?_) _
      split
      · exact filled_bare e.1
      · exact ih _

/-- The documents that the builders return: for a value of a type of a schema, or for a raw record by its
    shape. -/
inductive Fragment.Built : Fragment → Prop
  | guided (s : Schema) (type : String) (value : Entries) (fragment : String) (maxDepth : Int) :
      Built (s.selectionDocument type value fragment maxDepth)
  | shaped {type : String} {record : Entries} {maxDepth : Int} {f : Fragment}
      (h : shapeDocument? type record maxDepth = some f) : Built f

/-- **No selection set of a built document is empty.** -/
theorem Fragment.Built.filled {f : Fragment} (built : f.Built) : f.Filled := by
  cases built with
  | guided s type value fragment maxDepth =>
      refine ⟨Selection.orTypename_ne_nil _, Selection.filledAll_orTypename ?_⟩
      split
      · trivial
      · exact s.filledAll_selectionsOf _ _ _ _
  | @shaped type record maxDepth _ h =>
      unfold shapeDocument? at h
      dsimp only at h
      split at h
      · exact absurd h (Option.some_ne_none _).symm
      · rename_i hne
        cases h
        exact ⟨fun hnil => hne (List.isEmpty_iff.mpr hnil), filledAll_shapeSelections _ _⟩

/-- **A built document reads back.** Whatever it is built from, if its names are names and its own is not the
    keyword `on`, then no selection set is empty, its text reads as its name, its type and its selections, and
    no other document has that text. -/
theorem Fragment.built_document_reads_back {f : Fragment} (built : f.Built)
    (names : ∀ n ∈ f.names, isName n = true) (hname : f.name ≠ "on") :
    f.Filled ∧ parseFragment f.print.toList = .ok f.definition ∧
      ∀ g : Fragment, g.Filled → (∀ n ∈ g.names, isName n = true) → g.name ≠ "on" → g.print = f.print → g = f := by
  have hread := parseFragment_print built.filled names hname
  refine ⟨built.filled, hread, fun g filled names' hname' hprint => ?_⟩
  have hread' := parseFragment_print filled names' hname'
  rw [hprint, hread] at hread'
  exact (eq_of_definition_eq (Except.ok.inj hread')).symm

/-- A document in which keywords are names: its own and those of two fields. -/
def keywordShelf : Fragment :=
  Shelf.schema.selectionDocument "Shelf"
    [("item", .obj [("__typename", .str "Box"), ("on", .null)]), ("fragment", .null)] "fragment" 3

/-- What such a document prints, and that it reads back. -/
theorem keywordShelf_reads_back :
    keywordShelf.Built ∧ (∀ n ∈ keywordShelf.names, isName n = true) ∧ keywordShelf.name ≠ "on" ∧
    keywordShelf.print =
      "fragment fragment on Shelf \x7b\n  item \x7b\n    ... on Box \x7b\n      on\n    \x7d\n" ++
        "  \x7d\n  fragment\n\x7d" ∧
    parseFragment keywordShelf.print.toList = .ok keywordShelf.definition := by
  have built : keywordShelf.Built := .guided _ _ _ _ _
  have names : ∀ n ∈ keywordShelf.names, isName n = true := by decide +kernel
  have hname : keywordShelf.name ≠ "on" := by decide
  exact ⟨built, names, hname, by decide +kernel, (Fragment.built_document_reads_back built names hname).2.1⟩

end GraphQLCache
