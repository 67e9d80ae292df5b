import GraphQLCache.Sdl.Lexer
import GraphQLCache.Selection.Printer

/-!
# `Proofs.DocumentTokens` — the tokens of a printed document

`Selection.lexemes` lists the lexemes that a selection stands for, and `Spelt` says that a text spells a list of
lexemes: names, braces and spreads one after the other, with separators anywhere except inside a name, and
names apart from each other. A printed selection spells its lexemes whatever its depth, because indentation
only adds separators behind line ends (`Spelt.indentLines`) and names hold no line end.

A key is also accepted as a name with a line end behind it. Printed, the line end separates, so that what is
spelt is the selection with all names *settled*, each without the line end (`Selection.spelt_print`).

The lexer reads off just the lexemes that are spelt (`lexemes_tokens`), so `Fragment.lexemes_tokens_print` gives
the tokens of any printed document whose names are names, and `Fragment.lexemes_tokens_settled` of any whose
names are accepted.
-/

namespace GraphQLCache

open Sdl

/-! ## Lexemes -/

/-- Lexemes in braces. -/
def inBraces (ls : List Lexeme) : List Lexeme :=
  .punctuator .braceOpen :: (ls ++ [.punctuator .braceClose])

mutual

/-- The lexemes of a selection. -/
def Selection.lexemes : Selection → List Lexeme
  | .field name [] => [.name name]
  | .field name (s :: rest) => .name name :: inBraces (lexemesOf (s :: rest))
  | .inlineOn type selections =>
    .punctuator .spread :: .name "on" :: .name type :: inBraces (lexemesOf selections)

/-- The lexemes of selections one after the other. -/
def lexemesOf : List Selection → List Lexeme
  | [] => []
  | s :: rest => s.lexemes ++ lexemesOf rest

end

mutual

/-- The names in a selection: of fields and of the types of inline fragments, at every level. -/
def Selection.names : Selection → List String
  | .field name selections => name :: namesOf selections
  | .inlineOn type selections => type :: namesOf selections

/-- The names in selections. -/
def namesOf : List Selection → List String
  | [] => []
  | s :: rest => s.names ++ namesOf rest

end

/-- The lexemes of a document. -/
def Fragment.lexemes (f : Fragment) : List Lexeme :=
  .name "fragment" :: .name f.name :: .name "on" :: .name f.type :: inBraces (lexemesOf f.selections)

/-- The names in a document: its own, that of its type and those of its selections at every level. -/
def Fragment.names (f : Fragment) : List String := f.name :: f.type :: namesOf f.selections

/-! ## Names with a line end -/

/-- The name that an accepted key gives: the key without the line end behind it, if there is one. -/
def keyName (key : String) : String := if isName key then key else String.ofList key.toList.dropLast

theorem keyName_of_isName {key : String} (h : isName key = true) : keyName key = key := if_pos h

/-- **An accepted key** is its name, or its name with a line end. -/
theorem key_cases {key : String} (h : isAcceptedName key = true) :
    isName (keyName key) = true ∧
      (key.toList = (keyName key).toList ∨ key.toList = (keyName key).toList ++ ['\n']) := by
  unfold keyName
  by_cases hname : isName key = true
  · rw [if_pos hname]
    exact ⟨hname, Or.inl rfl⟩
  · obtain ⟨hlast, hchars⟩ := Bool.and_eq_true_iff.mp ((Bool.or_eq_true_iff.mp h).resolve_left hname)
    obtain ⟨chars, heq⟩ := List.getLast?_eq_some_iff.mp (of_decide_eq_true hlast)
    rw [if_neg hname, isName, String.toList_ofList]
    refine ⟨hchars, Or.inr ?_⟩
    rw [heq, List.dropLast_concat]

mutual

/-- A selection with all its names settled. -/
def Selection.settled : Selection → Selection
  | .field name selections => .field (keyName name) (settledAll selections)
  | .inlineOn type selections => .inlineOn (keyName type) (settledAll selections)

/-- Selections with all their names settled. -/
def settledAll : List Selection → List Selection
  | [] => []
  | s :: rest => s.settled :: settledAll rest

end

/-- A document with all its names settled. -/
def Fragment.settled (f : Fragment) : Fragment := ⟨keyName f.name, keyName f.type, settledAll f.selections⟩

mutual

/-- What has names only is settled as it is. -/
theorem Selection.settled_of_isName : (s : Selection) → (∀ n ∈ s.names, isName n = true) → s.settled = s
  | .field name selections, h => by
      rw [Selection.settled, keyName_of_isName (h name List.mem_cons_self),
        settledAll_of_isName selections fun n hn => h n (List.mem_cons_of_mem _ hn)]
  | .inlineOn type selections, h => by
      rw [Selection.settled, keyName_of_isName (h type List.mem_cons_self),
        settledAll_of_isName selections fun n hn => h n (List.mem_cons_of_mem _ hn)]

theorem settledAll_of_isName : (selections : List Selection) → (∀ n ∈ namesOf selections, isName n = true) →
    settledAll selections = selections
  | [], _ => rfl
  | s :: rest, h => by
      rw [settledAll, s.settled_of_isName fun n hn => h n (List.mem_append_left _ hn),
        settledAll_of_isName rest fun n hn => h n (List.mem_append_right _ hn)]

end

theorem Fragment.settled_of_isName {f : Fragment} (h : ∀ n ∈ f.names, isName n = true) : f.settled = f := by
  have hset := settledAll_of_isName f.selections fun n hn =>
    h n (List.mem_cons_of_mem _ (List.mem_cons_of_mem _ hn))
  rw [settled, keyName_of_isName (h f.name List.mem_cons_self),
    keyName_of_isName (h f.type (List.mem_cons_of_mem _ List.mem_cons_self)), hset]

/-! ## Texts that spell lexemes -/

/-- No name goes on at the beginning of the text. -/
def EndsName (cs : List Char) : Prop := ∀ c, cs.head? = some c → isNameRest c = false

/-- **A text spells lexemes**: separators, braces, spreads, and names that end where they seem to. -/
inductive Spelt : List Lexeme → List Char → Prop
  | nil : Spelt [] []
  | separator {ls c cs} (separates : isSeparator c = true) (rest : Spelt ls cs) : Spelt ls (c :: cs)
  | opening {ls cs} (rest : Spelt ls cs) : Spelt (.punctuator .braceOpen :: ls) ('\x7b' :: cs)
  | closing {ls cs} (rest : Spelt ls cs) : Spelt (.punctuator .braceClose :: ls) ('\x7d' :: cs)
  | spread {ls cs} (rest : Spelt ls cs) : Spelt (.punctuator .spread :: ls) ('.' :: '.' :: '.' :: cs)
  | name {ls word cs} (isWord : isNameChars word = true) (ends : EndsName cs) (rest : Spelt ls cs) :
      Spelt (.name (String.ofList word) :: ls) (word ++ cs)

theorem EndsName.cons {c : Char} (h : isNameRest c = false) (cs : List Char) : EndsName (c :: cs) := by
  intro d hd
  cases hd
  exact h

namespace Spelt

variable {ls ls' : List Lexeme} {cs cs' : List Char}

theorem blank (h : Spelt ls cs) : Spelt ls (' ' :: cs) := .separator (by decide) h

theorem lineEnd (h : Spelt ls cs) : Spelt ls ('\n' :: cs) := .separator (by decide) h

/-- **An accepted key spells its name**, and the line end that it may have separates. -/
theorem key {key : String} (accepted : isAcceptedName key = true) (ends : EndsName cs) (h : Spelt ls cs) :
    Spelt (.name (keyName key) :: ls) (key.toList ++ cs) := by
  obtain ⟨isWord, hkey | hkey⟩ := key_cases accepted
  · have hname := Spelt.name isWord ends h
    rwa [String.ofList_toList, ← hkey] at hname
  · have hname := Spelt.name isWord (.cons (by decide) cs) h.lineEnd
    rw [hkey, List.append_assoc]
    rwa [String.ofList_toList] at hname

/-- A key in front of a blank. -/
theorem keyBlank {key : String} (accepted : isAcceptedName key = true) (h : Spelt ls cs) :
    Spelt (.name (keyName key) :: ls) (key.toList ++ ' ' :: cs) :=
  .key accepted (.cons (by decide) cs) h.blank

/-- **Two texts in a row** spell their lexemes in a row, if no name runs on into the second text. -/
theorem append (h : Spelt ls cs) (h' : Spelt ls' cs') (ends : EndsName cs') :
    Spelt (ls ++ ls') (cs ++ cs') := by
  induction h with
  | nil => exact h'
  | separator separates _ ih => exact .separator separates ih
  | opening _ ih => exact .opening ih
  | closing _ ih => exact .closing ih
  | spread _ ih => exact .spread ih
  | @name ls word cs isWord hends _ ih =>
      rw [List.append_assoc]
      refine .name isWord ?_ ih
      cases cs with
      | nil => exact ends
      | cons c rest => exact .cons (hends c rfl) _

/-- A character that may stand in a name ends no line. -/
theorem ne_lineEnd {c : Char} (h : isNameRest c = true) : c ≠ '\n' := by
  rintro rfl
  exact absurd h (by decide)

theorem all_isNameRest {word : List Char} (h : isNameChars word = true) :
    ∀ c ∈ word, isNameRest c = true := by
  cases word with
  | nil => exact absurd h Bool.noConfusion
  | cons c rest =>
      obtain ⟨hstart, hrest⟩ := Bool.and_eq_true_iff.mp h
      intro d hd
      rcases List.mem_cons.mp hd with rfl | hmem
      · rcases Bool.or_eq_true_iff.mp hstart with hunder | halpha
        · rw [isNameRest, hunder, Bool.true_or]
        · rw [isNameRest, Char.isAlphanum, halpha, Bool.true_or, Bool.or_true]
      · exact List.all_eq_true.mp hrest d hmem

/-- Indentation leaves a name as it is. -/
theorem indentLines_name {word : List Char} (h : isNameChars word = true) (cs : List Char) :
    indentLines (word ++ cs) = word ++ indentLines cs := by
  have hword : ∀ cs : List Char, (∀ c ∈ cs, isNameRest c = true) → GraphQLCache.indentLines cs = cs := by
    intro cs
    induction cs with
    | nil => exact fun _ => rfl
    | cons c rest ih =>
        intro hall
        have hne := ne_lineEnd (hall c List.mem_cons_self)
        have hrest := ih fun d hd => hall d (List.mem_cons_of_mem _ hd)
        unfold GraphQLCache.indentLines at hrest ⊢
        rw [List.flatMap_cons, if_neg hne, hrest, List.singleton_append]
  unfold GraphQLCache.indentLines
  rw [List.flatMap_append]
  exact congrArg (· ++ _) (hword word (all_isNameRest h))

/-- Indentation changes no first character. -/
theorem endsName_indentLines (h : EndsName cs) : EndsName (indentLines cs) := by
  cases cs with
  | nil => exact h
  | cons c rest =>
      unfold indentLines
      rw [List.flatMap_cons]
      split
      · exact .cons (by decide) _
      · exact .cons (h c rfl) _

/-- **Indentation does not change what is spelt.** -/
theorem indentLines (h : Spelt ls cs) : Spelt ls (indentLines cs) := by
  induction h with
  | nil => exact .nil
  | @separator ls c cs separates _ ih =>
      unfold GraphQLCache.indentLines at ih ⊢
      rw [List.flatMap_cons]
      split
      · exact ih.blank.blank.lineEnd
      · exact .separator separates ih
  | opening _ ih => exact .opening ih
  | closing _ ih => exact .closing ih
  | spread _ ih => exact .spread ih
  | name isWord ends _ ih =>
      rw [indentLines_name isWord]
      exact .name isWord (endsName_indentLines ends) ih

/-- A block spells its content in braces. -/
theorem bracedBlock (h : Spelt ls cs) : Spelt (inBraces ls) (bracedBlock cs) := by
  have hclose : Spelt [.punctuator .braceClose] ['\n', '\x7d'] := (Spelt.closing .nil).lineEnd
  have hinner := h.indentLines.append hclose (.cons (by decide) _)
  exact .opening hinner.blank.blank.lineEnd

end Spelt

/-! ## Printed documents spell their lexemes -/

/-- The word in front of the type of a fragment. -/
theorem Spelt.onBlank {ls : List Lexeme} {cs : List Char} (h : Spelt ls cs) :
    Spelt (.name "on" :: ls) ('o' :: 'n' :: ' ' :: cs) :=
  .keyBlank (by decide : isAcceptedName "on" = true) h

mutual

/-- **A printed selection** spells its lexemes, with its names settled. -/
theorem Selection.spelt_print : (s : Selection) → (∀ n ∈ s.names, isAcceptedName n = true) →
    Spelt s.settled.lexemes s.print
  | .field name [], h => by
      have ends : EndsName [] := fun _ hc => nomatch hc
      have hname := Spelt.key (h name List.mem_cons_self) ends .nil
      rwa [List.append_nil] at hname
  | .field name (s :: rest), h => by
      have hbelow := spelt_printSelections (s :: rest) fun n hn => h n (List.mem_cons_of_mem _ hn)
      exact .keyBlank (h name List.mem_cons_self) hbelow.bracedBlock
  | .inlineOn type selections, h => by
      have hbelow := spelt_printSelections selections fun n hn => h n (List.mem_cons_of_mem _ hn)
      have htype := Spelt.keyBlank (h type List.mem_cons_self) hbelow.bracedBlock
      exact .spread htype.onBlank.blank

/-- **Printed selections** spell their lexemes one after the other. -/
theorem spelt_printSelections : (selections : List Selection) →
    (∀ n ∈ namesOf selections, isAcceptedName n = true) →
    Spelt (lexemesOf (settledAll selections)) (printSelections selections)
  | [], _ => .nil
  | [s], h => by
      rw [settledAll, settledAll, lexemesOf, lexemesOf, List.append_nil, printSelections]
      exact s.spelt_print fun n hn => h n (List.mem_append_left _ hn)
  | s :: s' :: rest, h => by
      have hfirst := s.spelt_print fun n hn => h n (List.mem_append_left _ hn)
      have hothers := spelt_printSelections (s' :: rest) fun n hn => h n (List.mem_append_right _ hn)
      rw [settledAll, lexemesOf]
      exact hfirst.append hothers.lineEnd (.cons (by decide) _)

end

/-- **A printed document** spells its lexemes, with its names settled. -/
theorem Fragment.spelt_print {f : Fragment} (h : ∀ n ∈ f.names, isAcceptedName n = true) :
    Spelt f.settled.lexemes f.print.toList := by
  have hset := spelt_printSelections f.selections fun n hn =>
    h n (List.mem_cons_of_mem _ (List.mem_cons_of_mem _ hn))
  have htype := Spelt.keyBlank (h f.type (List.mem_cons_of_mem _ List.mem_cons_self)) hset.bracedBlock
  have hname := Spelt.keyBlank (h f.name List.mem_cons_self) htype.onBlank
  have hprint : f.print.toList = "fragment ".toList ++ (f.name.toList ++ (" on ".toList ++
      (f.type.toList ++ ' ' :: bracedBlock (printSelections f.selections)))) := by
    unfold Fragment.print
    simp only [String.toList_ofList, List.append_assoc]
  rw [hprint]
  exact Spelt.keyBlank (by decide : isAcceptedName "fragment" = true) hname

/-! ## The lexer -/

namespace Sdl

variable {c : Char} {cs word : List Char} {ls : List Lexeme} {fuel : Nat}

theorem skipSeparators_separator (h : isSeparator c = true) (cs : List Char) :
    skipSeparators false (c :: cs) = skipSeparators false cs := by
  have hcomment : c ≠ '#' := by
    rintro rfl
    exact absurd h (by decide)
  rw [skipSeparators, if_neg Bool.false_ne_true, if_neg hcomment, if_pos h]

/-- A character that begins a name is none of those that the lexer treats otherwise. -/
theorem ne_of_isNameStart (h : isNameStart c = true) {d : Char} (hd : isNameStart d = false) : c ≠ d := by
  rintro rfl
  exact absurd (h.symm.trans hd) Bool.noConfusion

theorem skipSeparators_name (h : isNameStart c = true) (cs : List Char) :
    skipSeparators false (c :: cs) = c :: cs := by
  have hseparator : isSeparator c = false := by
    simp only [isSeparator, isLineEnd, ne_of_isNameStart h (d := '\n') (by decide),
      ne_of_isNameStart h (d := '\r') (by decide), ne_of_isNameStart h (d := ' ') (by decide),
      ne_of_isNameStart h (d := '\t') (by decide), ne_of_isNameStart h (d := ',') (by decide),
      ne_of_isNameStart h (d := '\ufeff') (by decide), decide_false, Bool.or_false]
  rw [skipSeparators, if_neg Bool.false_ne_true, if_neg (ne_of_isNameStart h (by decide)), hseparator,
    if_neg Bool.false_ne_true]

/-- No punctuator begins like a name. -/
theorem ofChar?_of_isNameStart (h : isNameStart c = true) : Punctuator.ofChar? c = none := by
  have hsingles : ∀ p ∈ Punctuator.singles, isNameStart p.1 = false := by decide
  refine List.lookup_eq_none_iff.mpr fun p hp => ?_
  exact bne_iff_ne.mpr (ne_of_isNameStart h (hsingles p hp))

/-- No number begins like a name. -/
theorem isDigit_of_isNameStart (h : isNameStart c = true) : (c.isDigit || c = '-') = false := by
  have hminus : c ≠ '-' := ne_of_isNameStart h (by decide)
  rcases Bool.or_eq_true_iff.mp h with hunder | halpha
  · rw [of_decide_eq_true hunder]
    decide
  · change (decide (c.val ≥ 'A'.val ∧ c.val ≤ 'Z'.val) || decide (c.val ≥ 'a'.val) && decide (c.val ≤ 'z'.val)) =
      true at halpha
    simp only [Char.isDigit, hminus, decide_false, Bool.or_false]
    grind

/-- A name is read to its end. -/
theorem readLexeme_name (isWord : isNameChars word = true) (ends : EndsName cs) :
    readLexeme (word ++ cs) = .ok (.name (String.ofList word), cs) := by
  have hrest : ∀ c ∈ word, isNameRest c = true := Spelt.all_isNameRest isWord
  have htake : (word ++ cs).takeWhile isNameRest = word := by
    rw [List.takeWhile_append_of_pos hrest]
    cases cs with
    | nil => rw [List.takeWhile_nil, List.append_nil]
    | cons c rest => rw [List.takeWhile_cons, ends c rfl, if_neg Bool.false_ne_true, List.append_nil]
  have hdrop : (word ++ cs).dropWhile isNameRest = cs := by
    rw [List.dropWhile_append_of_pos hrest]
    cases cs with
    | nil => rfl
    | cons c rest => rw [List.dropWhile_cons, ends c rfl, if_neg Bool.false_ne_true]
  cases word with
  | nil => exact absurd isWord Bool.noConfusion
  | cons c rest =>
      have hstart : isNameStart c = true := (Bool.and_eq_true_iff.mp isWord).1
      rw [List.cons_append] at htake hdrop ⊢
      -- A quote or a point would begin another lexeme, and neither begins a name.
      unfold readLexeme
      split
      · rename_i heq
        exact absurd heq (List.cons_ne_nil _ _)
      · rename_i heq
        exact absurd (List.cons.inj heq).1 (ne_of_isNameStart hstart (by decide))
      · rename_i heq
        exact absurd (List.cons.inj heq).1 (ne_of_isNameStart hstart (by decide))
      · rename_i heq
        exact absurd (List.cons.inj heq).1 (ne_of_isNameStart hstart (by decide))
      · rename_i heq
        obtain ⟨rfl, rfl⟩ := List.cons.inj heq
        simp only [ofChar?_of_isNameStart hstart, isDigit_of_isNameStart hstart, hstart, Bool.false_eq_true,
          if_false, if_true, htake, hdrop]

/-- One step of the lexer, in front of a lexeme that is not the end. -/
theorem tokensFrom_succ {l : Lexeme} {rest : List Char} (hskip : skipSeparators false cs = cs)
    (hread : readLexeme cs = .ok (l, rest)) (hl : l ≠ .ending) (fuel : Nat) :
    tokensFrom (fuel + 1) cs = ⟨l, cs.length⟩ :: tokensFrom fuel rest := by
  rw [tokensFrom]
  simp only [hskip, hread]

/-- One lexeme in front of others that are read with the fuel that is left. -/
theorem lexemes_tokensFrom_cons {l : Lexeme} {rest : List Char} (hskip : skipSeparators false cs = cs)
    (hread : readLexeme cs = .ok (l, rest)) (hl : l ≠ .ending)
    (hrest : ∀ fuel, ls.length < fuel → (tokensFrom fuel rest).map (·.lexeme) = ls ++ [.ending])
    (hfuel : (l :: ls).length < fuel) : (tokensFrom fuel cs).map (·.lexeme) = (l :: ls) ++ [.ending] := by
  obtain ⟨fuel, rfl⟩ : ∃ n, fuel = n + 1 := Nat.exists_eq_succ_of_ne_zero (Nat.ne_zero_of_lt hfuel)
  rw [tokensFrom_succ hskip hread hl, List.map_cons, hrest fuel (Nat.lt_of_succ_lt_succ hfuel), List.cons_append]

/-- **The lexer reads what is spelt**, with more fuel than there are lexemes. -/
theorem lexemes_tokensFrom (h : Spelt ls cs) (hfuel : ls.length < fuel) :
    (tokensFrom fuel cs).map (·.lexeme) = ls ++ [.ending] := by
  induction h generalizing fuel with
  | nil =>
      obtain ⟨fuel, rfl⟩ : ∃ n, fuel = n + 1 := Nat.exists_eq_succ_of_ne_zero (Nat.ne_zero_of_lt hfuel)
      rfl
  | separator separates _ ih =>
      obtain ⟨fuel, rfl⟩ : ∃ n, fuel = n + 1 := Nat.exists_eq_succ_of_ne_zero (Nat.ne_zero_of_lt hfuel)
      have hbehind := ih hfuel
      rw [tokensFrom] at hbehind ⊢
      rw [skipSeparators_separator separates]
      exact hbehind
  | opening _ ih => exact lexemes_tokensFrom_cons rfl rfl Lexeme.noConfusion (fun _ => ih) hfuel
  | closing _ ih => exact lexemes_tokensFrom_cons rfl rfl Lexeme.noConfusion (fun _ => ih) hfuel
  | spread _ ih => exact lexemes_tokensFrom_cons rfl rfl Lexeme.noConfusion (fun _ => ih) hfuel
  | @name ls word cs isWord ends _ ih =>
      have hskip : skipSeparators false (word ++ cs) = word ++ cs := by
        cases word with
        | nil => exact absurd isWord Bool.noConfusion
        | cons c rest => exact skipSeparators_name (Bool.and_eq_true_iff.mp isWord).1 _
      exact lexemes_tokensFrom_cons hskip (readLexeme_name isWord ends) Lexeme.noConfusion (fun _ => ih) hfuel

/-- Every lexeme is spelt with a character at least. -/
theorem length_le_of_spelt (h : Spelt ls cs) : ls.length ≤ cs.length := by
  induction h with
  | nil => exact Nat.le_refl 0
  | separator _ _ ih => exact Nat.le_succ_of_le ih
  | opening _ ih => exact Nat.succ_le_succ ih
  | closing _ ih => exact Nat.succ_le_succ ih
  | spread _ ih => exact Nat.le_succ_of_le (Nat.le_succ_of_le (Nat.succ_le_succ ih))
  | @name ls word cs isWord _ _ ih =>
      have hword : 0 < word.length := by
        cases word with
        | nil => exact absurd isWord Bool.noConfusion
        | cons c rest => exact Nat.succ_pos _
      rw [List.length_cons, List.length_append]
      omega

/-- **The tokens of a text** that spells lexemes are these lexemes and the end. -/
theorem lexemes_tokens (h : Spelt ls cs) : (tokens cs).map (·.lexeme) = ls ++ [.ending] :=
  lexemes_tokensFrom h (Nat.lt_succ_of_le (length_le_of_spelt h))

end Sdl

/-- **The tokens of a printed document** are its lexemes and the end, with all names settled. -/
theorem Fragment.lexemes_tokens_settled {f : Fragment} (h : ∀ n ∈ f.names, isAcceptedName n = true) :
    (tokens f.print.toList).map (·.lexeme) = f.settled.lexemes ++ [.ending] :=
  lexemes_tokens (f.spelt_print h)

/-- Names are settled as they are. -/
theorem Fragment.lexemes_tokens_print {f : Fragment} (h : ∀ n ∈ f.names, isName n = true) :
    (tokens f.print.toList).map (·.lexeme) = f.lexemes ++ [.ending] := by
  have accepted : ∀ n ∈ f.names, isAcceptedName n = true := fun n hn => Bool.or_eq_true_iff.mpr (Or.inl (h n hn))
  rw [f.lexemes_tokens_settled accepted, f.settled_of_isName h]

end GraphQLCache
