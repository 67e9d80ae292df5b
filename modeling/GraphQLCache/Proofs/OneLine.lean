import GraphQLCache.Text.Blank
import Mathlib.Data.List.Chain
import Mathlib.Data.List.Infix

/-!
# `Proofs.OneLine` — a text that fits one line of a table

A text is one-spaced if its blanks are single spaces between other characters (`OneSpaced`). To collapse a text is
to join its words (`exists_spread`), which makes it one-spaced, and leaves alone what is one-spaced already
(`OneSpaced.collapse_eq`).

`fitLine` cuts a collapsed text. The cut may fall right behind a space, but then the first of the dots follows, so
the text is one-spaced again (`OneSpaced.cut`), and to fit it a second time changes nothing.
-/

namespace GraphQLCache

namespace Text

variable {cs w rest current : List Char} {ws : List (List Char)} {c : Char} {limit : Int}

/-! ## The words of a text -/

/-- A word: characters that are not blank, at least one. -/
structure IsWord (w : List Char) : Prop where
  proper : w ≠ []
  solid : ∀ c ∈ w, isBlank c = false

/-- **A text and its words**: the words in order, with blanks before, between and behind them. A word goes on as
    long as no blank follows. -/
inductive Spread : List (List Char) → List Char → Prop
  | blanks {gap : List Char} (blank : ∀ c ∈ gap, isBlank c = true) : Spread [] gap
  | word {gap w rest : List Char} {ws : List (List Char)} (blank : ∀ c ∈ gap, isBlank c = true) (word : IsWord w)
      (ended : ∀ c ∈ rest.head?, isBlank c = true) (others : Spread ws rest) : Spread (w :: ws) (gap ++ w ++ rest)

/-- One more blank in front leaves the words. -/
theorem Spread.cons (h : Spread ws cs) (hc : isBlank c = true) : Spread ws (c :: cs) := by
  have extend : ∀ {gap : List Char}, (∀ d ∈ gap, isBlank d = true) → ∀ d ∈ c :: gap, isBlank d = true := by
    intro gap hgap d hd
    rcases List.mem_cons.mp hd with rfl | hmem
    · exact hc
    · exact hgap d hmem
  cases h with
  | blanks blank => exact .blanks (extend blank)
  | word blank word ended others => exact .word (extend blank) word ended others

/-- A word at the very beginning. -/
theorem Spread.wordFirst (h : Spread ws rest) (hw : IsWord w) (ended : ∀ c ∈ rest.head?, isBlank c = true) :
    Spread (w :: ws) (w ++ rest) := by
  have hnone : ∀ c ∈ ([] : List Char), isBlank c = true := by simp
  exact .word hnone hw ended h

theorem Spread.isWord (h : Spread ws cs) : ∀ w ∈ ws, IsWord w := by
  induction h with
  | blanks _ => simp
  | word _ word _ _ ih =>
      intro w hw
      rcases List.mem_cons.mp hw with rfl | hmem
      · exact word
      · exact ih w hmem

/-- What has been read of a word is a word, if it is anything at all. -/
theorem isWord_reverse (solid : ∀ c ∈ current, isBlank c = false) (hsome : current ≠ []) :
    IsWord current.reverse where
  proper := by simpa using hsome
  solid := by
    intro c hc
    exact solid c (List.mem_reverse.mp hc)

/-- **The words that are read are those of the text**, with what has been read of the first one in front. The
    induction is on the text that is left. -/
theorem spread_wordsFrom (solid : ∀ c ∈ current, isBlank c = false) :
    Spread (wordsFrom current cs) (current.reverse ++ cs) := by
  induction cs generalizing current with
  | nil =>
      by_cases hcurrent : current = []
      · simp only [hcurrent, wordsFrom, List.isEmpty_nil, if_true, List.reverse_nil, List.append_nil]
        exact .blanks (by simp)
      · simp only [wordsFrom, List.isEmpty_iff, hcurrent, if_false]
        exact Spread.wordFirst (.blanks (by simp)) (isWord_reverse solid hcurrent) (by simp)
  | cons c rest ih =>
      have hrest : Spread (wordsFrom [] rest) rest := ih (by simp)
      by_cases hc : isBlank c = true
      · by_cases hcurrent : current = []
        · simp only [hcurrent, wordsFrom, hc, List.isEmpty_nil, if_true, List.reverse_nil, List.nil_append]
          exact hrest.cons hc
        · simp only [wordsFrom, hc, List.isEmpty_iff, hcurrent, if_true, if_false]
          apply (hrest.cons hc).wordFirst (isWord_reverse solid hcurrent)
          simpa using hc
      · have hmore : ∀ d ∈ c :: current, isBlank d = false := by
          intro d hd
          rcases List.mem_cons.mp hd with rfl | hmem
          · simpa using hc
          · exact solid d hmem
        have hlonger := ih hmore
        simp only [wordsFrom, hc]
        simpa using hlonger

/-- **A text collapses to its words**, joined by single spaces. -/
theorem exists_spread (cs : List Char) : ∃ ws, Spread ws cs ∧ collapse cs = unwords ws := by
  have hspread : Spread (wordsFrom [] cs) ([].reverse ++ cs) := spread_wordsFrom (by simp)
  exact ⟨words cs, hspread, rfl⟩

/-! ## One-spaced texts -/

/-- **A one-spaced text**: every blank in it is a space, no two of them side by side, and none stands at either
    end. -/
structure OneSpaced (cs : List Char) : Prop where
  spaces : ∀ c ∈ cs, isBlank c = true → c = ' '
  apart : cs.IsChain fun a b => isBlank a = true → isBlank b = false
  first : ∀ c ∈ cs.head?, isBlank c = false
  last : ∀ c ∈ cs.getLast?, isBlank c = false

theorem OneSpaced.nil : OneSpaced [] where
  spaces := by simp
  apart := List.isChain_nil
  first := by simp
  last := by simp

theorem IsWord.oneSpaced (h : IsWord w) : OneSpaced w where
  spaces := by
    intro c hc hblank
    rw [h.solid c hc] at hblank
    cases hblank
  apart := by
    apply List.Pairwise.isChain
    apply List.pairwise_of_forall_mem_list
    intro a _ b hb _
    exact h.solid b hb
  first := fun c hc => h.solid c (List.mem_of_mem_head? hc)
  last := fun c hc => h.solid c (List.mem_of_mem_getLast? hc)

/-- A word, a space and a one-spaced text behind it. -/
theorem OneSpaced.cons (h : OneSpaced cs) (hw : IsWord w) (hsome : cs ≠ []) : OneSpaced (w ++ ' ' :: cs) where
  spaces := by
    intro c hc hblank
    rcases List.mem_append.mp hc with hword | hbehind
    · exact hw.oneSpaced.spaces c hword hblank
    · rcases List.mem_cons.mp hbehind with rfl | hmem
      · rfl
      · exact h.spaces c hmem hblank
  apart := by
    rw [List.isChain_append]
    refine ⟨hw.oneSpaced.apart, List.isChain_cons.mpr ⟨?_, h.apart⟩, ?_⟩
    · intro b hb _
      exact h.first b hb
    · intro a ha b _ hblank
      rw [hw.oneSpaced.last a ha] at hblank
      cases hblank
  first := by
    intro c hc
    rw [List.head?_append_of_ne_nil _ hw.proper] at hc
    exact hw.oneSpaced.first c hc
  last := by
    intro c hc
    rw [List.getLast?_append_of_ne_nil _ (by simp), List.getLast?_cons_of_ne_nil hsome] at hc
    exact h.last c hc

theorem unwords_ne_nil (h : ∀ w ∈ ws, IsWord w) (hsome : ws ≠ []) : unwords ws ≠ [] := by
  cases ws with
  | nil => exact absurd rfl hsome
  | cons w rest =>
      have hw := (h w List.mem_cons_self).proper
      cases rest with
      | nil => exact hw
      | cons w' rest => simp [unwords]

/-- Words that are joined make a one-spaced text. -/
theorem oneSpaced_unwords (h : ∀ w ∈ ws, IsWord w) : OneSpaced (unwords ws) := by
  induction ws with
  | nil => exact .nil
  | cons w rest ih =>
      have hw : IsWord w := h w List.mem_cons_self
      have hrest : ∀ w ∈ rest, IsWord w := fun w hmem => h w (List.mem_cons_of_mem _ hmem)
      cases rest with
      | nil => exact hw.oneSpaced
      | cons w' rest => exact (ih hrest).cons hw (unwords_ne_nil hrest (by simp))

/-- **What is collapsed is one-spaced.** -/
theorem oneSpaced_collapse (cs : List Char) : OneSpaced (collapse cs) := by
  obtain ⟨ws, hspread, hcollapse⟩ := exists_spread cs
  rw [hcollapse]
  exact oneSpaced_unwords hspread.isWord

/-- What stands behind a blank of a one-spaced text begins with another character, and is one-spaced. -/
theorem OneSpaced.behind_blank (h : OneSpaced (w ++ c :: rest)) (hc : isBlank c = true) :
    rest ≠ [] ∧ OneSpaced rest := by
  have hsome : rest ≠ [] := by
    intro hnil
    rw [hnil] at h
    have hlast := h.last c (by simp)
    rw [hc] at hlast
    cases hlast
  obtain ⟨-, hchain, -⟩ := List.isChain_append.mp h.apart
  obtain ⟨hnext, hrest⟩ := List.isChain_cons.mp hchain
  refine ⟨hsome, ?_, hrest, ?_, ?_⟩
  · intro d hd
    exact h.spaces d (by simp [hd])
  · intro d hd
    exact hnext d hd hc
  · intro d hd
    apply h.last d
    rwa [List.getLast?_append_of_ne_nil _ (by simp), List.getLast?_cons_of_ne_nil hsome]

/-- **To join the words of a one-spaced text gives the text.** The induction is on the text that is left; the first
    word of it has been read in part. -/
theorem OneSpaced.unwords_wordsFrom (h : OneSpaced (current.reverse ++ cs)) :
    unwords (wordsFrom current cs) = current.reverse ++ cs := by
  induction cs generalizing current with
  | nil =>
      by_cases hcurrent : current = []
      · simp [hcurrent, wordsFrom, unwords]
      · simp [wordsFrom, hcurrent, unwords]
  | cons c rest ih =>
      by_cases hc : isBlank c = true
      · have hcurrent : current ≠ [] := by
          intro hnil
          rw [hnil] at h
          have hfirst := h.first c (by simp)
          rw [hc] at hfirst
          cases hfirst
        have hspace : c = ' ' := h.spaces c (by simp) hc
        -- A space is written again only in front of a word, so there must be one behind this one.
        obtain ⟨hsome, hspaced⟩ := h.behind_blank hc
        have hrest : unwords (wordsFrom [] rest) = rest := ih hspaced
        simp only [wordsFrom, hc, List.isEmpty_iff, hcurrent, if_true, if_false]
        cases hwords : wordsFrom [] rest with
        | nil =>
            rw [hwords] at hrest
            exact absurd hrest.symm hsome
        | cons w ws =>
            rw [hwords] at hrest
            rw [unwords, hrest, hspace]
            simp
      · have hlonger : OneSpaced ((c :: current).reverse ++ rest) := by simpa using h
        have hread := ih hlonger
        simp only [wordsFrom, hc]
        simpa using hread

/-- A one-spaced text is left as it is. -/
theorem OneSpaced.collapse_eq (h : OneSpaced cs) : collapse cs = cs := by
  have hread : unwords (wordsFrom [] cs) = [].reverse ++ cs := OneSpaced.unwords_wordsFrom h
  exact hread

/-- **The beginning of a one-spaced text with dots behind it is one-spaced**, also where it ends in a space. -/
theorem OneSpaced.cut (h : OneSpaced cs) (n : Nat) : OneSpaced (cs.take n ++ ['.', '.', '.']) where
  spaces := by
    intro c hc hblank
    rcases List.mem_append.mp hc with hfront | hdot
    · exact h.spaces c (List.mem_of_mem_take hfront) hblank
    · have hdots : c = '.' := by simpa using hdot
      rw [hdots] at hblank
      exact absurd hblank (by decide)
  apart := by
    rw [List.isChain_append]
    refine ⟨h.apart.take n, by decide, ?_⟩
    -- The cut may end in a space, but what follows is a dot.
    intro a _ b hb _
    have hdot : b = '.' := by simpa using hb.symm
    rw [hdot]
    decide
  first := by
    intro c hc
    by_cases hfront : cs.take n = []
    · have hdot : c = '.' := by simpa [hfront] using hc.symm
      rw [hdot]
      decide
    · rw [List.head?_append_of_ne_nil _ hfront] at hc
      apply h.first c
      cases cs with
      | nil => simp at hfront
      | cons d rest =>
          cases n with
          | zero => simp at hfront
          | succ n => simpa using hc
  last := by
    intro c hc
    have hdot : c = '.' := by simpa using hc.symm
    rw [hdot]
    decide

/-! ## Fitting a line -/

theorem fitLine_of_le (h : ((collapse cs).length : Int) ≤ limit) : fitLine cs limit = collapse cs := by
  unfold fitLine
  exact if_pos h

/-- Where there is no room for more than the dots, the text is cut without them. -/
theorem fitLine_of_narrow (h : limit < (collapse cs).length) (hlow : 0 ≤ limit) (hnarrow : limit ≤ 3) :
    fitLine cs limit = (collapse cs).take limit.toNat := by
  unfold fitLine takeSigned
  simp only
  rw [if_neg (by omega), if_pos hnarrow, if_neg (by omega)]

theorem fitLine_of_wide (h : limit < (collapse cs).length) (hwide : 4 ≤ limit) :
    fitLine cs limit = (collapse cs).take (limit - 3).toNat ++ ['.', '.', '.'] := by
  unfold fitLine takeSigned
  simp only
  rw [if_neg (by omega), if_neg (by omega), if_neg (by omega)]

/-- A cut text has as many characters as the line. -/
theorem length_fitLine_of_wide (h : limit < (collapse cs).length) (hwide : 4 ≤ limit) :
    ((fitLine cs limit).length : Int) = limit := by
  rw [fitLine_of_wide h hwide, List.length_append, List.length_take]
  simp only [List.length_cons, List.length_nil]
  omega

/-- **No text is longer than the line.** -/
theorem length_fitLine_le (cs : List Char) (hlow : 0 ≤ limit) : ((fitLine cs limit).length : Int) ≤ limit := by
  by_cases hfits : ((collapse cs).length : Int) ≤ limit
  · rw [fitLine_of_le hfits]
    exact hfits
  · by_cases hnarrow : limit ≤ 3
    · rw [fitLine_of_narrow (by omega) hlow hnarrow, List.length_take]
      omega
    · have hlength : ((fitLine cs limit).length : Int) = limit := length_fitLine_of_wide (by omega) (by omega)
      omega

theorem oneSpaced_fitLine (cs : List Char) (hwide : 4 ≤ limit) : OneSpaced (fitLine cs limit) := by
  by_cases hfits : ((collapse cs).length : Int) ≤ limit
  · rw [fitLine_of_le hfits]
    exact oneSpaced_collapse cs
  · rw [fitLine_of_wide (by omega) hwide]
    exact (oneSpaced_collapse cs).cut _

/-- **A text that fits is left as it is**, if it is one-spaced. -/
theorem OneSpaced.fitLine_eq (h : OneSpaced cs) (hfits : (cs.length : Int) ≤ limit) : fitLine cs limit = cs := by
  have hcollapse : collapse cs = cs := h.collapse_eq
  rw [fitLine_of_le (by rw [hcollapse]; exact hfits), hcollapse]

/-- A text is collapsed as a whole exactly where this fits. -/
theorem fitLine_eq_collapse_iff (hwide : 4 ≤ limit) :
    fitLine cs limit = collapse cs ↔ ((collapse cs).length : Int) ≤ limit := by
  constructor
  · intro h
    rw [← h]
    exact length_fitLine_le cs (by omega)
  · exact fitLine_of_le

end Text

open Text

/-- **Every text fits one line.** It has no more characters than the line has room for. If there is room for more
    than the dots, all its blanks are single spaces between other characters, to fit it again changes nothing, and
    it is what the text collapses to, namely its words joined by single spaces, exactly where that fits; otherwise
    it is as long as the line and ends in three dots, in front of which stands the beginning of the collapsed
    text. -/
theorem truncateText_fits_one_line (text : String) (limit : Int) (hlow : 0 ≤ limit) :
    ((truncateText text limit).length : Int) ≤ limit ∧
    (4 ≤ limit →
      OneSpaced (truncateText text limit).toList ∧
      truncateText (truncateText text limit) limit = truncateText text limit ∧
      ∃ ws flat, Spread ws text.toList ∧ flat = unwords ws ∧
        ((truncateText text limit).toList = flat ↔ (flat.length : Int) ≤ limit) ∧
        (limit < flat.length →
          ((truncateText text limit).length : Int) = limit ∧
          ∃ front, front <+: flat ∧ (truncateText text limit).toList = front ++ ['.', '.', '.'])) := by
  have hlist : (truncateText text limit).toList = fitLine text.toList limit := String.toList_ofList
  have hlength : (truncateText text limit).length = (fitLine text.toList limit).length := by
    rw [← String.length_toList, hlist]
  have hfits : ((fitLine text.toList limit).length : Int) ≤ limit := length_fitLine_le text.toList hlow
  rw [hlength, hlist]
  refine ⟨hfits, fun hwide => ?_⟩
  have hspaced : OneSpaced (fitLine text.toList limit) := oneSpaced_fitLine text.toList hwide
  obtain ⟨ws, hspread, hcollapse⟩ := exists_spread text.toList
  refine ⟨hspaced, ?again, ws, collapse text.toList, hspread, hcollapse, fitLine_eq_collapse_iff hwide, ?cut⟩
  case again =>
    show String.ofList (fitLine (truncateText text limit).toList limit) = String.ofList (fitLine text.toList limit)
    rw [hlist, hspaced.fitLine_eq hfits]
  case cut =>
    intro hlong
    exact ⟨length_fitLine_of_wide hlong hwide, _, List.take_prefix _ _, fitLine_of_wide hlong hwide⟩

/-- A label over two lines, cut right behind a space. -/
theorem label_fits_one_line :
    (0 : Int) ≤ 7 ∧ (truncateText "\tAnn \n Lee (User:1)" 7).toList = "Ann ...".toList ∧
    OneSpaced (truncateText "\tAnn \n Lee (User:1)" 7).toList ∧
    truncateText (truncateText "\tAnn \n Lee (User:1)" 7) 7 = truncateText "\tAnn \n Lee (User:1)" 7 := by
  obtain ⟨-, hwide⟩ := truncateText_fits_one_line "\tAnn \n Lee (User:1)" 7 (by decide)
  obtain ⟨hspaced, hagain, -⟩ := hwide (by decide)
  exact ⟨by decide, by decide, hspaced, hagain⟩

end GraphQLCache
