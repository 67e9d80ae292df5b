import GraphQLCache.Text.Case
import Mathlib.Data.List.Infix
import Mathlib.Data.List.TakeWhile

/-!
# `Proofs.LowerCase` — the lower case of a part of a text

A character is lowered by itself, with one exception: the form of a capital sigma is decided by the nearest
characters on both sides that are not looked through. So the lower case of a part depends on what stands
around it, but only on whether a letter with case is the nearest on either side (`lowerWithin_congr`).

A sigma is *settled* in a text if the text itself has what decides its form. The main statement,
`lower_trim_infix_iff`, says what that means for searching: the lower case of a trimmed text is part of the
lower case of every text around it just if all its capital sigmas are settled. One half is that settled sigmas
keep their forms. For the other half a sigma that is not settled takes another form with one more letter in
front or behind, and then there are too few sigmas of the old form.
-/

namespace GraphQLCache.Text

variable {c x : Char} {cs before after before' after' : List Char}

/-! ## The form of a sigma -/

/-- The nearest character that is not looked through when the form of a sigma is decided. -/
def nearest? (cs : List Char) : Option Char := cs.find? fun c => !inRanges caseIgnorableRanges c.toNat

/-- Whether a character is a letter with case. -/
def isCased (c : Char) : Bool := inRanges casedRanges c.toNat

theorem casedNext_eq (cs : List Char) : casedNext cs = (nearest? cs).any isCased := by
  induction cs with
  | nil => rfl
  | cons c rest ih =>
      unfold nearest? at ih ⊢
      rw [casedNext, List.find?_cons]
      by_cases hthrough : inRanges caseIgnorableRanges c.toNat = true
      · rw [if_pos hthrough, hthrough, ih]
        rfl
      · rw [if_neg hthrough, Bool.eq_false_iff.mpr hthrough]
        rfl

theorem nearest?_append (a b : List Char) : nearest? (a ++ b) = (nearest? a).or (nearest? b) :=
  List.find?_append

/-- What stands further off counts only where all that is nearer is looked through. -/
theorem casedNext_append_congr (cs : List Char) (h : casedNext after = casedNext after') :
    casedNext (cs ++ after) = casedNext (cs ++ after') := by
  rw [casedNext_eq, casedNext_eq] at h ⊢
  rw [nearest?_append, nearest?_append]
  cases nearest? cs with
  | none => exact h
  | some c => rfl

/-- A letter with case that is the nearest stays it with more behind. -/
theorem casedNext_append (h : casedNext before = true) (more : List Char) : casedNext (before ++ more) = true := by
  rw [casedNext_eq] at h ⊢
  rw [nearest?_append]
  cases hnearest : nearest? before with
  | none => rw [hnearest] at h; cases h
  | some c => rw [hnearest] at h; exact h

theorem casedNext_of_not_cased (h : ∀ c ∈ cs, isCased c = false) : casedNext cs = false := by
  rw [casedNext_eq]
  cases hnearest : nearest? cs with
  | none => rfl
  | some c => exact h c (List.mem_of_find?_eq_some hnearest)

/-- The form of a capital sigma behind `before`, nearest character first, and in front of `after`. -/
def sigmaForm (before after : List Char) : Char := if casedNext before && !casedNext after then 'ς' else 'σ'

theorem sigmaForm_eq_final_iff : sigmaForm before after = 'ς' ↔ casedNext before = true ∧ casedNext after = false := by
  unfold sigmaForm
  cases casedNext before <;> cases casedNext after <;> decide

theorem sigmaForm_cases (before after : List Char) :
    sigmaForm before after = 'ς' ∨ sigmaForm before after = 'σ' := by
  unfold sigmaForm
  split
  · exact Or.inl rfl
  · exact Or.inr rfl

theorem sigmaForm_eq_inner_iff : sigmaForm before after = 'σ' ↔ ¬ sigmaForm before after = 'ς' := by
  rcases sigmaForm_cases before after with h | h <;> rw [h] <;> decide

/-! ## The lower case of a part -/

/-- The lower case of a part of a text that stands behind `before`, nearest character first, and in front of
    `after`. -/
def lowerWithin (before after : List Char) : List Char → List Char
  | [] => []
  | c :: rest =>
    (if c = 'Σ' then [sigmaForm before (rest ++ after)] else lowerChar c) ++ lowerWithin (c :: before) after rest

theorem lowerWithin_sigma (before after rest : List Char) :
    lowerWithin before after ('Σ' :: rest) =
      sigmaForm before (rest ++ after) :: lowerWithin ('Σ' :: before) after rest := rfl

theorem lowerWithin_of_ne (h : c ≠ 'Σ') (before after rest : List Char) :
    lowerWithin before after (c :: rest) = lowerChar c ++ lowerWithin (c :: before) after rest := by
  rw [lowerWithin, if_neg h]

/-- Two parts, one behind the other. -/
theorem lowerWithin_append (before after a b : List Char) :
    lowerWithin before after (a ++ b) =
      lowerWithin before (b ++ after) a ++ lowerWithin (a.reverse ++ before) after b := by
  induction a generalizing before with
  | nil => rfl
  | cons c rest ih =>
      rw [List.cons_append, lowerWithin, lowerWithin, ih, List.reverse_cons, List.append_assoc, List.append_assoc,
        List.append_assoc, List.singleton_append]

theorem lowerAfter_eq (before cs : List Char) : lowerAfter before cs = lowerWithin before [] cs := by
  induction cs generalizing before with
  | nil => rfl
  | cons c rest ih =>
      rw [lowerAfter, ih]
      by_cases hsigma : c = 'Σ'
      · rw [if_pos hsigma, hsigma, lowerWithin_sigma, List.append_nil, sigmaForm]
      · rw [if_neg hsigma, lowerWithin_of_ne hsigma]

/-- **A part of a text** is lowered in its place. -/
theorem lower_append_append (before part after : List Char) :
    lower (before ++ part ++ after) =
      lowerWithin [] (part ++ after) before ++ lowerWithin before.reverse after part ++
        lowerWithin (part.reverse ++ before.reverse) [] after := by
  rw [lower, lowerAfter_eq, lowerWithin_append, lowerWithin_append]
  simp only [List.append_nil, List.reverse_append]

theorem lower_eq (cs : List Char) : lower cs = lowerWithin [] [] cs := lowerAfter_eq [] cs

/-- **Of what stands around a part** it counts only whether a letter with case is the nearest. -/
theorem lowerWithin_congr (hbefore : casedNext before = casedNext before')
    (hafter : casedNext after = casedNext after') (cs : List Char) :
    lowerWithin before after cs = lowerWithin before' after' cs := by
  induction cs generalizing before before' with
  | nil => rfl
  | cons c rest ih =>
      have hnext : casedNext (c :: before) = casedNext (c :: before') := casedNext_append_congr [c] hbefore
      rw [lowerWithin, lowerWithin, ih hnext]
      unfold sigmaForm
      rw [hbefore, casedNext_append_congr rest hafter]

/-! ## Settled sigmas -/

/-- **A capital sigma is settled** by what stands on its two sides: a letter with case is the nearest behind it,
    or another character is the nearest before it, or there is a nearest one on both sides. -/
def SettledSigma (before after : List Char) : Prop :=
  casedNext after = true ∨ (∃ c, nearest? before = some c ∧ isCased c = false) ∨
    (nearest? before ≠ none ∧ nearest? after ≠ none)

/-- All capital sigmas of a text are settled in it. -/
def SettledSigmas (cs : List Char) : Prop :=
  ∀ before after, cs = before ++ 'Σ' :: after → SettledSigma before.reverse after

theorem settledSigmas_of_not_mem (h : 'Σ' ∉ cs) : SettledSigmas cs := by
  rintro before after rfl
  exact absurd (by simp) h

/-- A settled sigma keeps its form whatever stands around. -/
theorem SettledSigma.sigmaForm_append (h : SettledSigma before after) (more more' : List Char) :
    sigmaForm (before ++ more) (after ++ more') = sigmaForm before after := by
  unfold sigmaForm
  rcases h with hcased | ⟨c, hnearest, huncased⟩ | ⟨hbefore, hafter⟩
  · rw [hcased, casedNext_append hcased]
    simp
  · simp [casedNext_eq, nearest?_append, hnearest, huncased]
  · obtain ⟨b, hb⟩ := Option.ne_none_iff_exists'.mp hbefore
    obtain ⟨a, ha⟩ := Option.ne_none_iff_exists'.mp hafter
    simp [casedNext_eq, nearest?_append, hb, ha]

/-- Settled sigmas keep their forms. -/
theorem lowerWithin_of_settled (before after : List Char)
    (h : ∀ a b, cs = a ++ 'Σ' :: b → SettledSigma (a.reverse ++ before) (b ++ after)) (more more' : List Char) :
    lowerWithin (before ++ more) (after ++ more') cs = lowerWithin before after cs := by
  induction cs generalizing before with
  | nil => rfl
  | cons c rest ih =>
      have hrest : lowerWithin (c :: before ++ more) (after ++ more') rest = lowerWithin (c :: before) after rest := by
        refine ih (c :: before) fun a b hsplit => ?_
        have hwhole := h (c :: a) b (by rw [hsplit, List.cons_append])
        rwa [List.reverse_cons, List.append_assoc] at hwhole
      by_cases hsigma : c = 'Σ'
      · have hform := (h [] rest (by rw [hsigma, List.nil_append])).sigmaForm_append more more'
        rw [hsigma, lowerWithin_sigma, lowerWithin_sigma, ← hsigma, ← List.append_assoc, ← List.cons_append, hrest]
        exact congrArg (· :: _) hform
      · rw [lowerWithin_of_ne hsigma, lowerWithin_of_ne hsigma, ← List.cons_append, hrest]

/-- **The lower case of a text with settled sigmas** is part of that of every text around it. -/
theorem SettledSigmas.lower_infix_lower (h : SettledSigmas cs) (before after : List Char) :
    lower cs <:+: lower (before ++ cs ++ after) := by
  have hkeep : lowerWithin before.reverse after cs = lower cs := by
    rw [lower_eq]
    exact lowerWithin_of_settled [] [] (fun a b hsplit => by simpa using h a b hsplit) _ _
  rw [lower_append_append, hkeep]
  exact ⟨_, _, rfl⟩

/-! ## Blanks -/

theorem mem_of_inRanges {ranges : List (Nat × Nat)} {code : Nat} (h : inRanges ranges code = true) :
    code ∈ ranges.flatMap fun r => List.range' r.1 (r.2 + 1 - r.1) := by
  obtain ⟨r, hr, hcode⟩ := List.any_eq_true.mp h
  simp only [Bool.and_eq_true, decide_eq_true_eq] at hcode
  exact List.mem_flatMap.mpr ⟨r, hr, List.mem_range'_1.mpr ⟨hcode.1, by omega⟩⟩

/-- A blank has no case and is no sigma: it stays as it is in lower case. -/
theorem lowerChar_of_isBlank (h : isBlank c = true) : isCased c = false ∧ lowerChar c = [c] ∧ c ∉ ['Σ', 'σ', 'ς'] := by
  have hall : ∀ code ∈ blankRanges.flatMap (fun r => List.range' r.1 (r.2 + 1 - r.1)),
      isCased (.ofNat code) = false ∧ lowerChar (.ofNat code) = [.ofNat code] ∧ .ofNat code ∉ ['Σ', 'σ', 'ς'] := by
    decide +kernel
  have hc := hall c.toNat (mem_of_inRanges h)
  rwa [Char.ofNat_toNat] at hc

theorem lowerWithin_of_blank (h : ∀ c ∈ cs, isBlank c = true) (before after : List Char) :
    lowerWithin before after cs = cs := by
  induction cs generalizing before with
  | nil => rfl
  | cons c rest ih =>
      obtain ⟨_, hlower, hsigma⟩ := lowerChar_of_isBlank (h c List.mem_cons_self)
      have hne : c ≠ 'Σ' := fun heq => hsigma (heq ▸ List.mem_cons_self)
      rw [lowerWithin_of_ne hne, hlower, ih fun d hd => h d (List.mem_cons_of_mem _ hd)]
      rfl

/-- Trimming takes off blanks at both ends. -/
theorem exists_trim (cs : List Char) :
    ∃ front back, cs = front ++ trim cs ++ back ∧ (∀ c ∈ front, isBlank c = true) ∧ ∀ c ∈ back, isBlank c = true := by
  have hblank : ∀ {l : List Char}, ∀ c ∈ l.takeWhile isBlank, isBlank c = true := by
    intro l c hc
    exact List.mem_takeWhile_imp hc
  refine ⟨cs.takeWhile isBlank, ((cs.dropWhile isBlank).reverse.takeWhile isBlank).reverse, ?_, hblank, ?_⟩
  · rw [trim, trimEnd, List.append_assoc, ← List.reverse_append, List.takeWhile_append_dropWhile,
      List.reverse_reverse, List.takeWhile_append_dropWhile]
  · intro c hc
    exact hblank c (List.mem_reverse.mp hc)

/-- **The lower case of a text** is that of the trimmed text with the blanks around it. -/
theorem exists_lower_trim (cs : List Char) :
    ∃ front back, lower cs = front ++ lower (trim cs) ++ back ∧ (∀ c ∈ front, isBlank c = true) ∧
      ∀ c ∈ back, isBlank c = true := by
  obtain ⟨front, back, hsplit, hfront, hback⟩ := exists_trim cs
  refine ⟨front, back, ?_, hfront, hback⟩
  have huncased : ∀ {l : List Char}, (∀ c ∈ l, isBlank c = true) → casedNext l = false := by
    intro l hl
    exact casedNext_of_not_cased fun c hc => (lowerChar_of_isBlank (hl c hc)).1
  have hbefore : casedNext front.reverse = casedNext [] :=
    huncased fun c hc => hfront c (List.mem_reverse.mp hc)
  have hmiddle : lowerWithin front.reverse back (trim cs) = lower (trim cs) := by
    rw [lower_eq]
    exact lowerWithin_congr hbefore (huncased hback) _
  calc lower cs = lower (front ++ trim cs ++ back) := by rw [← hsplit]
    _ = front ++ lower (trim cs) ++ back := by
        rw [lower_append_append, lowerWithin_of_blank hfront, lowerWithin_of_blank hback, hmiddle]

/-- The forms of sigmas in the lower case of a text are those of the trimmed text. -/
theorem count_lower_trim (hx : x ∈ ['Σ', 'σ', 'ς']) (cs : List Char) :
    (lower cs).count x = (lower (trim cs)).count x := by
  obtain ⟨front, back, hlower, hfront, hback⟩ := exists_lower_trim cs
  have hnone : ∀ {l : List Char}, (∀ c ∈ l, isBlank c = true) → l.count x = 0 := by
    intro l hl
    exact List.count_eq_zero.mpr fun hmem => (lowerChar_of_isBlank (hl x hmem)).2.2 hx
  rw [hlower, List.count_append, List.count_append, hnone hfront, hnone hback, Nat.zero_add, Nat.add_zero]

/-- A capital sigma is a small one of either form in the lower case of the trimmed text. -/
theorem exists_sigma_of_mem (h : 'Σ' ∈ cs) : ∃ x ∈ ['σ', 'ς'], x ∈ lower (trim cs) := by
  obtain ⟨before, after, rfl⟩ := List.append_of_mem h
  have hlower : sigmaForm before.reverse after ∈ lower (before ++ 'Σ' :: after) := by
    rw [lower_eq, lowerWithin_append, lowerWithin_sigma, List.append_nil, List.append_nil, List.append_nil]
    exact List.mem_append_right _ List.mem_cons_self
  have hform : sigmaForm before.reverse after ∈ ['σ', 'ς'] := by
    rcases sigmaForm_cases before.reverse after with h | h <;> rw [h] <;> decide
  refine ⟨_, hform, List.count_pos_iff.mp ?_⟩
  rw [← count_lower_trim (List.mem_cons_of_mem _ hform)]
  exact List.count_pos_iff.mpr hlower

/-! ## Sigmas that are not settled -/

section Counting

variable (before after before' after' : List Char)
  (hform : ∀ p q, sigmaForm (p ++ before') (q ++ after') = x → sigmaForm (p ++ before) (q ++ after) = x)

include hform

/-- Where every sigma of the form `x` keeps it in other surroundings, there are no fewer of them. -/
theorem count_lowerWithin_le (p q cs : List Char) :
    (lowerWithin (p ++ before') (q ++ after') cs).count x ≤ (lowerWithin (p ++ before) (q ++ after) cs).count x := by
  induction cs generalizing p with
  | nil => exact le_rfl
  | cons c rest ih =>
      have hrest := ih (c :: p)
      rw [List.cons_append, List.cons_append] at hrest
      by_cases hsigma : c = 'Σ'
      · subst hsigma
        rw [lowerWithin_sigma, lowerWithin_sigma, List.count_cons, List.count_cons, ← List.append_assoc,
          ← List.append_assoc]
        have hhead := hform p (rest ++ q)
        by_cases hx : sigmaForm (p ++ before') (rest ++ q ++ after') = x
        · simp only [hx, hhead hx, beq_self_eq_true, if_true]
          omega
        · rw [if_neg fun heq => hx (beq_iff_eq.mp heq)]
          omega
      · rw [lowerWithin_of_ne hsigma, lowerWithin_of_ne hsigma, List.count_append, List.count_append]
        omega

/-- Where moreover one sigma takes the form `x` there only, there are more of them. -/
theorem count_lowerWithin_lt {a b : List Char} (hold : sigmaForm (a.reverse ++ before) (b ++ after) = x)
    (hnew : sigmaForm (a.reverse ++ before') (b ++ after') ≠ x) :
    (lowerWithin before' after' (a ++ 'Σ' :: b)).count x < (lowerWithin before after (a ++ 'Σ' :: b)).count x := by
  have hfront := count_lowerWithin_le _ _ _ _ hform [] ('Σ' :: b) a
  have hback := count_lowerWithin_le _ _ _ _ hform ('Σ' :: a.reverse) [] b
  rw [List.nil_append, List.nil_append] at hfront
  rw [List.nil_append, List.nil_append, List.cons_append, List.cons_append] at hback
  rw [lowerWithin_append, lowerWithin_append, lowerWithin_sigma, lowerWithin_sigma, List.count_append,
    List.count_append, List.count_cons, List.count_cons, if_pos (beq_iff_eq.mpr hold),
    if_neg fun heq => hnew (beq_iff_eq.mp heq)]
  omega

end Counting

/-- A text with more sigmas of one form in lower case than another is no part of it when trimmed. -/
theorem not_infix_of_count {text : List Char} (hx : x ∈ ['Σ', 'σ', 'ς'])
    (h : (lower text).count x < (lower cs).count x) : ¬ lower (trim cs) <:+: lower text := by
  intro hinfix
  have hle := hinfix.sublist.count_le x
  rw [← count_lower_trim hx] at hle
  omega

/-- The letter that is put beside a sigma to change its form. -/
theorem nearest?_letter : (nearest? ['a']).any isCased = true := by decide +kernel

/-- This letter stays as it is and adds no sigma. -/
theorem count_lowerWithin_letter (hx : x ∈ ['Σ', 'σ', 'ς']) (before after : List Char) :
    (lowerWithin before after ['a']).count x = 0 := by
  have hlower : lowerWithin before after ['a'] = ['a'] := by
    rw [lowerWithin_of_ne (by decide), show lowerChar 'a' = ['a'] by decide +kernel]
    rfl
  have hnone : ∀ y ∈ ['Σ', 'σ', 'ς'], ['a'].count y = 0 := by simp
  rw [hlower]
  exact hnone x hx

/-- **Where nothing decides the form of a sigma from the front**, a letter in front makes it final. -/
theorem not_infix_of_letter_before {a b : List Char} (hfront : nearest? a.reverse = none)
    (hbehind : casedNext b = false) :
    ¬ lower (trim (a ++ 'Σ' :: b)) <:+: lower (['a'] ++ (a ++ 'Σ' :: b)) := by
  have hinner : sigmaForm (a.reverse ++ []) (b ++ []) = 'σ' := by
    rw [sigmaForm_eq_inner_iff, sigmaForm_eq_final_iff, List.append_nil, casedNext_eq, hfront]
    exact fun hfinal => Bool.noConfusion hfinal.1
  have hfinal : sigmaForm (a.reverse ++ ['a']) (b ++ []) ≠ 'σ' := by
    rw [Ne, sigmaForm_eq_inner_iff, not_not, sigmaForm_eq_final_iff, casedNext_eq, nearest?_append, hfront,
      Option.none_or, List.append_nil]
    exact ⟨nearest?_letter, hbehind⟩
  -- A letter in front makes no other sigma lose the final form.
  have hkeep : ∀ p q, sigmaForm (p ++ ['a']) (q ++ []) = 'σ' → sigmaForm (p ++ []) (q ++ []) = 'σ' := by
    intro p q hform
    rw [sigmaForm_eq_inner_iff, sigmaForm_eq_final_iff] at hform ⊢
    rw [List.append_nil]
    exact fun hold => hform ⟨casedNext_append hold.1 _, hold.2⟩
  have hx : 'σ' ∈ ['Σ', 'σ', 'ς'] := by simp
  refine not_infix_of_count hx ?_
  rw [lower_eq, lower_eq, lowerWithin_append, List.count_append, count_lowerWithin_letter hx, Nat.zero_add]
  exact count_lowerWithin_lt [] [] ['a'] [] hkeep hinner hfinal

/-- **Where nothing decides the form of a sigma from behind**, a letter behind keeps it from being final. -/
theorem not_infix_of_letter_behind {a b : List Char} (hfront : casedNext a.reverse = true)
    (hback : nearest? b = none) :
    ¬ lower (trim (a ++ 'Σ' :: b)) <:+: lower (a ++ 'Σ' :: b ++ ['a']) := by
  have hfinal : sigmaForm (a.reverse ++ []) (b ++ []) = 'ς' := by
    rw [sigmaForm_eq_final_iff, List.append_nil, List.append_nil, casedNext_eq b, hback]
    exact ⟨hfront, rfl⟩
  have hinner : sigmaForm (a.reverse ++ []) (b ++ ['a']) ≠ 'ς' := by
    rw [Ne, sigmaForm_eq_final_iff, casedNext_eq (b ++ _), nearest?_append, hback, Option.none_or, nearest?_letter]
    exact fun hold => Bool.noConfusion hold.2
  -- A letter behind makes no other sigma take the final form.
  have hkeep : ∀ p q, sigmaForm (p ++ []) (q ++ ['a']) = 'ς' → sigmaForm (p ++ []) (q ++ []) = 'ς' := by
    intro p q hform
    rw [sigmaForm_eq_final_iff] at hform ⊢
    refine ⟨hform.1, Bool.eq_false_iff.mpr fun hnext => ?_⟩
    rw [List.append_nil] at hnext
    rw [casedNext_append hnext] at hform
    cases hform.2
  have hx : 'ς' ∈ ['Σ', 'σ', 'ς'] := by simp
  refine not_infix_of_count hx ?_
  rw [lower_eq, lower_eq, lowerWithin_append, List.count_append, count_lowerWithin_letter hx, Nat.add_zero]
  exact count_lowerWithin_lt [] [] [] ['a'] hkeep hfinal hinner

/-- **A sigma that is not settled** takes another form with a letter in front or behind. -/
theorem exists_not_infix_lower (h : ¬ SettledSigmas cs) :
    ∃ before after, ¬ lower (trim cs) <:+: lower (before ++ cs ++ after) := by
  simp only [SettledSigmas, not_forall] at h
  obtain ⟨a, b, rfl, hunsettled⟩ := h
  simp only [SettledSigma, not_or, not_and_or, not_not, Bool.not_eq_true] at hunsettled
  obtain ⟨hbehind, hcased, hnearest⟩ := hunsettled
  cases hfront : nearest? a.reverse with
  | none => exact ⟨['a'], [], by rw [List.append_nil]; exact not_infix_of_letter_before hfront hbehind⟩
  | some c =>
      have hc : casedNext a.reverse = true := by
        rw [casedNext_eq, hfront]
        by_contra huncased
        exact hcased ⟨c, hfront, Bool.not_eq_true _ ▸ huncased⟩
      have hback : nearest? b = none := by
        rcases hnearest with hnone | hnone
        · rw [hfront] at hnone; cases hnone
        · exact hnone
      exact ⟨[], ['a'], not_infix_of_letter_behind hc hback⟩

/-- **Searching for parts of a text in lower case** finds a trimmed text in all texts around it just if its
    capital sigmas are settled. -/
theorem lower_trim_infix_iff (cs : List Char) :
    (∀ before after, lower (trim cs) <:+: lower (before ++ cs ++ after)) ↔ SettledSigmas cs := by
  constructor
  · intro h
    by_contra hunsettled
    obtain ⟨before, after, hnot⟩ := exists_not_infix_lower hunsettled
    exact hnot (h before after)
  · intro h before after
    obtain ⟨front, back, hlower, _⟩ := exists_lower_trim cs
    exact List.IsInfix.trans ⟨front, back, hlower.symm⟩ (h.lower_infix_lower before after)

end GraphQLCache.Text
