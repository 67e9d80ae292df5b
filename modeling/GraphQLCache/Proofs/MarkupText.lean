import GraphQLCache.Console.Markup
import Mathlib

/-!
# `Proofs.MarkupText` — escaped text inside a style

`Inert u cs` says that the characters `u`, in front of the markup `cs`, add nothing but text to its pieces.
Text without an opening bracket is inert, and so is any text once it is escaped, if the markup behind it cannot
end a tag that the text begins (`inert_escape`). So a message in red can always be rendered, whatever it quotes
(`render_red`).
-/

namespace GraphQLCache.Console

/-! ## Tags -/

/-- What stands between the brackets of a tag. -/
def IsTag (body : List Char) : Prop :=
  ∃ c rest, body = c :: rest ∧ startsTag c = true ∧ ∀ d ∈ rest, d ≠ ']' ∧ d ≠ '['

/-- Whether a closing bracket comes before any opening one. -/
def closesFirst : List Char → Bool
  | [] => false
  | c :: rest => if c = ']' then true else if c = '[' then false else closesFirst rest

variable {c : Char} {cs u v tag : List Char} {slashes : Nat}

theorem startsTag_ne (h : startsTag c = true) : c ≠ ']' ∧ c ≠ '[' ∧ c ≠ '\\' := by
  refine ⟨?_, ?_, ?_⟩ <;> rintro rfl <;> exact absurd h (by decide)

theorem tagAt?_of_ne (h : c ≠ '[') (cs : List Char) : tagAt? (c :: cs) = none := by
  rw [tagAt?.eq_def]
  split
  · rename_i heq; exact absurd (List.cons.inj heq).1 h
  · rfl

/-- A tag in its brackets is found in front of anything. -/
theorem tagAt?_bracketed (h : IsTag tag) (cs : List Char) : tagAt? (bracketed tag ++ cs) = some tag := by
  obtain ⟨c, rest, rfl, hc, hrest⟩ := h
  have htake : (rest ++ ']' :: cs).takeWhile (fun c => c ≠ ']' && c ≠ '[') = rest := by
    rw [List.takeWhile_append_of_pos fun d hd => by simpa using hrest d hd]
    simp
  have hshape : bracketed (c :: rest) ++ cs = '[' :: c :: (rest ++ ']' :: cs) := by simp [bracketed]
  rw [hshape, tagAt?, if_pos hc, htake]
  dsimp only
  rw [List.drop_left]
  rfl

/-- What is found is a tag in its brackets. -/
theorem isTag_of_tagAt? (h : tagAt? cs = some tag) : IsTag tag ∧ ∃ rest, cs = bracketed tag ++ rest := by
  rw [tagAt?.eq_def] at h
  split at h
  · rename_i c rest
    split at h
    · rename_i hc
      dsimp only at h
      split at h
      · rename_i behind hbehind
        obtain rfl := Option.some.inj h
        refine ⟨⟨c, _, rfl, hc, fun d hd => by simpa using List.mem_takeWhile_imp hd⟩, behind, ?_⟩
        have hrest :=
          List.prefix_iff_eq_append.mp (List.takeWhile_prefix (l := rest) fun c => c ≠ ']' && c ≠ '[')
        rw [hbehind] at hrest
        simp only [bracketed, List.cons_append, List.append_assoc, List.nil_append]
        exact congrArg (fun t => '[' :: c :: t) hrest.symm
      · cases h
    · cases h
  · cases h

theorem closesFirst_iff :
    closesFirst cs = true ↔ ∃ body rest, cs = body ++ ']' :: rest ∧ ∀ d ∈ body, d ≠ ']' ∧ d ≠ '[' := by
  constructor
  · intro h
    induction cs with
    | nil => cases h
    | cons c cs ih =>
        rw [closesFirst] at h
        split at h
        · rename_i hc
          exact ⟨[], cs, by rw [hc]; rfl, fun d hd => absurd hd List.not_mem_nil⟩
        · rename_i hclose
          split at h
          · cases h
          · rename_i hopen
            obtain ⟨body, rest, rfl, hbody⟩ := ih h
            exact ⟨c :: body, rest, rfl, List.forall_mem_cons.mpr ⟨⟨hclose, hopen⟩, hbody⟩⟩
  · rintro ⟨body, rest, rfl, hbody⟩
    induction body with
    | nil => rfl
    | cons d body ih =>
        obtain ⟨hd, hbody⟩ := List.forall_mem_cons.mp hbody
        rw [List.cons_append, closesFirst, if_neg hd.1, if_neg hd.2]
        exact ih hbody

/-- Text without brackets does not decide which one comes first. -/
theorem closesFirst_append (hopen : '[' ∉ u) (hclose : ']' ∉ u) (cs : List Char) :
    closesFirst (u ++ cs) = closesFirst cs := by
  induction u with
  | nil => rfl
  | cons c u ih =>
      rw [List.mem_cons, not_or] at hopen hclose
      rw [List.cons_append, closesFirst, if_neg (Ne.symm hclose.1), if_neg (Ne.symm hopen.1)]
      exact ih hopen.2 hclose.2

/-- No tag begins where an opening bracket or nothing comes next. -/
theorem tagAt?_of_not_closesFirst (h : closesFirst cs = false) : tagAt? ('[' :: cs) = none := by
  by_contra hsome
  obtain ⟨tag, htag⟩ := Option.ne_none_iff_exists'.mp hsome
  obtain ⟨⟨c, body, rfl, hc, hbody⟩, rest, hcs⟩ := isTag_of_tagAt? htag
  obtain rfl : cs = c :: body ++ ']' :: rest := by simpa [bracketed] using hcs
  have hne := startsTag_ne hc
  rw [closesFirst_iff.mpr ⟨_, rest, rfl, List.forall_mem_cons.mpr ⟨⟨hne.1, hne.2.1⟩, hbody⟩⟩] at h
  cases h

/-- No tag begins with a character that starts none. -/
theorem tagAt?_of_not_startsTag (h : startsTag c = false) (cs : List Char) :
    tagAt? ('[' :: c :: cs) = none := by
  rw [tagAt?, h]
  exact if_neg Bool.false_ne_true

/-- A tag begins with a character that starts one, if it is closed first. -/
theorem tagAt?_ne_none (hc : startsTag c = true) (h : closesFirst cs = true) :
    tagAt? ('[' :: c :: cs) ≠ none := by
  obtain ⟨body, rest, rfl, hbody⟩ := closesFirst_iff.mp h
  have htag := tagAt?_bracketed ⟨c, body, rfl, hc, hbody⟩ rest
  have hshape : bracketed (c :: body) ++ rest = '[' :: c :: (body ++ ']' :: rest) := by simp [bracketed]
  rw [← hshape, htag]
  exact Option.some_ne_none _

/-! ### Backslashes in front of a tag -/

theorem slashedTag?_slash (cs : List Char) :
    slashedTag? ('\\' :: cs) = (slashedTag? cs).map fun r => (r.1 + 1, r.2) := by
  simp only [slashedTag?, List.takeWhile_cons_of_pos, decide_true, List.length_cons, List.drop_succ_cons,
    Option.map_map]
  rfl

theorem slashedTag?_of_ne (h : c ≠ '\\') (cs : List Char) :
    slashedTag? (c :: cs) = (tagAt? (c :: cs)).map fun tag => (0, tag) := by
  rw [slashedTag?, List.takeWhile_cons_of_neg (by simpa using h)]
  rfl

/-- A character that is neither a backslash nor an opening bracket begins no tag. -/
theorem slashedTag?_plain (hslash : c ≠ '\\') (hopen : c ≠ '[') (cs : List Char) :
    slashedTag? (c :: cs) = none := by
  rw [slashedTag?_of_ne hslash, tagAt?_of_ne hopen]
  rfl

theorem slashedTag?_slashes (h : IsTag tag) (slashes : Nat) (cs : List Char) :
    slashedTag? (List.replicate slashes '\\' ++ bracketed tag ++ cs) = some (slashes, tag) := by
  induction slashes with
  | zero =>
      rw [List.replicate_zero, List.nil_append]
      change slashedTag? ('[' :: (tag ++ [']'] ++ cs)) = _
      rw [slashedTag?_of_ne (by decide)]
      exact congrArg _ (tagAt?_bracketed h cs)
  | succ n ih =>
      rw [List.replicate_succ, List.cons_append, List.cons_append, slashedTag?_slash, ih]
      rfl

theorem slashedTag?_eq_some (h : slashedTag? cs = some (slashes, tag)) :
    IsTag tag ∧ ∃ rest, cs = List.replicate slashes '\\' ++ bracketed tag ++ rest := by
  obtain ⟨tag', htag, heq⟩ := Option.map_eq_some_iff.mp h
  obtain ⟨rfl, rfl⟩ := Prod.mk.inj heq
  obtain ⟨hbody, rest, hrest⟩ := isTag_of_tagAt? htag
  refine ⟨hbody, rest, ?_⟩
  have hslashes : cs.takeWhile (· = '\\') = List.replicate (cs.takeWhile (· = '\\')).length '\\' :=
    List.eq_replicate_of_mem fun c hc => by simpa using List.mem_takeWhile_imp hc
  have hcs := List.prefix_iff_eq_append.mp (List.takeWhile_prefix (l := cs) (· = '\\'))
  rw [hrest] at hcs
  rw [← hslashes, List.append_assoc, hcs]

/-! ## Inert text -/

/-- Whether a piece is text. -/
def Piece.isText : Piece → Bool
  | .text _ => true
  | .tag _ _ => false

theorem isText_textPiece (content : List Char) : ∀ p ∈ textPiece content, p.isText = true := by
  intro p hp
  unfold textPiece at hp
  split at hp
  · cases hp
  · rw [List.mem_singleton.mp hp]; rfl

/-- **Characters are inert in front of a markup**: they add nothing but text to its pieces. -/
def Inert (u cs : List Char) : Prop :=
  ∀ plain position fuel, (u ++ cs).length ≤ fuel → ∃ texts plain' position' fuel',
    (∀ p ∈ texts, Piece.isText p = true) ∧ cs.length ≤ fuel'
      ∧ piecesFrom plain position fuel (u ++ cs) = texts ++ piecesFrom plain' position' fuel' cs

namespace Inert

theorem nil : Inert [] cs := fun plain position fuel hfuel =>
  ⟨[], plain, position, fuel, fun _ h => absurd h List.not_mem_nil, hfuel, rfl⟩

/-- A character at which no tag begins. -/
theorem cons (h : slashedTag? (c :: (u ++ cs)) = none) (hu : Inert u cs) : Inert (c :: u) cs := by
  intro plain position fuel hfuel
  obtain ⟨fuel, rfl⟩ := Nat.exists_eq_succ_of_ne_zero (n := fuel) (by rintro rfl; cases hfuel)
  obtain ⟨texts, plain', position', fuel', htexts, hfuel', hpieces⟩ :=
    hu (c :: plain) (position + 1) fuel (Nat.le_of_succ_le_succ hfuel)
  refine ⟨texts, plain', position', fuel', htexts, hfuel', ?_⟩
  rw [List.cons_append, piecesFrom, h]
  exact hpieces

theorem append (hu : Inert u (v ++ cs)) (hv : Inert v cs) : Inert (u ++ v) cs := by
  intro plain position fuel hfuel
  rw [List.append_assoc] at hfuel ⊢
  obtain ⟨texts, plain', position', fuel', htexts, hfuel', hpieces⟩ := hu plain position fuel hfuel
  obtain ⟨texts', plain'', position'', fuel'', htexts', hfuel'', hpieces'⟩ := hv plain' position' fuel' hfuel'
  refine ⟨texts ++ texts', plain'', position'', fuel'', fun p hp => ?_, hfuel'', ?_⟩
  · exact (List.mem_append.mp hp).elim (htexts p) (htexts' p)
  · rw [hpieces, hpieces', List.append_assoc]

/-- A tag behind an odd number of backslashes. -/
theorem escapedTag (htag : IsTag tag) (slashes : Nat) (hu : Inert u cs) :
    Inert (List.replicate (2 * slashes + 1) '\\' ++ bracketed tag ++ u) cs := by
  intro plain position fuel hfuel
  obtain ⟨fuel, rfl⟩ := Nat.exists_eq_succ_of_ne_zero (n := fuel) (by rintro rfl; simp at hfuel)
  have hslashed := slashedTag?_slashes htag (2 * slashes + 1) (u ++ cs)
  have hlength : (List.replicate (2 * slashes + 1) '\\' ++ bracketed tag).length =
      2 * slashes + 1 + tag.length + 2 := by
    simp [bracketed]
    omega
  have hdrop : (List.replicate (2 * slashes + 1) '\\' ++ bracketed tag ++ (u ++ cs)).drop
      (2 * slashes + 1 + tag.length + 2) = u ++ cs := by
    rw [← hlength, List.drop_left]
  rw [List.append_assoc, List.length_append, hlength] at hfuel
  obtain ⟨texts, plain', position', fuel', htexts, hfuel', hpieces⟩ :=
    hu [] (position + (2 * slashes + 1 + tag.length + 2)) fuel (by omega)
  refine ⟨textPiece plain.reverse ++ textPiece (List.replicate slashes '\\')
    ++ .text (bracketed tag) :: texts, plain', position', fuel', fun p hp => ?_, hfuel', ?_⟩
  · simp only [List.mem_append, List.mem_cons] at hp
    rcases hp with (hp | hp) | rfl | hp
    · exact isText_textPiece _ p hp
    · exact isText_textPiece _ p hp
    · rfl
    · exact htexts p hp
  · rw [List.append_assoc]
    rw [List.replicate_succ, List.cons_append, List.cons_append] at hslashed hdrop ⊢
    have hodd : (2 * slashes + 1) % 2 = 1 := by omega
    have hhalf : (2 * slashes + 1) / 2 = slashes := by omega
    rw [piecesFrom, hslashed]
    dsimp only
    rw [hdrop, hpieces, if_pos hodd, hhalf]
    simp only [List.append_assoc, List.cons_append]

/-- Text without an opening bracket that does not end in a backslash. -/
theorem plain (hopen : '[' ∉ u) (hlast : u.getLast? ≠ some '\\') (cs : List Char) : Inert u cs := by
  have hnone : ∀ u : List Char, u ≠ [] → '[' ∉ u → u.getLast? ≠ some '\\' → slashedTag? (u ++ cs) = none := by
    intro u hne hopen hlast
    induction u with
    | nil => exact absurd rfl hne
    | cons c u ih =>
        rw [List.mem_cons, not_or] at hopen
        by_cases hc : c = '\\'
        · subst hc
          have hu : u ≠ [] := by rintro rfl; exact hlast rfl
          rw [List.getLast?_cons_of_ne_nil hu] at hlast
          rw [List.cons_append, slashedTag?_slash, ih hu hopen.2 hlast]
          rfl
        · exact slashedTag?_plain hc (Ne.symm hopen.1) _
  induction u with
  | nil => exact .nil
  | cons c u ih =>
      refine .cons (hnone (c :: u) (List.cons_ne_nil _ _) hopen hlast) ?_
      cases u with
      | nil => exact .nil
      | cons d u =>
          rw [List.getLast?_cons_cons] at hlast
          exact ih (fun h => hopen (List.mem_cons_of_mem _ h)) hlast

end Inert

/-! ## Escaped text -/

/-- Markup that neither is a tag, backslashes aside, nor closes one that begins in front of it. -/
structure Follows (cs : List Char) : Prop where
  noTag : slashedTag? cs = none
  noClose : closesFirst cs = false

theorem Follows.slash (h : Follows cs) : Follows ('\\' :: cs) :=
  ⟨by rw [slashedTag?_slash, h.noTag]; rfl, h.noClose⟩

/-- A tag to be escaped is escaped, and what is behind it. -/
theorem escapeTags_tag {fuel : Nat} (h : slashedTag? cs = some (slashes, tag)) (hfuel : cs.length ≤ fuel) :
    ∃ fuel' rest, cs = List.replicate slashes '\\' ++ bracketed tag ++ rest ∧ rest.length ≤ fuel' ∧ fuel' < fuel
      ∧ escapeTags fuel cs = List.replicate (2 * slashes + 1) '\\' ++ bracketed tag ++ escapeTags fuel' rest := by
  obtain ⟨htag, rest, hcs⟩ := slashedTag?_eq_some h
  have hlength : (List.replicate slashes '\\' ++ bracketed tag).length = slashes + tag.length + 2 := by
    simp [bracketed]
    omega
  have hrest : cs.drop (slashes + tag.length + 2) = rest := by rw [hcs, ← hlength, List.drop_left]
  have hcslength : cs.length = slashes + tag.length + 2 + rest.length := by
    rw [hcs, List.length_append, hlength]
  cases cs with
  | nil => cases h
  | cons c cs =>
      obtain ⟨fuel, rfl⟩ := Nat.exists_eq_succ_of_ne_zero (n := fuel) (by rintro rfl; cases hfuel)
      refine ⟨fuel, rest, hcs, by omega, Nat.lt_succ_self _, ?_⟩
      rw [escapeTags, h]
      dsimp only
      rw [hrest]

theorem escapeTags_plain {fuel : Nat} (h : slashedTag? (c :: cs) = none) :
    escapeTags (fuel + 1) (c :: cs) = c :: escapeTags fuel cs := by
  rw [escapeTags, h]

/-- Escaping puts no closing bracket in front. -/
theorem closesFirst_escapeTags {fuel : Nat} (h : closesFirst u = false) (hfuel : u.length ≤ fuel)
    (hcs : Follows cs) : closesFirst (escapeTags fuel u ++ cs) = false := by
  induction u generalizing fuel with
  | nil => cases fuel <;> exact hcs.noClose
  | cons c u ih =>
      cases hslashed : slashedTag? (c :: u) with
      | some r =>
          obtain ⟨fuel', rest, -, -, -, heq⟩ := escapeTags_tag hslashed hfuel
          rw [heq, List.append_assoc, List.append_assoc, closesFirst_append (by simp) (by simp)]
          rfl
      | none =>
          obtain ⟨fuel, rfl⟩ := Nat.exists_eq_succ_of_ne_zero (n := fuel) (by rintro rfl; cases hfuel)
          rw [escapeTags_plain hslashed, List.cons_append, closesFirst]
          rw [closesFirst] at h
          split at h
          · cases h
          · rename_i hclose
            rw [if_neg hclose]
            split at h
            · rename_i hopen; rw [if_pos hopen]
            · rename_i hopen
              rw [if_neg hopen]
              exact ih h (Nat.le_of_succ_le_succ hfuel)

/-- Escaping makes no tag out of an opening bracket. -/
theorem tagAt?_escapeTags {fuel : Nat} (h : tagAt? ('[' :: u) = none) (hfuel : u.length ≤ fuel)
    (hcs : Follows cs) : tagAt? ('[' :: (escapeTags fuel u ++ cs)) = none := by
  cases hclose : closesFirst u with
  | false => exact tagAt?_of_not_closesFirst (closesFirst_escapeTags hclose hfuel hcs)
  | true =>
      cases u with
      | nil => cases hclose
      | cons d u =>
          cases hslashed : slashedTag? (d :: u) with
          | some r =>
              obtain ⟨fuel', rest, -, -, -, heq⟩ := escapeTags_tag hslashed hfuel
              rw [heq, List.replicate_succ]
              exact tagAt?_of_not_startsTag rfl _
          | none =>
              obtain ⟨fuel, rfl⟩ := Nat.exists_eq_succ_of_ne_zero (n := fuel) (by rintro rfl; cases hfuel)
              rw [escapeTags_plain hslashed]
              -- if a tag could begin here, it would have been one before the escaping
              refine tagAt?_of_not_startsTag (Bool.eq_false_iff.mpr fun hd => ?_) _
              have hne := startsTag_ne hd
              rw [closesFirst, if_neg hne.1, if_neg hne.2.1] at hclose
              exact tagAt?_ne_none hd hclose h

/-- Escaping makes no new tag. -/
theorem slashedTag?_escapeTags {fuel : Nat} (h : slashedTag? u = none) (hfuel : u.length ≤ fuel)
    (hcs : Follows cs) : slashedTag? (escapeTags fuel u ++ cs) = none := by
  induction u generalizing fuel with
  | nil => cases fuel <;> exact hcs.noTag
  | cons c u ih =>
      obtain ⟨fuel, rfl⟩ := Nat.exists_eq_succ_of_ne_zero (n := fuel) (by rintro rfl; cases hfuel)
      have hfuel' := Nat.le_of_succ_le_succ hfuel
      rw [escapeTags_plain h, List.cons_append]
      by_cases hslash : c = '\\'
      · subst hslash
        rw [slashedTag?_slash] at h ⊢
        rw [ih (Option.map_eq_none_iff.mp h) hfuel']
        rfl
      by_cases hopen : c = '['
      · subst hopen
        rw [slashedTag?_of_ne (by decide)] at h ⊢
        rw [tagAt?_escapeTags (Option.map_eq_none_iff.mp h) hfuel' hcs]
        rfl
      · exact slashedTag?_plain hslash hopen _

theorem inert_escapeTags {fuel : Nat} (hfuel : u.length ≤ fuel) (hcs : Follows cs) :
    Inert (escapeTags fuel u) cs := by
  -- a tag takes several characters for one unit of fuel, so that the fuel behind it is only known to be less
  induction fuel using Nat.strongRecOn generalizing u with
  | ind fuel ih =>
      cases u with
      | nil => cases fuel <;> exact .nil
      | cons c u =>
          cases hslashed : slashedTag? (c :: u) with
          | some r =>
              obtain ⟨fuel', rest, -, hrest, hless, heq⟩ := escapeTags_tag hslashed hfuel
              rw [heq]
              exact .escapedTag (slashedTag?_eq_some hslashed).1 r.1 (ih fuel' hless hrest)
          | none =>
              obtain ⟨fuel, rfl⟩ := Nat.exists_eq_succ_of_ne_zero (n := fuel) (by rintro rfl; cases hfuel)
              have hnone := slashedTag?_escapeTags hslashed hfuel hcs
              rw [escapeTags_plain hslashed] at hnone ⊢
              exact .cons hnone (ih fuel (Nat.lt_succ_self _) (Nat.le_of_succ_le_succ hfuel))

/-- An escaped text is its tags escaped, with a backslash behind it or not. -/
theorem escape_cases (u : List Char) :
    escape u = escapeTags u.length u ∨ escape u = escapeTags u.length u ++ ['\\'] := by
  unfold escape doubleLastSlash
  split
  · rename_i h
    rw [← List.reverse_reverse (escapeTags u.length u), h]
    exact .inr rfl
  · split
    · exact .inl rfl
    · exact .inr rfl
  · exact .inl rfl

/-- **An escaped text is inert** in front of markup that ends no tag. -/
theorem inert_escape (u : List Char) (hcs : Follows cs) : Inert (escape u) cs := by
  rcases escape_cases u with h | h
  · rw [h]
    exact inert_escapeTags le_rfl hcs
  -- the last backslash is doubled, or else it would escape the tag that stands behind
  · rw [h]
    exact .append (inert_escapeTags le_rfl hcs.slash) (.cons hcs.slash.noTag .nil)

theorem slashedTag?_of_not_mem (hopen : '[' ∉ u) : slashedTag? u = none := by
  by_contra hsome
  obtain ⟨⟨slashes, tag⟩, hslashed⟩ := Option.ne_none_iff_exists'.mp hsome
  obtain ⟨-, rest, rfl⟩ := slashedTag?_eq_some hslashed
  exact hopen (by simp [bracketed])

/-- **A text without brackets** that does not end in a backslash needs no escape. -/
theorem escape_plain (hopen : '[' ∉ u) (hlast : u.getLast? ≠ some '\\') : escape u = u := by
  have htags : ∀ (u : List Char) (fuel : Nat), '[' ∉ u → escapeTags fuel u = u := by
    intro u
    induction u with
    | nil => intro fuel _; cases fuel <;> rfl
    | cons c u ih =>
        intro fuel hopen
        cases fuel with
        | zero => rfl
        | succ fuel =>
            rw [escapeTags_plain (slashedTag?_of_not_mem hopen),
              ih fuel fun h => hopen (List.mem_cons_of_mem c h)]
  rw [escape, htags u _ hopen, doubleLastSlash]
  rw [← List.head?_reverse] at hlast
  split
  · rename_i heq; rw [heq] at hlast; exact absurd rfl hlast
  · rename_i heq; rw [heq] at hlast; exact absurd rfl hlast
  · rfl

/-! ## A message in red -/

theorem renderPieces_texts {texts : List Piece} (h : ∀ p ∈ texts, p.isText = true) {opened : List String}
    {pieces : List Piece} {text : List Char} (hpieces : renderPieces opened pieces = .ok text) :
    ∃ text', renderPieces opened (texts ++ pieces) = .ok text' := by
  induction texts with
  | nil => exact ⟨text, hpieces⟩
  | cons p texts ih =>
      obtain ⟨hp, htexts⟩ := List.forall_mem_cons.mp h
      obtain ⟨text', htext'⟩ := ih htexts
      cases p with
      | tag body position => cases hp
      | text content =>
          refine ⟨printed content ++ text', ?_⟩
          rw [List.cons_append, renderPieces, htext']
          rfl

/-- The pieces of a markup with a tag in front. -/
theorem piecesFrom_tag (htag : IsTag tag) (plain : List Char) (position fuel : Nat) (cs : List Char) :
    piecesFrom plain position (fuel + 1) (bracketed tag ++ cs) =
      textPiece plain.reverse ++ .tag tag position :: piecesFrom [] (position + (tag.length + 2)) fuel cs := by
  have hslashed : slashedTag? (bracketed tag ++ cs) = some (0, tag) := slashedTag?_slashes htag 0 cs
  have hdrop : (bracketed tag ++ cs).drop (tag.length + 2) = cs := by
    rw [show tag.length + 2 = (bracketed tag).length by simp [bracketed], List.drop_left]
  change piecesFrom plain position (fuel + 1) ('[' :: (tag ++ [']'] ++ cs)) = _
  rw [piecesFrom, show slashedTag? ('[' :: (tag ++ [']'] ++ cs)) = _ from hslashed]
  simp only [Nat.zero_mod, Nat.zero_ne_one, if_false, Nat.zero_add, Nat.zero_div, List.replicate_zero]
  rw [show ('[' :: (tag ++ [']'] ++ cs)).drop (tag.length + 2) = _ from hdrop, textPiece, textPiece]
  simp

theorem applyTag_red (position : Nat) : applyTag "red".toList position [] = .ok ["red"] := by
  cbv

theorem applyTag_closeRed (position : Nat) : applyTag "/red".toList position ["red"] = .ok [] := by
  cbv

theorem isTag_cons {c : Char} {rest : List Char} (hc : startsTag c = true) (hopen : '[' ∉ rest)
    (hclose : ']' ∉ rest) : IsTag (c :: rest) := by
  refine ⟨c, rest, rfl, hc, fun d hd => ⟨?_, ?_⟩⟩
  · rintro rfl
    exact hclose hd
  · rintro rfl
    exact hopen hd

theorem isTag_red : IsTag "red".toList := isTag_cons (by decide) (by decide) (by decide)

theorem isTag_closeRed : IsTag "/red".toList := isTag_cons (by decide) (by decide) (by decide)

/-- **A message in red is rendered** if what it says is inert. -/
theorem render_red (h : Inert u "[/red]".toList) :
    ∃ text, render ("[red]".toList ++ (u ++ "[/red]".toList)) = .ok text := by
  obtain ⟨texts, plain, position, fuel, htexts, hfuel, hpieces⟩ :=
    h [] (0 + ("red".toList.length + 2)) (4 + (u ++ "[/red]".toList).length) (Nat.le_add_left _ _)
  obtain ⟨fuel, rfl⟩ := Nat.exists_eq_succ_of_ne_zero (n := fuel) (by rintro rfl; simp at hfuel)
  have hclose : piecesFrom plain position (fuel + 1) "[/red]".toList =
      textPiece plain.reverse ++ [.tag "/red".toList position] := by
    have hend : ∀ position, piecesFrom [] position fuel [] = [] := by
      intro position
      cases fuel <;> rfl
    have hcut := piecesFrom_tag isTag_closeRed plain position fuel []
    rw [hend] at hcut
    exact hcut
  rw [hclose, ← List.append_assoc] at hpieces
  have hrender : renderPieces ["red"] [.tag "/red".toList position] = .ok [] := by
    rw [renderPieces, applyTag_closeRed]
    rfl
  have hall : ∀ p ∈ texts ++ textPiece plain.reverse, p.isText = true := fun p hp =>
    (List.mem_append.mp hp).elim (htexts p) (isText_textPiece _ p)
  obtain ⟨text, htext⟩ := renderPieces_texts hall hrender
  refine ⟨text, ?_⟩
  have hred : pieces ("[red]".toList ++ (u ++ "[/red]".toList)) =
      .tag "red".toList 0 :: piecesFrom [] (0 + ("red".toList.length + 2)) (4 + (u ++ "[/red]".toList).length)
        (u ++ "[/red]".toList) := by
    rw [pieces, List.length_append, show "[red]".toList.length = 4 + 1 from rfl, Nat.add_right_comm]
    exact piecesFrom_tag isTag_red [] 0 _ _
  rw [render, hred, renderPieces, applyTag_red, hpieces]
  exact htext

end GraphQLCache.Console
