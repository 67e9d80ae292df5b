import GraphQLCache.Proofs.JsonLeaves

/-!
# `Proofs.JsonReader` — which characters the reader takes for a value

`TakesValue u j` says that the characters `u` are read as the value `j` in front of anything that may stand
behind a value, and that fuel of twice their number is enough. There is one rule for each way in which a value
is written, and every successful run of the reader has taken some characters by these rules
(`runsTake`). So what the reader makes of a value depends on the characters of the value alone.
-/

namespace GraphQLCache

/-! ## One step of the reader -/

/-- The words that stand for a value, with their values. -/
def jsonLiterals : List (List Char × Json) :=
  [("null".toList, .null), ("true".toList, .bool true), ("false".toList, .bool false),
   ("NaN".toList, .float (0.0 / 0.0)), ("Infinity".toList, .float (1.0 / 0.0)),
   ("-Infinity".toList, .float (-(1.0 / 0.0)))]

theorem readValue_literal {word : List Char} {j : Json} (h : (word, j) ∈ jsonLiterals) (fuel : Nat)
    (rest : List Char) : readValue (fuel + 1) (word ++ rest) = .ok (j, rest) := by
  simp only [jsonLiterals, List.mem_cons, List.not_mem_nil, or_false, Prod.mk.injEq] at h
  rcases h with ⟨rfl, rfl⟩ | ⟨rfl, rfl⟩ | ⟨rfl, rfl⟩ | ⟨rfl, rfl⟩ | ⟨rfl, rfl⟩ | ⟨rfl, rfl⟩ <;> rfl

/-- **How a value may begin**: with a quote, a brace, a bracket or a word; anything else is read as a number. -/
theorem beginning_cases (cs : List Char) :
    (∃ rest, cs = '"' :: rest) ∨ (∃ rest, cs = '\x7b' :: rest) ∨ (∃ rest, cs = '[' :: rest)
      ∨ (∃ word j rest, (word, j) ∈ jsonLiterals ∧ cs = word ++ rest)
      ∨ (∀ fuel, readValue (fuel + 1) cs = readNumber cs) := by
  by_cases hquote : ∃ rest, cs = '"' :: rest
  · exact .inl hquote
  by_cases hbrace : ∃ rest, cs = '\x7b' :: rest
  · exact .inr (.inl hbrace)
  by_cases hbracket : ∃ rest, cs = '[' :: rest
  · exact .inr (.inr (.inl hbracket))
  by_cases hword : ∃ word j rest, (word, j) ∈ jsonLiterals ∧ cs = word ++ rest
  · exact .inr (.inr (.inr (.inl hword)))
  refine .inr (.inr (.inr (.inr fun fuel => ?_)))
  rw [readValue]
  · exact fun rest h => hquote ⟨rest, h⟩
  · exact fun rest h => hbrace ⟨rest, h⟩
  · exact fun rest h => hbracket ⟨rest, h⟩
  · exact fun rest h => hword ⟨"null".toList, .null, rest, by simp [jsonLiterals], h⟩
  · exact fun rest h => hword ⟨"true".toList, .bool true, rest, by simp [jsonLiterals], h⟩
  · exact fun rest h => hword ⟨"false".toList, .bool false, rest, by simp [jsonLiterals], h⟩
  · exact fun rest h => hword ⟨"NaN".toList, .float (0.0 / 0.0), rest, by simp [jsonLiterals], h⟩
  · exact fun rest h => hword ⟨"Infinity".toList, .float (1.0 / 0.0), rest, by simp [jsonLiterals], h⟩
  · exact fun rest h => hword ⟨"-Infinity".toList, .float (-(1.0 / 0.0)), rest, by simp [jsonLiterals], h⟩

variable {cs bs rest : List Char} {c : Char}

/-- Where a value may end, none begins. -/
theorem readValue_of_endsValue (hc : endsValue c = true) (fuel : Nat) (cs : List Char) :
    readValue fuel (c :: cs) = faultAt .value (c :: cs) := by
  cases fuel with
  | zero => rfl
  | succ fuel => rcases endsValue_iff.mp hc with rfl | rfl | rfl | rfl | rfl | rfl | rfl <;> rfl

/-- What is a number, or stops as one, is read as a number. -/
theorem readValue_number (h : readNumber cs ≠ faultAt .value cs) (fuel : Nat) :
    readValue (fuel + 1) cs = readNumber cs := by
  rcases beginning_cases cs with ⟨rest, rfl⟩ | ⟨rest, rfl⟩ | ⟨rest, rfl⟩ | ⟨word, j, rest, hword, rfl⟩ | hnumber
  · exact absurd rfl h
  · exact absurd rfl h
  · exact absurd rfl h
  · simp only [jsonLiterals, List.mem_cons, List.not_mem_nil, or_false, Prod.mk.injEq] at hword
    rcases hword with ⟨rfl, -⟩ | ⟨rfl, -⟩ | ⟨rfl, -⟩ | ⟨rfl, -⟩ | ⟨rfl, -⟩ | ⟨rfl, -⟩ <;> exact absurd rfl h
  · exact hnumber fuel

theorem readItems_of_endsValue (hc : endsValue c = true) (fuel : Nat) (cs : List Char) :
    readItems fuel (c :: cs) = faultAt .value (c :: cs) := by
  cases fuel with
  | zero => rfl
  | succ fuel =>
      rw [readItems, readValue_of_endsValue hc]
      rfl

/-- An entry begins with a quote. -/
theorem readEntries_of_ne (h : ∀ t, cs ≠ '"' :: t) (fuel : Nat) :
    readEntries fuel cs = faultAt .propertyName cs := by
  cases fuel with
  | zero => rfl
  | succ fuel => rw [readEntries]; exact h

/-- A text at whose beginning no value may end. -/
def NoEnd (cs : List Char) : Prop := ∀ c, cs.head? = some c → endsValue c = false

theorem NoEnd.noBlank (h : NoEnd cs) : NoBlank cs := by
  intro c hc
  have hend := h c hc
  rw [endsValue, Bool.or_assoc, Bool.or_assoc, Bool.or_eq_false_iff] at hend
  exact hend.1

theorem NoEnd.ne_cons (h : NoEnd cs) (hc : endsValue c = true) (rest : List Char) : cs ≠ c :: rest := by
  rintro rfl
  have hend := h c rfl
  rw [hc] at hend
  cases hend

/-- An array that is not closed at once is its items. -/
theorem readValue_items (hbs : IsBlanks bs) (h : NoBlank cs) (hopen : ∀ rest, cs ≠ ']' :: rest)
    (fuel : Nat) :
    readValue (fuel + 1) ('[' :: (bs ++ cs)) = (readItems fuel cs).map fun r => (.arr r.1, r.2) := by
  rw [readValue, skipBlanks_append hbs h]
  split
  · exact absurd rfl (hopen _)
  · rfl

theorem readValue_closed (hbs : IsBlanks bs) (fuel : Nat) (rest : List Char) :
    readValue (fuel + 1) ('[' :: (bs ++ ']' :: rest)) = .ok (.arr [], rest) := by
  rw [readValue, skipBlanks_append hbs (.cons rfl _)]
  rfl

/-- An object that is not closed at once is its entries. -/
theorem readValue_entries (hbs : IsBlanks bs) (h : NoBlank cs) (hopen : ∀ rest, cs ≠ '\x7d' :: rest)
    (fuel : Nat) :
    readValue (fuel + 1) ('\x7b' :: (bs ++ cs)) =
      (readEntries fuel cs).map fun r => (.obj (Entries.ofPairs r.1), r.2) := by
  rw [readValue, skipBlanks_append hbs h]
  split
  · exact absurd rfl (hopen _)
  · rfl

theorem readValue_closedObject (hbs : IsBlanks bs) (fuel : Nat) (rest : List Char) :
    readValue (fuel + 1) ('\x7b' :: (bs ++ '\x7d' :: rest)) = .ok (.obj [], rest) := by
  rw [readValue, skipBlanks_append hbs (.cons rfl _)]
  rfl

/-- What may stand behind an opening mark: what closes it at once, or anything else. -/
theorem opening_cases (close : Char) (cs : List Char) :
    (∃ bs behind, IsBlanks bs ∧ cs = bs ++ close :: behind)
      ∨ ∃ bs behind, IsBlanks bs ∧ NoBlank behind ∧ (∀ rest, behind ≠ close :: rest) ∧ cs = bs ++ behind := by
  obtain ⟨bs, hbs, hcs⟩ := exists_blanks cs
  by_cases hclose : ∃ behind, skipBlanks cs = close :: behind
  · obtain ⟨behind, hbehind⟩ := hclose
    exact .inl ⟨bs, behind, hbs, hbehind ▸ hcs⟩
  · exact .inr ⟨bs, skipBlanks cs, hbs, noBlank_skipBlanks cs, fun rest h => hclose ⟨rest, h⟩, hcs⟩

/-! ### Behind an item and behind an entry -/

/-- The items from one that is read, with what is left behind it. -/
def itemsBehind (fuel : Nat) (r : Json × List Char) : JsonStep (List Json) :=
  match skipBlanks r.2 with
  | ']' :: rest => .ok ([r.1], rest)
  | ',' :: rest => (readItems fuel (skipBlanks rest)).map fun r' => (r.1 :: r'.1, r'.2)
  | rest => faultAt .comma rest

/-- The entries from one that is read, with what is left behind it. -/
def entriesBehind (fuel : Nat) (key : String) (r : Json × List Char) : JsonStep (List (String × Json)) :=
  match skipBlanks r.2 with
  | '\x7d' :: rest => .ok ([(key, r.1)], rest)
  | ',' :: rest => (readEntries fuel (skipBlanks rest)).map fun r' => ((key, r.1) :: r'.1, r'.2)
  | rest => faultAt .comma rest

theorem readItems_succ (fuel : Nat) (cs : List Char) :
    readItems (fuel + 1) cs = (readValue fuel cs).bind (itemsBehind fuel) := by
  rw [readItems]
  rfl

/-- A key, its colon, and a value behind them. -/
theorem readEntries_key {key bs' : List Char} {k : String} (hkey : TakesString key k) (hbs : IsBlanks bs)
    (hbs' : IsBlanks bs') (h : NoBlank cs) (fuel : Nat) :
    readEntries (fuel + 1) ('"' :: (key ++ (bs ++ ':' :: (bs' ++ cs)))) =
      (readValue fuel cs).bind (entriesBehind fuel k) := by
  rw [readEntries, hkey]
  dsimp only [bind, Except.bind]
  rw [skipBlanks_append hbs (.cons rfl _)]
  split
  · rename_i rest heq
    obtain ⟨-, rfl⟩ := List.cons.inj heq
    rw [skipBlanks_append hbs' h]
    rfl
  · rename_i hcolon
    exact absurd rfl (hcolon _)

/-- How entries may begin: with a key and its colon; anything else stops the reader, but not for want of a
    value. -/
theorem entries_cases (cs : List Char) :
    (∃ key k bs bs' behind, TakesString key k ∧ IsBlanks bs ∧ IsBlanks bs' ∧ NoBlank behind
        ∧ cs = '"' :: (key ++ (bs ++ ':' :: (bs' ++ behind))))
      ∨ ∃ stop, stop.isAtValue = false ∧ ∀ fuel, readEntries (fuel + 1) cs = .error stop := by
  -- no quote, no end of the key, no colon: each of them is a fault of its own, and none is for want of a value
  by_cases hquote : ∃ t, cs = '"' :: t
  · obtain ⟨t, rfl⟩ := hquote
    cases hread : readString t with
    | error stop =>
        refine .inr ⟨stop, not_isAtValue_of_string hread, fun fuel => ?_⟩
        rw [readEntries, hread]
        rfl
    | ok r =>
        obtain ⟨k, left⟩ := r
        by_cases hcolon : ∃ behind, skipBlanks left = ':' :: behind
        · obtain ⟨behind, hbehind⟩ := hcolon
          obtain ⟨key, rfl, hkey⟩ := exists_string hread
          obtain ⟨bs, hbs, hleft⟩ := exists_blanks_of_eq hbehind
          obtain ⟨bs', hbs', hbehind'⟩ := exists_blanks behind
          refine .inl ⟨key, k, bs, bs', skipBlanks behind, hkey, hbs, hbs', noBlank_skipBlanks behind, ?_⟩
          rw [← hbehind', ← hleft]
        · refine .inr ⟨.fault .colon (skipBlanks left).length, rfl, fun fuel => ?_⟩
          rw [readEntries, hread]
          dsimp only [bind, Except.bind]
          split
          · rename_i h; exact absurd ⟨_, h⟩ hcolon
          · rfl
  · exact .inr ⟨.fault .propertyName cs.length, rfl, fun fuel =>
      readEntries_of_ne (fun t h => hquote ⟨t, h⟩) _⟩

theorem itemsBehind_close (hbs : IsBlanks bs) (fuel : Nat) (j : Json) (rest : List Char) :
    itemsBehind fuel (j, bs ++ ']' :: rest) = .ok ([j], rest) := by
  rw [itemsBehind, skipBlanks_append hbs (.cons rfl _)]
  rfl

theorem itemsBehind_comma {bs' : List Char} (hbs : IsBlanks bs) (hbs' : IsBlanks bs') (h : NoBlank cs)
    (fuel : Nat) (j : Json) :
    itemsBehind fuel (j, bs ++ ',' :: (bs' ++ cs)) = (readItems fuel cs).map fun r => (j :: r.1, r.2) := by
  rw [itemsBehind, skipBlanks_append hbs (.cons rfl _)]
  change (readItems fuel (skipBlanks (bs' ++ cs))).map _ = _
  rw [skipBlanks_append hbs' h]

theorem entriesBehind_close (hbs : IsBlanks bs) (fuel : Nat) (k : String) (j : Json) (rest : List Char) :
    entriesBehind fuel k (j, bs ++ '\x7d' :: rest) = .ok ([(k, j)], rest) := by
  rw [entriesBehind, skipBlanks_append hbs (.cons rfl _)]
  rfl

theorem entriesBehind_comma {bs' : List Char} (hbs : IsBlanks bs) (hbs' : IsBlanks bs') (h : NoBlank cs)
    (fuel : Nat) (k : String) (j : Json) :
    entriesBehind fuel k (j, bs ++ ',' :: (bs' ++ cs)) =
      (readEntries fuel cs).map fun r => ((k, j) :: r.1, r.2) := by
  rw [entriesBehind, skipBlanks_append hbs (.cons rfl _)]
  change (readEntries fuel (skipBlanks (bs' ++ cs))).map _ = _
  rw [skipBlanks_append hbs' h]

/-- What may stand behind an item or an entry: what closes them all, or a comma. -/
theorem behind_cases (close : Char) (rest : List Char) :
    (∃ bs behind, IsBlanks bs ∧ rest = bs ++ close :: behind)
      ∨ (∃ bs bs' cs, IsBlanks bs ∧ IsBlanks bs' ∧ NoBlank cs ∧ rest = bs ++ ',' :: (bs' ++ cs))
      ∨ ((∀ behind, skipBlanks rest ≠ close :: behind) ∧ ∀ behind, skipBlanks rest ≠ ',' :: behind) := by
  by_cases hclose : ∃ behind, skipBlanks rest = close :: behind
  · obtain ⟨behind, hbehind⟩ := hclose
    obtain ⟨bs, hbs, hrest⟩ := exists_blanks_of_eq hbehind
    exact .inl ⟨bs, behind, hbs, hrest⟩
  by_cases hcomma : ∃ behind, skipBlanks rest = ',' :: behind
  · obtain ⟨behind, hbehind⟩ := hcomma
    obtain ⟨bs, hbs, hrest⟩ := exists_blanks_of_eq hbehind
    obtain ⟨bs', hbs', hbehind'⟩ := exists_blanks behind
    exact .inr (.inl ⟨bs, bs', skipBlanks behind, hbs, hbs', noBlank_skipBlanks behind, hbehind' ▸ hrest⟩)
  · exact .inr (.inr ⟨fun behind h => hclose ⟨behind, h⟩, fun behind h => hcomma ⟨behind, h⟩⟩)

theorem itemsBehind_fault (hclose : ∀ behind, skipBlanks rest ≠ ']' :: behind)
    (hcomma : ∀ behind, skipBlanks rest ≠ ',' :: behind) (fuel : Nat) (j : Json) :
    itemsBehind fuel (j, rest) = faultAt .comma (skipBlanks rest) := by
  rw [itemsBehind]
  split
  · rename_i h; exact absurd h (hclose _)
  · rename_i h; exact absurd h (hcomma _)
  · rfl

theorem entriesBehind_fault (hclose : ∀ behind, skipBlanks rest ≠ '\x7d' :: behind)
    (hcomma : ∀ behind, skipBlanks rest ≠ ',' :: behind) (fuel : Nat) (k : String) (j : Json) :
    entriesBehind fuel k (j, rest) = faultAt .comma (skipBlanks rest) := by
  rw [entriesBehind]
  split
  · rename_i h; exact absurd h (hclose _)
  · rename_i h; exact absurd h (hcomma _)
  · rfl

/-! ## Characters that are taken -/

/-- **The characters of a value**: in front of what may stand behind a value they are read as `j`. -/
def TakesValue (u : List Char) (j : Json) : Prop :=
  ∀ fuel rest, 2 * u.length ≤ fuel → EndsValue rest → readValue fuel (u ++ rest) = .ok (j, rest)

/-- The characters of the items of an array, with the closing bracket. -/
def TakesItems (u : List Char) (items : List Json) : Prop :=
  ∀ fuel rest, 2 * u.length ≤ fuel → readItems fuel (u ++ rest) = .ok (items, rest)

/-- The characters of the entries of an object, with the closing brace. -/
def TakesEntries (u : List Char) (entries : List (String × Json)) : Prop :=
  ∀ fuel rest, 2 * u.length ≤ fuel → readEntries fuel (u ++ rest) = .ok (entries, rest)

section Rules

variable {u v w key : List Char} {j : Json} {items : List Json} {entries : List (String × Json)} {s : String}
  {bs₁ bs₂ bs₃ bs₄ : List Char}

theorem TakesValue.noEnd (h : TakesValue u j) : NoEnd u := by
  intro c hc
  cases u with
  | nil => cases hc
  | cons d t =>
      cases hc
      refine Bool.eq_false_iff.mpr fun hend => ?_
      have hread := h (2 * (c :: t).length) [] le_rfl endsValue_nil
      rw [List.append_nil, readValue_of_endsValue hend] at hread
      cases hread

theorem TakesValue.ne_nil (h : TakesValue u j) : u ≠ [] := by
  rintro rfl
  exact nomatch h 0 [] le_rfl endsValue_nil

theorem NoEnd.append (h : NoEnd u) (hne : u ≠ []) (cs : List Char) : NoEnd (u ++ cs) := by
  obtain ⟨c, t, rfl⟩ := List.exists_cons_of_ne_nil hne
  exact fun d hd => h d hd

theorem TakesItems.noEnd (h : TakesItems u items) : NoEnd u := by
  intro c hc
  cases u with
  | nil => cases hc
  | cons d t =>
      cases hc
      refine Bool.eq_false_iff.mpr fun hend => ?_
      have hread := h (2 * (c :: t).length) [] le_rfl
      rw [List.append_nil, readItems_of_endsValue hend] at hread
      cases hread

theorem TakesItems.ne_nil (h : TakesItems u items) : u ≠ [] := by
  rintro rfl
  exact nomatch h 0 [] le_rfl

theorem TakesEntries.exists_cons (h : TakesEntries u entries) : ∃ t, u = '"' :: t := by
  by_contra hquote
  have hread := h _ [] le_rfl
  rw [List.append_nil, readEntries_of_ne fun t ht => hquote ⟨t, ht⟩] at hread
  cases hread

theorem TakesEntries.noEnd (h : TakesEntries u entries) : NoEnd u := by
  obtain ⟨t, rfl⟩ := h.exists_cons
  intro c hc
  cases hc
  rfl

/-! ### Values -/

theorem TakesValue.string (h : TakesString u s) : TakesValue ('"' :: u) (.str s) := by
  intro fuel rest hfuel _
  obtain ⟨fuel, rfl⟩ := Nat.exists_eq_succ_of_ne_zero (n := fuel) (by simp at hfuel; omega)
  rw [List.cons_append, readValue, h rest]
  rfl

theorem TakesValue.literal (h : (u, j) ∈ jsonLiterals) : TakesValue u j := by
  intro fuel rest hfuel _
  have hlength : 0 < u.length := by
    simp only [jsonLiterals, List.mem_cons, List.not_mem_nil, or_false, Prod.mk.injEq] at h
    rcases h with ⟨rfl, -⟩ | ⟨rfl, -⟩ | ⟨rfl, -⟩ | ⟨rfl, -⟩ | ⟨rfl, -⟩ | ⟨rfl, -⟩ <;> decide
  obtain ⟨fuel, rfl⟩ := Nat.exists_eq_succ_of_ne_zero (n := fuel) (by omega)
  exact readValue_literal h fuel rest

theorem TakesValue.number (h : readNumber u = .ok (j, [])) : TakesValue u j := by
  intro fuel rest hfuel hrest
  have hne : u ≠ [] := by rintro rfl; exact nomatch h
  have hlength : 0 < u.length := List.length_pos_iff.mpr hne
  obtain ⟨fuel, rfl⟩ := Nat.exists_eq_succ_of_ne_zero (n := fuel) (by omega)
  have happend := readNumber_append u hrest
  rw [h] at happend
  have hread : readNumber (u ++ rest) = .ok (j, rest) := by
    cases hr : readNumber (u ++ rest) with
    | error stop => rw [hr] at happend; cases happend
    | ok r => rw [hr] at happend; exact congrArg _ (Option.some.inj happend)
  rw [readValue_number (by rw [hread]; exact fun heq => nomatch heq), hread]

theorem TakesValue.closedArray (hbs : IsBlanks bs) : TakesValue ('[' :: (bs ++ [']'])) (.arr []) := by
  intro fuel rest hfuel _
  obtain ⟨fuel, rfl⟩ := Nat.exists_eq_succ_of_ne_zero (n := fuel) (by simp at hfuel; omega)
  rw [List.cons_append, List.append_assoc]
  exact readValue_closed hbs fuel rest

theorem TakesValue.array (hbs : IsBlanks bs) (h : TakesItems u items) :
    TakesValue ('[' :: (bs ++ u)) (.arr items) := by
  intro fuel rest hfuel _
  simp only [List.length_cons, List.length_append] at hfuel
  obtain ⟨fuel, rfl⟩ := Nat.exists_eq_succ_of_ne_zero (n := fuel) (by omega)
  have hopen := h.noEnd.append h.ne_nil rest
  rw [List.cons_append, List.append_assoc, readValue_items hbs hopen.noBlank (hopen.ne_cons rfl),
    h fuel rest (by omega)]
  rfl

theorem TakesValue.closedObject (hbs : IsBlanks bs) :
    TakesValue ('\x7b' :: (bs ++ ['\x7d'])) (.obj []) := by
  intro fuel rest hfuel _
  obtain ⟨fuel, rfl⟩ := Nat.exists_eq_succ_of_ne_zero (n := fuel) (by simp at hfuel; omega)
  rw [List.cons_append, List.append_assoc]
  exact readValue_closedObject hbs fuel rest

theorem TakesValue.object (hbs : IsBlanks bs) (h : TakesEntries u entries) :
    TakesValue ('\x7b' :: (bs ++ u)) (.obj (Entries.ofPairs entries)) := by
  intro fuel rest hfuel _
  simp only [List.length_cons, List.length_append] at hfuel
  obtain ⟨fuel, rfl⟩ := Nat.exists_eq_succ_of_ne_zero (n := fuel) (by omega)
  obtain ⟨t, rfl⟩ := h.exists_cons
  have hopen := h.noEnd.append (List.cons_ne_nil _ _) rest
  rw [List.cons_append, List.append_assoc, readValue_entries hbs hopen.noBlank (hopen.ne_cons rfl),
    h fuel rest (by omega)]
  rfl

/-! ### Items and entries -/

/-- The last item, with the bracket that closes the array. -/
theorem TakesItems.last (hv : TakesValue v j) (hbs : IsBlanks bs) : TakesItems (v ++ (bs ++ [']'])) [j] := by
  intro fuel rest hfuel
  simp only [List.length_cons, List.length_append, List.length_nil] at hfuel
  obtain ⟨fuel, rfl⟩ := Nat.exists_eq_succ_of_ne_zero (n := fuel) (by omega)
  simp only [List.append_assoc, List.cons_append]
  rw [readItems_succ, hv fuel _ (by omega) (.blanks hbs (.cons rfl _))]
  exact itemsBehind_close hbs fuel j rest

/-- An item with others behind it. -/
theorem TakesItems.cons {bs' : List Char} (hv : TakesValue v j) (hbs : IsBlanks bs) (hbs' : IsBlanks bs')
    (h : TakesItems u items) : TakesItems (v ++ (bs ++ ',' :: (bs' ++ u))) (j :: items) := by
  intro fuel rest hfuel
  simp only [List.length_cons, List.length_append] at hfuel
  obtain ⟨fuel, rfl⟩ := Nat.exists_eq_succ_of_ne_zero (n := fuel) (by omega)
  simp only [List.append_assoc, List.cons_append]
  rw [readItems_succ, hv fuel _ (by omega) (.blanks hbs (.cons rfl _))]
  change itemsBehind fuel (j, _) = _
  rw [itemsBehind_comma hbs hbs' (h.noEnd.append h.ne_nil rest).noBlank, h fuel rest (by omega)]
  rfl

/-- The characters of an entry in front of those behind its value. -/
def entryText (key bs bs' v behind : List Char) : List Char :=
  '"' :: (key ++ (bs ++ ':' :: (bs' ++ (v ++ behind))))

/-- The last entry, with the brace that closes the object. -/
theorem TakesEntries.last (hkey : TakesString key s) (hbs₁ : IsBlanks bs₁) (hbs₂ : IsBlanks bs₂)
    (hv : TakesValue v j) (hbs₃ : IsBlanks bs₃) :
    TakesEntries (entryText key bs₁ bs₂ v (bs₃ ++ ['\x7d'])) [(s, j)] := by
  intro fuel rest hfuel
  simp only [entryText, List.length_cons, List.length_append, List.length_nil] at hfuel
  obtain ⟨fuel, rfl⟩ := Nat.exists_eq_succ_of_ne_zero (n := fuel) (by omega)
  simp only [entryText, List.append_assoc, List.cons_append]
  rw [readEntries_key hkey hbs₁ hbs₂ (hv.noEnd.append hv.ne_nil _).noBlank,
    hv fuel _ (by omega) (.blanks hbs₃ (.cons rfl _))]
  exact entriesBehind_close hbs₃ fuel s j rest

/-- An entry with others behind it. -/
theorem TakesEntries.cons (hkey : TakesString key s) (hbs₁ : IsBlanks bs₁) (hbs₂ : IsBlanks bs₂)
    (hv : TakesValue v j) (hbs₃ : IsBlanks bs₃) (hbs₄ : IsBlanks bs₄) (h : TakesEntries u entries) :
    TakesEntries (entryText key bs₁ bs₂ v (bs₃ ++ ',' :: (bs₄ ++ u))) ((s, j) :: entries) := by
  intro fuel rest hfuel
  simp only [entryText, List.length_cons, List.length_append] at hfuel
  obtain ⟨fuel, rfl⟩ := Nat.exists_eq_succ_of_ne_zero (n := fuel) (by omega)
  obtain ⟨t, rfl⟩ := h.exists_cons
  simp only [entryText, List.append_assoc, List.cons_append]
  rw [readEntries_key hkey hbs₁ hbs₂ (hv.noEnd.append hv.ne_nil _).noBlank,
    hv fuel _ (by omega) (.blanks hbs₃ (.cons rfl _))]
  change entriesBehind fuel s (j, _) = _
  rw [entriesBehind_comma hbs₃ hbs₄ (.cons rfl _), ← List.cons_append, h fuel rest (by omega)]
  rfl

end Rules

/-! ## Every run takes characters -/

/-- What runs of the reader with some fuel take. -/
structure RunsTake (fuel : Nat) : Prop where
  value : ∀ {cs j rest}, readValue fuel cs = .ok (j, rest) → EndsValue rest →
    ∃ u, cs = u ++ rest ∧ TakesValue u j
  items : ∀ {cs items rest}, readItems fuel cs = .ok (items, rest) → ∃ u, cs = u ++ rest ∧ TakesItems u items
  entries : ∀ {cs entries rest}, readEntries fuel cs = .ok (entries, rest) →
    ∃ u, cs = u ++ rest ∧ TakesEntries u entries

/-- What is left of a mapped step is what is left of the step. -/
theorem map_eq_ok {α β : Type} {f : α → β} {step : JsonStep α} {b : β} {rest : List Char}
    (h : step.map (fun r => (f r.1, r.2)) = .ok (b, rest)) : ∃ a, b = f a ∧ step = .ok (a, rest) := by
  cases step with
  | error stop => cases h
  | ok r =>
      obtain ⟨rfl, rfl⟩ := Prod.mk.inj (Except.ok.inj h)
      exact ⟨r.1, rfl, rfl⟩

namespace RunsTake

variable {fuel : Nat} {cs rest : List Char}

theorem value_succ (ih : RunsTake fuel) {j : Json} (h : readValue (fuel + 1) cs = .ok (j, rest))
    (hrest : EndsValue rest) : ∃ u, cs = u ++ rest ∧ TakesValue u j := by
  rcases beginning_cases cs with ⟨cs, rfl⟩ | ⟨cs, rfl⟩ | ⟨cs, rfl⟩ | ⟨word, j', cs, hword, rfl⟩ | hnumber
  · rw [readValue] at h
    obtain ⟨s, rfl, hread⟩ := map_eq_ok h
    obtain ⟨u, rfl, htakes⟩ := exists_string hread
    exact ⟨'"' :: u, rfl, .string htakes⟩
  · rcases opening_cases '\x7d' cs with ⟨bs, behind, hbs, rfl⟩ | ⟨bs, behind, hbs, hblank, hopen, rfl⟩
    · rw [readValue_closedObject hbs] at h
      obtain ⟨rfl, rfl⟩ := Prod.mk.inj (Except.ok.inj h)
      exact ⟨'\x7b' :: (bs ++ ['\x7d']), by simp, .closedObject hbs⟩
    · rw [readValue_entries hbs hblank hopen] at h
      obtain ⟨entries, rfl, hread⟩ := map_eq_ok (f := fun es => Json.obj (Entries.ofPairs es)) h
      obtain ⟨u, rfl, htakes⟩ := ih.entries hread
      exact ⟨'\x7b' :: (bs ++ u), by simp, .object hbs htakes⟩
  · rcases opening_cases ']' cs with ⟨bs, behind, hbs, rfl⟩ | ⟨bs, behind, hbs, hblank, hopen, rfl⟩
    · rw [readValue_closed hbs] at h
      obtain ⟨rfl, rfl⟩ := Prod.mk.inj (Except.ok.inj h)
      exact ⟨'[' :: (bs ++ [']']), by simp, .closedArray hbs⟩
    · rw [readValue_items hbs hblank hopen] at h
      obtain ⟨items, rfl, hread⟩ := map_eq_ok h
      obtain ⟨u, rfl, htakes⟩ := ih.items hread
      exact ⟨'[' :: (bs ++ u), by simp, .array hbs htakes⟩
  · rw [readValue_literal hword] at h
    obtain ⟨rfl, rfl⟩ := Prod.mk.inj (Except.ok.inj h)
    exact ⟨word, rfl, .literal hword⟩
  · rw [hnumber] at h
    obtain ⟨u, rfl, hread⟩ := exists_number h hrest
    exact ⟨u, rfl, .number hread⟩

theorem items_succ (ih : RunsTake fuel) {items : List Json}
    (h : readItems (fuel + 1) cs = .ok (items, rest)) : ∃ u, cs = u ++ rest ∧ TakesItems u items := by
  rw [readItems_succ] at h
  cases hread : readValue fuel cs with
  | error stop => rw [hread] at h; cases h
  | ok r =>
      obtain ⟨j, left⟩ := r
      rw [hread] at h
      change itemsBehind fuel (j, left) = _ at h
      rcases behind_cases ']' left with
        ⟨bs, behind, hbs, rfl⟩ | ⟨bs, bs', t, hbs, hbs', ht, rfl⟩ | ⟨hclose, hcomma⟩
      · rw [itemsBehind_close hbs] at h
        obtain ⟨rfl, rfl⟩ := Prod.mk.inj (Except.ok.inj h)
        -- the value is known to be taken only now, since a number may go on with what stands behind it
        obtain ⟨v, rfl, hv⟩ := ih.value hread (.blanks hbs (.cons rfl _))
        exact ⟨v ++ (bs ++ [']']), by simp, .last hv hbs⟩
      · rw [itemsBehind_comma hbs hbs' ht] at h
        obtain ⟨items, rfl, hitems⟩ := map_eq_ok h
        obtain ⟨u, rfl, hu⟩ := ih.items hitems
        obtain ⟨v, rfl, hv⟩ := ih.value hread (.blanks hbs (.cons rfl _))
        exact ⟨v ++ (bs ++ ',' :: (bs' ++ u)), by simp, .cons hv hbs hbs' hu⟩
      · rw [itemsBehind_fault hclose hcomma] at h
        cases h

theorem entries_succ (ih : RunsTake fuel) {entries : List (String × Json)}
    (h : readEntries (fuel + 1) cs = .ok (entries, rest)) : ∃ u, cs = u ++ rest ∧ TakesEntries u entries := by
  rcases entries_cases cs with ⟨key, k, bs₁, bs₂, t, hkey, hbs₁, hbs₂, ht, rfl⟩ | ⟨stop, -, hstop⟩
  · rw [readEntries_key hkey hbs₁ hbs₂ ht] at h
    cases hread : readValue fuel t with
    | error stop => rw [hread] at h; cases h
    | ok r =>
        obtain ⟨j, left⟩ := r
        rw [hread] at h
        change entriesBehind fuel k (j, left) = _ at h
        rcases behind_cases '\x7d' left with
          ⟨bs, behind, hbs, rfl⟩ | ⟨bs, bs', t', hbs, hbs', ht', rfl⟩ | ⟨hclose, hcomma⟩
        · rw [entriesBehind_close hbs] at h
          obtain ⟨rfl, rfl⟩ := Prod.mk.inj (Except.ok.inj h)
          obtain ⟨v, rfl, hv⟩ := ih.value hread (.blanks hbs (.cons rfl _))
          exact ⟨_, by simp [entryText], .last hkey hbs₁ hbs₂ hv hbs⟩
        · rw [entriesBehind_comma hbs hbs' ht'] at h
          obtain ⟨entries, rfl, hentries⟩ := map_eq_ok h
          obtain ⟨u, rfl, hu⟩ := ih.entries hentries
          obtain ⟨v, rfl, hv⟩ := ih.value hread (.blanks hbs (.cons rfl _))
          exact ⟨_, by simp [entryText], .cons hkey hbs₁ hbs₂ hv hbs hbs' hu⟩
        · rw [entriesBehind_fault hclose hcomma] at h
          cases h
  · rw [hstop] at h
    cases h

end RunsTake

/-- **Every run takes characters by the rules**, whatever its fuel. -/
theorem runsTake (fuel : Nat) : RunsTake fuel := by
  induction fuel with
  | zero => exact ⟨fun h _ => (nomatch h), fun h => (nomatch h), fun h => (nomatch h)⟩
  | succ fuel ih => exact ⟨ih.value_succ, ih.items_succ, ih.entries_succ⟩

end GraphQLCache
