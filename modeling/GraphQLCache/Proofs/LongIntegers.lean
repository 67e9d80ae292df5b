import GraphQLCache.Proofs.JsonReader

/-!
# `Proofs.LongIntegers` — where the reader meets an integer that is too long

`HoldsLongInteger` says without the reader's steps that a text holds an integer of more digits than are read:
the text in front of it is refused for want of a value at its very end, and the digits do not go on as the
digits of a double. This is just when reading stops for too many digits (`readJson_tooManyDigits_iff`).

`OpensValue a` says that after the characters `a` the reader wants a value, so that what it finds wrong there
is what it finds wrong with the whole. Like the characters that are taken, the characters that open a place are
built by rules, and every run that stops at a value has opened its place by these rules (`runsOpen`).
-/

namespace GraphQLCache

/-! ## Stops at a value -/

/-- **The reader stops at `t`**: there is nothing where a number should be, or an integer that is too long. -/
inductive StopsAt : List Char → JsonStop → Prop
  | nothing : StopsAt [] (.fault .value 0)
  | long {t n} (h : readNumber t = .error (.tooManyDigits n)) : StopsAt t (.tooManyDigits n)

variable {a t cs bs bs' v key : List Char} {stop : JsonStop} {j : Json} {k : String} {n : Nat}

theorem StopsAt.readNumber_eq (h : StopsAt t stop) : readNumber t = .error stop := by
  cases h with
  | nothing => rfl
  | long h => exact h

theorem StopsAt.readValue_eq (h : StopsAt t stop) (fuel : Nat) : readValue (fuel + 1) t = .error stop := by
  cases h with
  | nothing => rfl
  | long h =>
      rw [readValue_number _ fuel, h]
      rw [h]
      exact fun heq => nomatch heq

/-- An integer begins with nothing at which a value may end. -/
theorem StopsAt.noEnd (h : StopsAt t stop) : NoEnd t := by
  cases h with
  | nothing => exact fun _ h => nomatch h
  | @long t n h =>
      intro c hc
      cases t with
      | nil => cases hc
      | cons d t =>
          cases hc
          refine Bool.eq_false_iff.mpr fun hend => ?_
          have hread := readValue_of_endsValue hend 1 t
          rw [StopsAt.readValue_eq (.long h)] at hread
          exact nomatch hread

/-- A stop at which the reader ran out of text, or of digits. -/
def JsonStop.isLast : JsonStop → Bool
  | .fault .value left => left = 0
  | .tooManyDigits _ => true
  | _ => false

theorem JsonStop.isAtValue_of_isLast (h : stop.isLast = true) : stop.isAtValue = true := by
  unfold JsonStop.isLast at h
  split at h
  · rfl
  · rfl
  · cases h

/-- A stop for want of a value at the end of a text is one before no text. -/
theorem eq_nil_of_isLast (h : (JsonStop.fault .value cs.length).isLast = true) : cs = [] :=
  List.eq_nil_of_length_eq_zero (of_decide_eq_true h)

/-- A number stops at its beginning, or for too many digits. -/
theorem stopsAt_of_readNumber (h : readNumber cs = .error stop) (hlast : stop.isLast = true) :
    StopsAt cs stop := by
  have hread := h
  rw [GraphQLCache.readNumber_eq] at h
  split at h
  · rw [← Except.error.inj h] at hlast ⊢
    rw [eq_nil_of_isLast hlast]
    exact .nothing
  · unfold NumberParts.number at h
    split at h
    · split at h
      · rw [← Except.error.inj h] at hread ⊢
        exact .long hread
      · cases h
    · cases h

theorem map_eq_error {α β : Type} {f : α → β} {step : Except JsonStop α} (h : step.map f = .error stop) :
    step = .error stop := by
  cases step with
  | error e => exact congrArg _ (Except.error.inj h)
  | ok r => cases h

/-! ## Places for a value -/

/-- **After `a` a value is wanted**: what the reader stops at there is what it stops at in the whole. -/
def OpensValue (a : List Char) : Prop :=
  ∀ t stop, StopsAt t stop → ∀ fuel, 2 * a.length + 1 ≤ fuel → readValue fuel (a ++ t) = .error stop

/-- After `a` a value is wanted, among the items of an array. -/
def OpensItems (a : List Char) : Prop :=
  ∀ t stop, StopsAt t stop → ∀ fuel, 2 * a.length + 2 ≤ fuel → readItems fuel (a ++ t) = .error stop

/-- After `a` a value is wanted, among the entries of an object. -/
def OpensEntries (a : List Char) : Prop :=
  ∀ t stop, StopsAt t stop → ∀ fuel, 2 * a.length + 2 ≤ fuel → readEntries fuel (a ++ t) = .error stop

theorem OpensValue.nil : OpensValue [] := by
  intro t stop h fuel hfuel
  obtain ⟨fuel, rfl⟩ := Nat.exists_eq_succ_of_ne_zero (n := fuel) (by omega)
  exact h.readValue_eq fuel

/-- What is wanted after characters at whose beginning no value ends. -/
theorem noEnd_append (h : NoEnd a) (ht : StopsAt t stop) : NoEnd (a ++ t) := by
  cases a with
  | nil => exact ht.noEnd
  | cons c a => exact fun d hd => h d hd

theorem OpensValue.noEnd (h : OpensValue a) : NoEnd a := by
  intro c hc
  cases a with
  | nil => cases hc
  | cons d a =>
      cases hc
      refine Bool.eq_false_iff.mpr fun hend => ?_
      have hread := h [] _ .nothing _ le_rfl
      rw [List.append_nil, readValue_of_endsValue hend] at hread
      cases hread

theorem OpensItems.noEnd (h : OpensItems a) : NoEnd a := by
  intro c hc
  cases a with
  | nil => cases hc
  | cons d a =>
      cases hc
      refine Bool.eq_false_iff.mpr fun hend => ?_
      have hread := h [] _ .nothing _ le_rfl
      rw [List.append_nil, readItems_of_endsValue hend] at hread
      cases hread

theorem OpensEntries.exists_cons (h : OpensEntries a) : ∃ u, a = '"' :: u := by
  by_contra hquote
  have hread := h [] _ .nothing _ le_rfl
  rw [List.append_nil, readEntries_of_ne fun u hu => hquote ⟨u, hu⟩] at hread
  cases hread

theorem OpensValue.array (hbs : IsBlanks bs) (h : OpensItems a) : OpensValue ('[' :: (bs ++ a)) := by
  intro t stop ht fuel hfuel
  simp only [List.length_cons, List.length_append] at hfuel
  obtain ⟨fuel, rfl⟩ := Nat.exists_eq_succ_of_ne_zero (n := fuel) (by omega)
  have hopen := noEnd_append h.noEnd ht
  rw [List.cons_append, List.append_assoc, readValue_items hbs hopen.noBlank (hopen.ne_cons rfl),
    h t stop ht fuel (by omega)]
  rfl

theorem OpensValue.object (hbs : IsBlanks bs) (h : OpensEntries a) : OpensValue ('\x7b' :: (bs ++ a)) := by
  intro t stop ht fuel hfuel
  simp only [List.length_cons, List.length_append] at hfuel
  obtain ⟨fuel, rfl⟩ := Nat.exists_eq_succ_of_ne_zero (n := fuel) (by omega)
  obtain ⟨u, rfl⟩ := h.exists_cons
  have hentries := h t stop ht fuel (by omega)
  rw [List.cons_append] at hentries
  simp only [List.cons_append, List.append_assoc]
  rw [readValue_entries hbs (.cons rfl _) (by rintro rest ⟨⟩), hentries]
  rfl

/-- The first of the items that are left. -/
theorem OpensItems.first (h : OpensValue a) : OpensItems a := by
  intro t stop ht fuel hfuel
  obtain ⟨fuel, rfl⟩ := Nat.exists_eq_succ_of_ne_zero (n := fuel) (by omega)
  rw [readItems_succ, h t stop ht fuel (by omega)]
  rfl

/-- An item that is whole, and the others behind it. -/
theorem OpensItems.next (hv : TakesValue v j) (hbs : IsBlanks bs) (hbs' : IsBlanks bs') (h : OpensItems a) :
    OpensItems (v ++ (bs ++ ',' :: (bs' ++ a))) := by
  intro t stop ht fuel hfuel
  simp only [List.length_cons, List.length_append] at hfuel
  obtain ⟨fuel, rfl⟩ := Nat.exists_eq_succ_of_ne_zero (n := fuel) (by omega)
  simp only [List.append_assoc, List.cons_append]
  rw [readItems_succ, hv fuel _ (by omega) (.blanks hbs (.cons rfl _))]
  change itemsBehind fuel (j, _) = _
  rw [itemsBehind_comma hbs hbs' (noEnd_append h.noEnd ht).noBlank, h t stop ht fuel (by omega)]
  rfl

/-- The value of the first of the entries that are left. -/
theorem OpensEntries.first (hkey : TakesString key k) (hbs : IsBlanks bs) (hbs' : IsBlanks bs')
    (h : OpensValue a) : OpensEntries ('"' :: (key ++ (bs ++ ':' :: (bs' ++ a)))) := by
  intro t stop ht fuel hfuel
  simp only [List.length_cons, List.length_append] at hfuel
  obtain ⟨fuel, rfl⟩ := Nat.exists_eq_succ_of_ne_zero (n := fuel) (by omega)
  simp only [List.append_assoc, List.cons_append]
  rw [readEntries_key hkey hbs hbs' (noEnd_append h.noEnd ht).noBlank, h t stop ht fuel (by omega)]
  rfl

/-- An entry that is whole, and the others behind it. -/
theorem OpensEntries.next {bs₁ bs₂ bs₃ bs₄ : List Char} (hkey : TakesString key k) (hbs₁ : IsBlanks bs₁)
    (hbs₂ : IsBlanks bs₂) (hv : TakesValue v j) (hbs₃ : IsBlanks bs₃) (hbs₄ : IsBlanks bs₄)
    (h : OpensEntries a) : OpensEntries (entryText key bs₁ bs₂ v (bs₃ ++ ',' :: (bs₄ ++ a))) := by
  intro t stop ht fuel hfuel
  simp only [entryText, List.length_cons, List.length_append] at hfuel
  obtain ⟨fuel, rfl⟩ := Nat.exists_eq_succ_of_ne_zero (n := fuel) (by omega)
  obtain ⟨u, rfl⟩ := h.exists_cons
  simp only [entryText, List.append_assoc, List.cons_append]
  rw [readEntries_key hkey hbs₁ hbs₂ (hv.noEnd.append hv.ne_nil _).noBlank,
    hv fuel _ (by omega) (.blanks hbs₃ (.cons rfl _))]
  change entriesBehind fuel k (j, _) = _
  rw [entriesBehind_comma hbs₃ hbs₄ (.cons rfl _), ← List.cons_append, h t stop ht fuel (by omega)]
  rfl

/-! ## Every stop at a value opens its place -/

/-- What runs of the reader with some fuel open, when they stop at a value at the end of a text. -/
structure RunsOpen (fuel : Nat) : Prop where
  value : ∀ {cs stop}, readValue fuel cs = .error stop → stop.isLast = true →
    ∃ a t, cs = a ++ t ∧ StopsAt t stop ∧ OpensValue a
  items : ∀ {cs stop}, readItems fuel cs = .error stop → stop.isLast = true →
    ∃ a t, cs = a ++ t ∧ StopsAt t stop ∧ OpensItems a
  entries : ∀ {cs stop}, readEntries fuel cs = .error stop → stop.isLast = true →
    ∃ a t, cs = a ++ t ∧ StopsAt t stop ∧ OpensEntries a

namespace RunsOpen

variable {fuel : Nat}

theorem value_succ (ih : RunsOpen fuel) (h : readValue (fuel + 1) cs = .error stop)
    (hlast : stop.isLast = true) : ∃ a t, cs = a ++ t ∧ StopsAt t stop ∧ OpensValue a := by
  rcases beginning_cases cs with ⟨cs, rfl⟩ | ⟨cs, rfl⟩ | ⟨cs, rfl⟩ | ⟨word, j', cs, hword, rfl⟩ | hnumber
  · rw [readValue] at h
    have hstring := not_isAtValue_of_string (map_eq_error h)
    rw [JsonStop.isAtValue_of_isLast hlast] at hstring
    cases hstring
  · rcases opening_cases '\x7d' cs with ⟨bs, behind, hbs, rfl⟩ | ⟨bs, behind, hbs, hblank, hopen, rfl⟩
    · rw [readValue_closedObject hbs] at h
      cases h
    · rw [readValue_entries hbs hblank hopen] at h
      obtain ⟨a, t, rfl, ht, ha⟩ := ih.entries (map_eq_error h) hlast
      exact ⟨'\x7b' :: (bs ++ a), t, by simp, ht, .object hbs ha⟩
  · rcases opening_cases ']' cs with ⟨bs, behind, hbs, rfl⟩ | ⟨bs, behind, hbs, hblank, hopen, rfl⟩
    · rw [readValue_closed hbs] at h
      cases h
    · rw [readValue_items hbs hblank hopen] at h
      obtain ⟨a, t, rfl, ht, ha⟩ := ih.items (map_eq_error h) hlast
      exact ⟨'[' :: (bs ++ a), t, by simp, ht, .array hbs ha⟩
  · rw [readValue_literal hword] at h
    cases h
  · rw [hnumber] at h
    exact ⟨[], cs, rfl, stopsAt_of_readNumber h hlast, .nil⟩

theorem items_succ (ih : RunsOpen fuel) (h : readItems (fuel + 1) cs = .error stop)
    (hlast : stop.isLast = true) : ∃ a t, cs = a ++ t ∧ StopsAt t stop ∧ OpensItems a := by
  rw [readItems_succ] at h
  cases hread : readValue fuel cs with
  | error stop' =>
      rw [hread] at h
      cases h
      obtain ⟨a, t, rfl, ht, ha⟩ := ih.value hread hlast
      exact ⟨a, t, rfl, ht, .first ha⟩
  | ok r =>
      obtain ⟨j, left⟩ := r
      rw [hread] at h
      change itemsBehind fuel (j, left) = _ at h
      rcases behind_cases ']' left with
        ⟨bs, behind, hbs, rfl⟩ | ⟨bs, bs', t, hbs, hbs', ht, rfl⟩ | ⟨hclose, hcomma⟩
      · rw [itemsBehind_close hbs] at h
        cases h
      · rw [itemsBehind_comma hbs hbs' ht] at h
        obtain ⟨v, rfl, hv⟩ := (runsTake fuel).value hread (.blanks hbs (.cons rfl _))
        obtain ⟨a, t, rfl, ht, ha⟩ := ih.items (map_eq_error h) hlast
        exact ⟨v ++ (bs ++ ',' :: (bs' ++ a)), t, by simp, ht, .next hv hbs hbs' ha⟩
      · rw [itemsBehind_fault hclose hcomma] at h
        cases h
        cases hlast

theorem entries_succ (ih : RunsOpen fuel) (h : readEntries (fuel + 1) cs = .error stop)
    (hlast : stop.isLast = true) : ∃ a t, cs = a ++ t ∧ StopsAt t stop ∧ OpensEntries a := by
  rcases entries_cases cs with ⟨key, k, bs₁, bs₂, t, hkey, hbs₁, hbs₂, ht, rfl⟩ | ⟨stop', hvalue, hstop⟩
  · rw [readEntries_key hkey hbs₁ hbs₂ ht] at h
    cases hread : readValue fuel t with
    | error stop' =>
        rw [hread] at h
        cases h
        obtain ⟨a, t, rfl, ht, ha⟩ := ih.value hread hlast
        exact ⟨_, t, by simp, ht, .first hkey hbs₁ hbs₂ ha⟩
    | ok r =>
        obtain ⟨j, left⟩ := r
        rw [hread] at h
        change entriesBehind fuel k (j, left) = _ at h
        rcases behind_cases '\x7d' left with
          ⟨bs, behind, hbs, rfl⟩ | ⟨bs, bs', t', hbs, hbs', ht', rfl⟩ | ⟨hclose, hcomma⟩
        · rw [entriesBehind_close hbs] at h
          cases h
        · rw [entriesBehind_comma hbs hbs' ht'] at h
          obtain ⟨v, rfl, hv⟩ := (runsTake fuel).value hread (.blanks hbs (.cons rfl _))
          obtain ⟨a, t, rfl, ht, ha⟩ := ih.entries (map_eq_error h) hlast
          exact ⟨_, t, by simp [entryText], ht, .next hkey hbs₁ hbs₂ hv hbs hbs' ha⟩
        · rw [entriesBehind_fault hclose hcomma] at h
          cases h
          cases hlast
  · rw [hstop] at h
    cases h
    rw [JsonStop.isAtValue_of_isLast hlast] at hvalue
    cases hvalue

end RunsOpen

/-- **Every run that stops at a value has opened its place by the rules**, whatever its fuel. -/
theorem runsOpen (fuel : Nat) : RunsOpen fuel := by
  induction fuel with
  | zero =>
      -- without fuel a run stops where it is, which is for want of a value at the end if there is no text
      refine ⟨fun h hlast => ?_, fun h hlast => ?_, fun h hlast => ?_⟩
      · cases h
        obtain rfl := eq_nil_of_isLast hlast
        exact ⟨[], [], rfl, .nothing, .nil⟩
      · cases h
        obtain rfl := eq_nil_of_isLast hlast
        exact ⟨[], [], rfl, .nothing, .first .nil⟩
      · cases h
        cases hlast
  | succ fuel ih => exact ⟨ih.value_succ, ih.items_succ, ih.entries_succ⟩

/-! ## Documents -/

/-- No number begins with a byte order mark. -/
theorem StopsAt.ne_mark (h : StopsAt t stop) (rest : List Char) : t ≠ '\ufeff' :: rest := by
  rintro rfl
  cases h with
  | long h => exact nomatch (show faultAt .value ('\ufeff' :: rest) = _ from h)

/-- A document without a byte order mark stops at a value just when its value does. -/
theorem readDocument_error_iff (hmark : ∀ rest, cs ≠ '\ufeff' :: rest) (hlast : stop.isLast = true) :
    readDocument cs = .error stop ↔ readValue (2 * cs.length + 2) (skipBlanks cs) = .error stop := by
  rw [readDocument]
  · cases readValue (2 * cs.length + 2) (skipBlanks cs) with
    | error e => exact ⟨fun h => by cases h; rfl, fun h => by cases h; rfl⟩
    | ok r =>
        refine ⟨fun h => ?_, fun h => nomatch h⟩
        dsimp only [bind, Except.bind] at h
        split at h
        · cases h
        -- text behind a value is a fault too, but not one at a value
        · cases h
          cases hlast
  · exact hmark

/-- **What a document stops at**, behind blanks and characters that open a place for a value, is what is found
    in that place. -/
theorem readDocument_opens (ha : OpensValue a) (hbs : IsBlanks bs) (hmark : ∀ rest, bs ++ a ≠ '\ufeff' :: rest)
    (ht : StopsAt t stop) (hlast : stop.isLast = true) : readDocument (bs ++ a ++ t) = .error stop := by
  have hblank : skipBlanks (bs ++ a ++ t) = a ++ t := by
    rw [List.append_assoc]
    exact skipBlanks_append hbs (noEnd_append ha.noEnd ht).noBlank
  rw [readDocument_error_iff _ hlast, hblank]
  · exact ha t stop ht _ (by simp only [List.length_append]; omega)
  · intro rest h
    cases hbefore : bs ++ a with
    | nil =>
        rw [hbefore] at h
        exact ht.ne_mark rest h
    | cons c u =>
        rw [hbefore] at h
        obtain ⟨rfl, -⟩ := List.cons.inj h
        exact hmark u hbefore

/-- A document that stops at a value has opened its place. -/
theorem exists_opens_of_readDocument (h : readDocument cs = .error stop) (hlast : stop.isLast = true) :
    ∃ bs a t, cs = bs ++ a ++ t ∧ IsBlanks bs ∧ OpensValue a ∧ (∀ rest, bs ++ a ≠ '\ufeff' :: rest)
      ∧ StopsAt t stop := by
  have hmark : ∀ rest, cs ≠ '\ufeff' :: rest := by
    rintro rest rfl
    rw [readDocument] at h
    cases h
    cases hlast
  obtain ⟨a, t, hat, ht, ha⟩ := (runsOpen _).value ((readDocument_error_iff hmark hlast).mp h) hlast
  obtain ⟨bs, hbs, hcs⟩ := exists_blanks cs
  rw [hat, ← List.append_assoc] at hcs
  refine ⟨bs, a, t, hcs, hbs, ha, fun rest h => ?_, ht⟩
  exact hmark (rest ++ t) (by rw [hcs, h, List.cons_append])

/-- **A place for a value**: the text, taken by itself, is refused for want of a value at its very end. -/
def WantsValue (before : List Char) : Prop := readDocument before = .error (.fault .value 0)

/-- **Where a document has too many digits**: at a place for a value. -/
theorem readDocument_tooManyDigits_iff :
    readDocument cs = .error (.tooManyDigits n) ↔
      ∃ before t, cs = before ++ t ∧ WantsValue before ∧ readNumber t = .error (.tooManyDigits n) := by
  constructor
  · intro h
    obtain ⟨bs, a, t, hcs, hbs, ha, hmark, ht⟩ := exists_opens_of_readDocument h rfl
    -- the place stays open if nothing stands in it, and then nothing is what the text is refused for
    refine ⟨bs ++ a, t, hcs, ?_, ht.readNumber_eq⟩
    have hnothing := readDocument_opens ha hbs hmark .nothing rfl
    rwa [List.append_nil] at hnothing
  · rintro ⟨before, t, rfl, hbefore, ht⟩
    obtain ⟨bs, a, t', rfl, hbs, ha, hmark, ht'⟩ := exists_opens_of_readDocument hbefore rfl
    cases ht' with
    | nothing =>
        rw [List.append_nil]
        exact readDocument_opens ha hbs hmark (.long ht) rfl

/-! ## Integers that are too long -/

/-- What may stand behind the digits of an integer: no further digit, no fraction, no exponent. -/
def EndsInteger (cs : List Char) : Prop :=
  (∀ c, cs.head? = some c → isDigit c = false) ∧ fractionDigits? cs = none ∧ exponent? cs = none

/-- **An integer of `n` digits** at the beginning of a text, more than are read, with or without a sign. -/
def BeginsLongInteger (n : Nat) (t : List Char) : Prop :=
  ∃ sign digits behind, t = sign ++ digits ++ behind ∧ (sign = [] ∨ sign = ['-']) ∧ digits.head? ≠ some '0'
    ∧ (∀ c ∈ digits, isDigit c = true) ∧ digits.length = n ∧ maxJsonDigits < n ∧ EndsInteger behind

theorem splitSign_eq (t : List Char) :
    ∃ sign, t = sign ++ (splitSign t).2 ∧ (sign = [] ∨ sign = ['-']) := by
  unfold splitSign
  split
  · exact ⟨['-'], rfl, .inr rfl⟩
  · exact ⟨[], rfl, .inl rfl⟩

theorem splitSign_snd {sign body : List Char} (hsign : sign = [] ∨ sign = ['-'])
    (hbody : ∀ c, body.head? = some c → isDigit c = true) : (splitSign (sign ++ body)).2 = body := by
  rcases hsign with rfl | rfl
  · unfold splitSign
    split
    · rename_i heq
      exact absurd (hbody '-' (by rw [← List.nil_append body, heq]; rfl)) (by decide)
    · rfl
  · rfl

/-- Digits that do not begin with a zero are the whole digits of a text, up to the first other character. -/
theorem wholeDigits?_digits {digits behind : List Char} (hne : digits ≠ []) (hzero : digits.head? ≠ some '0')
    (hdigits : ∀ c ∈ digits, isDigit c = true) (hbehind : ∀ c, behind.head? = some c → isDigit c = false) :
    wholeDigits? (digits ++ behind) = some (digits, behind) := by
  obtain ⟨d, ds, rfl⟩ := List.exists_cons_of_ne_nil hne
  have htake : behind.takeWhile isDigit = [] := by
    cases behind with
    | nil => rfl
    | cons c rest => exact List.takeWhile_cons_of_neg (by rw [hbehind c rfl]; exact Bool.false_ne_true)
  have hdrop : behind.dropWhile isDigit = behind := by
    cases behind with
    | nil => rfl
    | cons c rest => exact List.dropWhile_cons_of_neg (by rw [hbehind c rfl]; exact Bool.false_ne_true)
  rw [wholeDigits?_of_ne, List.takeWhile_append_of_pos hdigits, List.dropWhile_append_of_pos hdigits, htake,
    hdrop, List.append_nil]
  · rfl
  · intro rest h
    exact hzero (congrArg some (List.cons.inj h).1)

/-- Several digits in front do not begin with a zero. -/
theorem wholeDigits?_several {whole rest : List Char} (h : wholeDigits? cs = some (whole, rest))
    (hseveral : 1 < whole.length) :
    cs = whole ++ rest ∧ whole.head? ≠ some '0' ∧ (∀ c ∈ whole, isDigit c = true)
      ∧ ∀ c, rest.head? = some c → isDigit c = false := by
  by_cases hzero : ∃ t, cs = '0' :: t
  · obtain ⟨t, rfl⟩ := hzero
    obtain ⟨rfl, -⟩ := Prod.mk.inj (Option.some.inj h)
    exact absurd hseveral (by decide)
  · rw [wholeDigits?_of_ne fun t ht => hzero ⟨t, ht⟩] at h
    split at h
    · cases h
    · obtain ⟨rfl, rfl⟩ := Prod.mk.inj (Option.some.inj h)
      refine ⟨List.takeWhile_append_dropWhile.symm, fun hhead => ?_, fun c hc => List.mem_takeWhile_imp hc,
        fun c hc => ?_⟩
      · obtain ⟨t, ht⟩ := List.head?_eq_some_iff.mp hhead
        refine hzero ⟨t ++ cs.dropWhile isDigit, ?_⟩
        rw [← List.cons_append, ← ht, List.takeWhile_append_dropWhile]
      · exact not_of_head_dropWhile hc

/-- The parts of an integer. -/
theorem numberParts?_integer {p : NumberParts} (h : numberParts? cs = some p) (hfraction : p.fraction? = none)
    (hexponent : p.exponent? = none) :
    wholeDigits? cs = some (p.whole, p.rest) ∧ fractionDigits? p.rest = none ∧ exponent? p.rest = none := by
  obtain ⟨⟨whole, rest⟩, hwhole, rfl⟩ := Option.map_eq_some_iff.mp h
  have hf : fractionDigits? rest = none := Option.map_eq_none_iff.mp hfraction
  simp only [hf, Option.map_none, Option.getD_none] at hexponent ⊢
  have he : exponent? rest = none := Option.map_eq_none_iff.mp hexponent
  rw [he]
  exact ⟨hwhole, hf, he⟩

theorem NumberParts.number_tooManyDigits {negative : Bool} {p : NumberParts}
    (h : p.number negative = .error (.tooManyDigits n)) :
    p.fraction? = none ∧ p.exponent? = none ∧ p.whole.length = n ∧ maxJsonDigits < n := by
  unfold NumberParts.number at h
  split at h
  · rename_i hnone
    rw [Bool.and_eq_true, Option.isNone_iff_eq_none, Option.isNone_iff_eq_none] at hnone
    split at h
    · rename_i hlong
      cases h
      exact ⟨hnone.1, hnone.2, rfl, hlong⟩
    · cases h
  · cases h

/-- **A number of too many digits** is an integer that is too long. -/
theorem readNumber_tooManyDigits_iff :
    readNumber t = .error (.tooManyDigits n) ↔ BeginsLongInteger n t := by
  rw [readNumber_eq]
  constructor
  · intro h
    obtain ⟨sign, hsplit, hsign⟩ := splitSign_eq t
    split at h
    · cases h
    · rename_i p hp
      obtain ⟨hfraction, hexponent, hlength, hlong⟩ := NumberParts.number_tooManyDigits h
      obtain ⟨hwhole, hfraction', hexponent'⟩ := numberParts?_integer hp hfraction hexponent
      have hseveral : 1 < p.whole.length := by rw [hlength]; exact hlong.trans' (by decide)
      obtain ⟨hbody, hzero, hdigits, hrest⟩ := wholeDigits?_several hwhole hseveral
      refine ⟨sign, p.whole, p.rest, ?_, hsign, hzero, hdigits, hlength, hlong, hrest, hfraction', hexponent'⟩
      rw [List.append_assoc, ← hbody, ← hsplit]
  · rintro ⟨sign, digits, behind, rfl, hsign, hzero, hdigits, rfl, hlong, hhead, hfraction, hexponent⟩
    have hne : digits ≠ [] := by rintro rfl; exact absurd hlong (by decide)
    have hbody : ∀ c, (digits ++ behind).head? = some c → isDigit c = true := by
      obtain ⟨d, ds, rfl⟩ := List.exists_cons_of_ne_nil hne
      intro c hc
      cases hc
      exact hdigits d List.mem_cons_self
    rw [List.append_assoc, splitSign_snd hsign hbody, numberParts?,
      wholeDigits?_digits hne hzero hdigits hhead]
    simp only [Option.map_some, hfraction, Option.map_none, Option.getD_none, hexponent, NumberParts.number,
      Option.isNone_none, Bool.and_self, if_true, if_pos hlong]

/-- **A text holds an integer that is too long**, of `n` digits: it stands at a place for a value. -/
def HoldsLongInteger (n : Nat) (text : List Char) : Prop :=
  ∃ before t, text = before ++ t ∧ WantsValue before ∧ BeginsLongInteger n t

/-- **A text is refused for too many digits** just when it holds an integer that is too long. -/
theorem readJson_tooManyDigits_iff :
    readJson cs = .error (.tooManyDigits n) ↔ HoldsLongInteger n cs := by
  have hdocument : readJson cs = .error (.tooManyDigits n) ↔ readDocument cs = .error (.tooManyDigits n) := by
    unfold readJson
    split
    · rename_i heq; rw [heq]; exact ⟨fun h => (nomatch h), fun h => (nomatch h)⟩
    · rename_i heq; rw [heq]; exact ⟨fun h => by cases h; rfl, fun h => by cases h; rfl⟩
    · rename_i heq; rw [heq]; exact ⟨fun h => (nomatch h), fun h => (nomatch h)⟩
  rw [hdocument, readDocument_tooManyDigits_iff]
  simp only [readNumber_tooManyDigits_iff, HoldsLongInteger]

end GraphQLCache
