import GraphQLCache.Json.Reader
import Mathlib

/-!
# `Proofs.JsonLeaves` — blanks, numbers and strings under the reader

What the reader makes of a number is settled in front of any character that may stand behind a value, and what
it makes of a string is settled by the closing quote: whatever follows is left as it is. For numbers this is
an equation for each part (`fractionDigits?_append` and the like), for strings a predicate `TakesUnits` with one
rule for each way in which a character is written.
-/

namespace GraphQLCache

open Text (unitValue?)

/-! ## Blanks -/

/-- A text of blanks alone. -/
def IsBlanks (cs : List Char) : Prop := ∀ c ∈ cs, isJsonBlank c = true

/-- No blank at the beginning of a text. -/
def NoBlank (cs : List Char) : Prop := ∀ c, cs.head? = some c → isJsonBlank c = false

theorem isBlanks_nil : IsBlanks [] := fun _ h => absurd h List.not_mem_nil

theorem NoBlank.cons {c : Char} (h : isJsonBlank c = false) (cs : List Char) : NoBlank (c :: cs) := by
  intro d hd
  cases hd
  exact h

/-- What is left begins with a character of another kind. -/
theorem not_of_head_dropWhile {p : Char → Bool} {cs : List Char} {c : Char}
    (h : (cs.dropWhile p).head? = some c) : p c = false := by
  have hnot := List.head?_dropWhile_not p cs
  rw [h] at hnot
  simpa using hnot

theorem noBlank_skipBlanks (cs : List Char) : NoBlank (skipBlanks cs) := fun _ h => not_of_head_dropWhile h

theorem skipBlanks_of_noBlank {cs : List Char} (h : NoBlank cs) : skipBlanks cs = cs := by
  cases cs with
  | nil => rfl
  | cons c rest =>
      refine List.dropWhile_cons_of_neg ?_
      rw [h c rfl]
      exact Bool.false_ne_true

/-- Blanks are passed, up to a text that begins with none. -/
theorem skipBlanks_append {bs cs : List Char} (hbs : IsBlanks bs) (h : NoBlank cs) :
    skipBlanks (bs ++ cs) = cs := by
  rw [skipBlanks, List.dropWhile_append_of_pos hbs]
  exact skipBlanks_of_noBlank h

/-- A text is blanks and what is left behind them. -/
theorem exists_blanks (cs : List Char) : ∃ bs, IsBlanks bs ∧ cs = bs ++ skipBlanks cs :=
  ⟨cs.takeWhile isJsonBlank, fun _ hc => List.mem_takeWhile_imp hc,
    (List.takeWhile_append_dropWhile (p := isJsonBlank)).symm⟩

/-- What is found behind blanks is in the text. -/
theorem exists_blanks_of_eq {cs rest : List Char} (h : skipBlanks cs = rest) :
    ∃ bs, IsBlanks bs ∧ cs = bs ++ rest := h ▸ exists_blanks cs

/-! ## What may stand behind a value -/

/-- Whether a character may stand behind a value: a blank, a comma, or what closes an array or an object. -/
def endsValue (c : Char) : Bool := isJsonBlank c || c = ',' || c = ']' || c = '\x7d'

/-- A text that may stand behind a value. -/
def EndsValue (cs : List Char) : Prop := ∀ c, cs.head? = some c → endsValue c = true

theorem endsValue_nil : EndsValue [] := fun _ h => nomatch h

theorem EndsValue.cons {c : Char} (h : endsValue c = true) (cs : List Char) : EndsValue (c :: cs) := by
  intro d hd
  cases hd
  exact h

/-- Blanks with a text behind them that may stand behind a value. -/
theorem EndsValue.blanks {bs cs : List Char} (hbs : IsBlanks bs) (h : EndsValue cs) : EndsValue (bs ++ cs) := by
  cases bs with
  | nil => exact h
  | cons b bs =>
      refine .cons ?_ _
      rw [endsValue, hbs b List.mem_cons_self]
      rfl

theorem endsValue_iff {c : Char} :
    endsValue c = true ↔ c = ' ' ∨ c = '\t' ∨ c = '\n' ∨ c = '\r' ∨ c = ',' ∨ c = ']' ∨ c = '\x7d' := by
  rw [endsValue, isJsonBlank]
  simp only [Bool.or_eq_true, decide_eq_true_eq, or_assoc]

/-- A character behind a value goes on no number. -/
theorem isDigit_of_endsValue {c : Char} (h : endsValue c = true) : isDigit c = false := by
  rcases endsValue_iff.mp h with rfl | rfl | rfl | rfl | rfl | rfl | rfl <;> rfl

/-! ## Numbers

Every part of a number reads the same with a text behind it that may stand behind a value. -/

variable {cs e : List Char}

theorem EndsValue.head_not_digit (he : EndsValue e) : ∀ c, e.head? = some c → ¬ isDigit c = true := by
  intro c hc
  rw [isDigit_of_endsValue (he c hc)]
  exact Bool.false_ne_true

theorem takeWhile_digits_append (cs : List Char) (he : EndsValue e) :
    (cs ++ e).takeWhile isDigit = cs.takeWhile isDigit := by
  induction cs with
  | nil =>
      cases e with
      | nil => rfl
      | cons c rest => exact List.takeWhile_cons_of_neg (he.head_not_digit c rfl)
  | cons c cs ih =>
      rw [List.cons_append, List.takeWhile_cons, List.takeWhile_cons, ih]

theorem dropWhile_digits_append (cs : List Char) (he : EndsValue e) :
    (cs ++ e).dropWhile isDigit = cs.dropWhile isDigit ++ e := by
  induction cs with
  | nil =>
      cases e with
      | nil => rfl
      | cons c rest => exact List.dropWhile_cons_of_neg (he.head_not_digit c rfl)
  | cons c cs ih =>
      rw [List.cons_append, List.dropWhile_cons, List.dropWhile_cons]
      split
      · exact ih
      · rfl

/-- A reading with a text behind what is left. -/
def leaving {α : Type} (e : List Char) (r : α × List Char) : α × List Char := (r.1, r.2 ++ e)

/-- Digits that do not begin with a zero. -/
theorem wholeDigits?_of_ne (h : ∀ rest, cs ≠ '0' :: rest) :
    wholeDigits? cs =
      if (cs.takeWhile isDigit).isEmpty then none else some (cs.takeWhile isDigit, cs.dropWhile isDigit) := by
  unfold wholeDigits?
  split
  · rename_i rest
    exact absurd rfl (h rest)
  · rfl

theorem wholeDigits?_append (cs : List Char) (he : EndsValue e) :
    wholeDigits? (cs ++ e) = (wholeDigits? cs).map (leaving e) := by
  by_cases hzero : ∃ rest, cs = '0' :: rest
  · obtain ⟨rest, rfl⟩ := hzero
    rfl
  · have hcs : ∀ rest, cs ≠ '0' :: rest := fun rest h => hzero ⟨rest, h⟩
    have hcse : ∀ rest, cs ++ e ≠ '0' :: rest := by
      intro rest h
      cases cs with
      | nil => exact he.head_not_digit '0' (by rw [← List.nil_append e, h]; rfl) rfl
      | cons c cs => exact hcs cs (by rw [(List.cons.inj h).1])
    rw [wholeDigits?_of_ne hcs, wholeDigits?_of_ne hcse, takeWhile_digits_append cs he,
      dropWhile_digits_append cs he]
    split <;> rfl

theorem fractionDigits?_of_endsValue (he : EndsValue e) : fractionDigits? e = none := by
  unfold fractionDigits?
  split
  · exact absurd (he '.' rfl) (by decide)
  · rfl

theorem fractionDigits?_append (cs : List Char) (he : EndsValue e) :
    fractionDigits? (cs ++ e) = (fractionDigits? cs).map (leaving e) := by
  cases cs with
  | nil => exact fractionDigits?_of_endsValue he
  | cons c cs =>
      by_cases hc : c = '.'
      · subst hc
        rw [List.cons_append, fractionDigits?, fractionDigits?, takeWhile_digits_append cs he,
          dropWhile_digits_append cs he]
        split <;> rfl
      · rw [List.cons_append, fractionDigits?.eq_2 _ (by rintro rest ⟨⟩; exact hc rfl),
          fractionDigits?.eq_2 _ (by rintro rest ⟨⟩; exact hc rfl)]
        rfl

theorem exponentSign_of_endsValue (he : EndsValue e) : exponentSign e = (false, e) := by
  unfold exponentSign
  split
  · exact absurd (he '-' rfl) (by decide)
  · exact absurd (he '+' rfl) (by decide)
  · rfl

theorem exponentSign_append (cs : List Char) (he : EndsValue e) :
    exponentSign (cs ++ e) = leaving e (exponentSign cs) := by
  cases cs with
  | nil => exact exponentSign_of_endsValue he
  | cons c cs =>
      by_cases hminus : c = '-'
      · subst hminus; rfl
      · by_cases hplus : c = '+'
        · subst hplus; rfl
        · have hne : ∀ rest, (exponentSign (c :: rest)) = (false, c :: rest) := by
            intro rest
            unfold exponentSign
            split
            · rename_i heq; exact absurd (List.cons.inj heq).1 hminus
            · rename_i heq; exact absurd (List.cons.inj heq).1 hplus
            · rfl
          rw [List.cons_append, hne, hne]
          rfl

theorem exponent?_append (cs : List Char) (he : EndsValue e) :
    exponent? (cs ++ e) = (exponent? cs).map (leaving e) := by
  cases cs with
  | nil =>
      cases e with
      | nil => rfl
      | cons c rest =>
          have hc : ¬ (c = 'e' ∨ c = 'E') := by
            rintro (rfl | rfl) <;> exact absurd (he _ rfl) (by decide)
          rw [List.nil_append, exponent?, if_neg hc]
          rfl
  | cons c cs =>
      rw [List.cons_append, exponent?, exponent?, exponentSign_append cs he]
      split
      · dsimp only [leaving]
        rw [takeWhile_digits_append _ he, dropWhile_digits_append _ he]
        split <;> rfl
      · rfl

/-- The parts of a number without its sign, and the text behind it. -/
structure NumberParts where
  whole : List Char
  fraction? : Option (List Char)
  exponent? : Option Int
  rest : List Char

/-- The parts of the number at the beginning of a text. -/
def numberParts? (cs : List Char) : Option NumberParts :=
  (wholeDigits? cs).map fun (whole, rest) =>
    let fraction? := fractionDigits? rest
    let rest := (fraction?.map (·.2)).getD rest
    let exponent? := exponent? rest
    ⟨whole, fraction?.map (·.1), exponent?.map (·.1), (exponent?.map (·.2)).getD rest⟩

/-- The number of the parts: an integer of bounded length without a fraction and an exponent, else a double. -/
def NumberParts.number (negative : Bool) (p : NumberParts) : JsonStep Json :=
  if p.fraction?.isNone && p.exponent?.isNone then
    if maxJsonDigits < p.whole.length then .error (.tooManyDigits p.whole.length)
    else .ok (.int (if negative then -(asciiToNat p.whole : Int) else asciiToNat p.whole), p.rest)
  else
    let fraction := p.fraction?.getD []
    .ok (.float (readFloat negative (asciiToNat (p.whole ++ fraction))
      (p.exponent?.getD 0 - fraction.length)), p.rest)

/-- A text behind its minus sign, and whether there is one. -/
def splitSign (cs : List Char) : Bool × List Char :=
  match cs with
  | '-' :: rest => (true, rest)
  | _ => (false, cs)

/-- **A number is the number of its parts**, behind its sign. -/
theorem readNumber_eq (cs : List Char) :
    readNumber cs =
      match numberParts? (splitSign cs).2 with
      | none => faultAt .value cs
      | some p => p.number (splitSign cs).1 := by
  unfold readNumber
  split
  rename_i negative body heq
  have hsplit : splitSign cs = (negative, body) := heq
  rw [hsplit]
  dsimp only
  rw [numberParts?]
  cases wholeDigits? body with
  | none => rfl
  | some r =>
      simp only [Option.map_some, NumberParts.number, Option.isNone_map]

/-- Parts with a text behind what is left. -/
def NumberParts.followedBy (e : List Char) (p : NumberParts) : NumberParts := { p with rest := p.rest ++ e }

theorem numberParts?_append (cs : List Char) (he : EndsValue e) :
    numberParts? (cs ++ e) = (numberParts? cs).map (.followedBy e) := by
  rw [numberParts?, numberParts?, wholeDigits?_append cs he]
  cases wholeDigits? cs with
  | none => rfl
  | some r =>
      have hbehind {α : Type} (o : Option (α × List Char)) (rest : List Char) :
          ((o.map (leaving e)).map (·.2)).getD (rest ++ e) = (o.map (·.2)).getD rest ++ e := by
        cases o <;> rfl
      have hfirst {α : Type} (o : Option (α × List Char)) :
          (o.map (leaving e)).map (·.1) = o.map (·.1) := by
        cases o <;> rfl
      simp only [Option.map_some, leaving, fractionDigits?_append _ he, hbehind,
        exponent?_append _ he, hfirst]
      rfl

theorem NumberParts.number_followedBy (negative : Bool) (p : NumberParts) :
    (p.followedBy e).number negative = (p.number negative).map (leaving e) := by
  unfold NumberParts.number NumberParts.followedBy
  split
  · split <;> rfl
  · rfl

theorem splitSign_append (cs : List Char) (he : EndsValue e) :
    splitSign (cs ++ e) = leaving e (splitSign cs) := by
  cases cs with
  | nil =>
      unfold splitSign
      rw [List.nil_append]
      split
      · exact absurd (he '-' rfl) (by decide)
      · rfl
  | cons c cs =>
      by_cases hc : c = '-'
      · subst hc; rfl
      · have hne : ∀ rest, splitSign (c :: rest) = (false, c :: rest) := by
          intro rest
          unfold splitSign
          split
          · rename_i heq; exact absurd (List.cons.inj heq).1 hc
          · rfl
        rw [List.cons_append, hne, hne]
        rfl

/-- **What a number is does not depend on what stands behind it.** -/
theorem readNumber_append (cs : List Char) (he : EndsValue e) :
    (readNumber (cs ++ e)).toOption = (readNumber cs).toOption.map (leaving e) := by
  rw [readNumber_eq, readNumber_eq, splitSign_append cs he, leaving, numberParts?_append _ he]
  cases numberParts? (splitSign cs).2 with
  | none => rfl
  | some p =>
      change ((p.followedBy e).number _).toOption = (p.number (splitSign cs).1).toOption.map _
      rw [p.number_followedBy]
      cases p.number (splitSign cs).1 <;> rfl

/-! ### What a number leaves -/

variable {rest : List Char} {j : Json}

theorem wholeDigits?_suffix {whole : List Char} (h : wholeDigits? cs = some (whole, rest)) : rest <:+ cs := by
  unfold wholeDigits? at h
  split at h
  · obtain ⟨-, rfl⟩ := Prod.mk.inj (Option.some.inj h)
    exact List.suffix_cons ..
  · dsimp only at h
    split at h
    · cases h
    · obtain ⟨-, rfl⟩ := Prod.mk.inj (Option.some.inj h)
      exact List.dropWhile_suffix _

theorem fractionDigits?_suffix {ds : List Char} (h : fractionDigits? cs = some (ds, rest)) : rest <:+ cs := by
  unfold fractionDigits? at h
  split at h
  · dsimp only at h
    split at h
    · cases h
    · obtain ⟨-, rfl⟩ := Prod.mk.inj (Option.some.inj h)
      exact (List.dropWhile_suffix _).trans (List.suffix_cons ..)
  · cases h

theorem exponentSign_suffix (cs : List Char) : (exponentSign cs).2 <:+ cs := by
  unfold exponentSign
  split
  · exact List.suffix_cons ..
  · exact List.suffix_cons ..
  · exact List.suffix_rfl

theorem exponent?_suffix {n : Int} (h : exponent? cs = some (n, rest)) : rest <:+ cs := by
  unfold exponent? at h
  split at h
  · split at h
    · dsimp only at h
      split at h
      · cases h
      · obtain ⟨-, rfl⟩ := Prod.mk.inj (Option.some.inj h)
        exact ((List.dropWhile_suffix _).trans (exponentSign_suffix _)).trans (List.suffix_cons ..)
    · cases h
  · cases h

/-- An optional part leaves an end of the text. -/
theorem getD_suffix {α : Type} {o : Option (α × List Char)} (h : ∀ r, o = some r → r.2 <:+ cs) :
    (o.map (·.2)).getD cs <:+ cs := by
  cases o with
  | none => exact List.suffix_rfl
  | some r => exact h r rfl

theorem numberParts?_suffix {p : NumberParts} (h : numberParts? cs = some p) : p.rest <:+ cs := by
  obtain ⟨⟨whole, rest⟩, hwhole, rfl⟩ := Option.map_eq_some_iff.mp h
  have hfraction : ((fractionDigits? rest).map (·.2)).getD rest <:+ rest :=
    getD_suffix fun r hr => fractionDigits?_suffix hr
  have hexponent (t : List Char) : ((exponent? t).map (·.2)).getD t <:+ t :=
    getD_suffix fun r hr => exponent?_suffix hr
  exact ((hexponent _).trans hfraction).trans (wholeDigits?_suffix hwhole)

theorem splitSign_suffix (cs : List Char) : (splitSign cs).2 <:+ cs := by
  unfold splitSign
  split
  · exact List.suffix_cons ..
  · exact List.suffix_rfl

theorem NumberParts.rest_of_number {negative : Bool} {p : NumberParts} (h : p.number negative = .ok (j, rest)) :
    rest = p.rest := by
  unfold NumberParts.number at h
  split at h
  · split at h
    · cases h
    · exact (Prod.mk.inj (Except.ok.inj h)).2.symm
  · exact (Prod.mk.inj (Except.ok.inj h)).2.symm

theorem readNumber_suffix (h : readNumber cs = .ok (j, rest)) : rest <:+ cs := by
  rw [readNumber_eq] at h
  split at h
  · cases h
  · rename_i p hp
    rw [NumberParts.rest_of_number h]
    exact (numberParts?_suffix hp).trans (splitSign_suffix cs)

/-- **The characters of a number**: with what may stand behind it in front of anything else, the number is the
    same. -/
theorem exists_number (h : readNumber cs = .ok (j, rest)) (hrest : EndsValue rest) :
    ∃ u, cs = u ++ rest ∧ readNumber u = .ok (j, []) := by
  obtain ⟨u, rfl⟩ := readNumber_suffix h
  refine ⟨u, rfl, ?_⟩
  have happend := readNumber_append u hrest
  rw [h] at happend
  cases hu : readNumber u with
  | error stop => rw [hu] at happend; cases happend
  | ok r =>
      rw [hu] at happend
      obtain ⟨hj, hleft⟩ := Prod.mk.inj (Option.some.inj happend)
      rw [hj, ← List.self_eq_append_left.mp hleft]

/-! ## Strings -/

/-- **The characters of a string**, its closing quote included: they are read as these units, whatever stands
    behind them. -/
def TakesUnits (u : List Char) (codes : List Nat) : Prop :=
  ∀ opening rest, readUnits opening (u ++ rest) = .ok (codes, rest)

namespace TakesUnits

variable {u : List Char} {codes : List Nat}

theorem ne_nil (h : TakesUnits u codes) : u ≠ [] := by
  rintro rfl
  exact nomatch h 0 []

theorem close : TakesUnits ['"'] [] := fun _ _ => rfl

/-- A character that stands for itself. -/
theorem plain {c : Char} (hquote : c ≠ '"') (hslash : c ≠ '\\') (hcontrol : 0x20 ≤ c.toNat)
    (h : TakesUnits u codes) : TakesUnits (c :: u) (c.toNat :: codes) := by
  intro opening rest
  rw [List.cons_append, readUnits, if_neg (Nat.not_lt.mpr hcontrol), h opening rest]
  · rfl
  all_goals simp_all

/-- A character that is written by two. -/
theorem short {c e : Char} (he : unescape? c = some e) (h : TakesUnits u codes) :
    TakesUnits ('\\' :: c :: u) (e.toNat :: codes) := by
  intro opening rest
  have hc : c ≠ 'u' := by rintro rfl; exact nomatch he
  rw [List.cons_append, List.cons_append, readUnits, he]
  · dsimp only
    rw [h opening rest]
    rfl
  all_goals simp_all

/-- A unit that is written by its digits. Behind them comes another character, if only the closing quote. -/
theorem unit {a b c d : Char} {unit : Nat} (hunit : unitValue? a b c d = some unit) (h : TakesUnits u codes) :
    TakesUnits ('\\' :: 'u' :: a :: b :: c :: d :: u) (unit :: codes) := by
  intro opening rest
  obtain ⟨next, t, rfl⟩ := List.exists_cons_of_ne_nil h.ne_nil
  have hread := h opening rest
  rw [List.cons_append] at hread
  simp only [List.cons_append, readUnits, hunit, hread]
  rfl

end TakesUnits

theorem consStep_eq_ok {code : Nat} {step : JsonStep (List Nat)} {codes : List Nat} {rest : List Char}
    (h : consStep code step = .ok (codes, rest)) :
    ∃ codes', codes = code :: codes' ∧ step = .ok (codes', rest) := by
  cases step with
  | error stop => cases h
  | ok r =>
      obtain ⟨rfl, rfl⟩ := Prod.mk.inj (Except.ok.inj h)
      exact ⟨r.1, rfl, rfl⟩

/-- **What is read of a string does not depend on what stands behind it.** -/
theorem exists_units {opening : Nat} {cs rest : List Char} {codes : List Nat}
    (h : readUnits opening cs = .ok (codes, rest)) : ∃ u, cs = u ++ rest ∧ TakesUnits u codes := by
  -- the four ways on: the closing quote, a unit by its digits, a short escape, a plain character
  fun_induction readUnits opening cs generalizing codes rest with
  | case2 behind =>
      obtain ⟨rfl, rfl⟩ := Prod.mk.inj (Except.ok.inj h)
      exact ⟨['"'], rfl, .close⟩
  | case5 a b c d next behind code hcode ih =>
      obtain ⟨codes', rfl, hread⟩ := consStep_eq_ok h
      obtain ⟨u, hu, htakes⟩ := ih hread
      exact ⟨'\\' :: 'u' :: a :: b :: c :: d :: u, by rw [hu]; rfl, .unit hcode htakes⟩
  | case8 c behind _ _ e he ih =>
      obtain ⟨codes', rfl, hread⟩ := consStep_eq_ok h
      obtain ⟨u, rfl, htakes⟩ := ih hread
      exact ⟨'\\' :: c :: u, rfl, .short he htakes⟩
  | case10 c behind hquote hslash _ _ hescape hcontrol ih =>
      obtain ⟨codes', rfl, hread⟩ := consStep_eq_ok h
      obtain ⟨u, rfl, htakes⟩ := ih hread
      refine ⟨c :: u, rfl, .plain hquote ?_ (Nat.not_lt.mp hcontrol) htakes⟩
      -- a backslash is no plain character: what stands behind it would be its escape, and at the end it is a fault
      rintro rfl
      cases hbehind : u ++ rest with
      | nil => exact hslash rfl hbehind
      | cons d t => exact hescape d t rfl hbehind
  | _ => cases h

/-- Whether reading stopped where a value is expected. -/
def JsonStop.isAtValue : JsonStop → Bool
  | .fault .value _ => true
  | .tooManyDigits _ => true
  | _ => false

/-- A string is never stopped by what a value may be stopped by. -/
theorem not_isAtValue_of_units {opening : Nat} {cs : List Char} {stop : JsonStop}
    (h : readUnits opening cs = .error stop) : stop.isAtValue = false := by
  have hcons {code : Nat} {step : JsonStep (List Nat)} (hstep : consStep code step = .error stop) :
      step = .error stop := by
    cases step with
    | error e => exact congrArg _ (Except.error.inj hstep)
    | ok r => cases hstep
  fun_induction readUnits opening cs with
  | case2 => cases h
  | case5 _ _ _ _ _ _ _ _ ih => exact ih (hcons h)
  | case8 _ _ _ _ _ _ ih => exact ih (hcons h)
  | case10 _ _ _ _ _ _ _ _ ih => exact ih (hcons h)
  | _ => rw [← Except.error.inj h]; rfl

/-- **The characters of a string behind its opening quote.** -/
def TakesString (u : List Char) (s : String) : Prop := ∀ rest, readString (u ++ rest) = .ok (s, rest)

theorem TakesUnits.string {u : List Char} {codes : List Nat} (h : TakesUnits u codes) :
    TakesString u (String.ofList (joinPairs codes)) := by
  intro rest
  rw [readString, h]
  rfl

theorem exists_string {cs rest : List Char} {s : String} (h : readString cs = .ok (s, rest)) :
    ∃ u, cs = u ++ rest ∧ TakesString u s := by
  unfold readString at h
  cases hread : readUnits (cs.length + 1) cs with
  | error stop => rw [hread] at h; cases h
  | ok r =>
      rw [hread] at h
      obtain ⟨rfl, rfl⟩ := Prod.mk.inj (Except.ok.inj h)
      obtain ⟨u, hu, htakes⟩ := exists_units hread
      exact ⟨u, hu, htakes.string⟩

theorem not_isAtValue_of_string {cs : List Char} {stop : JsonStop} (h : readString cs = .error stop) :
    stop.isAtValue = false := by
  unfold readString at h
  cases hread : readUnits (cs.length + 1) cs with
  | error e =>
      rw [hread] at h
      rw [← Except.error.inj h]
      exact not_isAtValue_of_units hread
  | ok r => rw [hread] at h; cases h

end GraphQLCache
