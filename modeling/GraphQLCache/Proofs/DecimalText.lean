import GraphQLCache.Proofs.LongIntegers
import GraphQLCache.Text.DecimalDigit

/-!
# `Proofs.DecimalText` — integers in decimal digits

The digits of an integer are read back as that integer: by the reader of JSON numbers (`readNumber_intDigits`)
and by the reader of what a person types (`readInteger?_intDigits`), if they are no more than either of them
takes (`FewDigits`).
-/

namespace GraphQLCache

variable {c : Char} {n : Nat}

/-! ## Digits of a natural number -/

/-- The digits of a number are those of its tenth, and one more. -/
theorem natDigits_eq (n : Nat) :
    natDigits n = if n < 10 then [Nat.digitChar n] else natDigits (n / 10) ++ [Nat.digitChar (n % 10)] :=
  Nat.toDigits_eq_if (by decide)

theorem natDigits_ne_nil (n : Nat) : natDigits n ≠ [] := Nat.toDigits_ne_nil

theorem isDigit_of_mem_natDigits (h : c ∈ natDigits n) : isDigit c = true := by
  have hdigit : Char.isDigit c = true := Nat.isDigit_of_mem_toDigits (by decide) (by decide) h
  exact hdigit

/-- Digits begin with a digit. -/
theorem natDigits_ne_cons (h : isDigit c = false) (rest : List Char) : natDigits n ≠ c :: rest := by
  intro heq
  have hmem : c ∈ natDigits n := by rw [heq]; exact List.mem_cons_self
  rw [isDigit_of_mem_natDigits hmem] at h
  cases h

/-- Only the digits of zero begin with a zero. -/
theorem head?_natDigits_ne (h : n ≠ 0) : (natDigits n).head? ≠ some '0' := by
  induction n using Nat.strongRecOn with
  | ind n ih =>
      rw [natDigits_eq]
      split
      · rename_i hlt
        have hchar : ∀ d, d < 10 → d ≠ 0 → Nat.digitChar d ≠ '0' := by decide
        exact fun hhead => hchar n hlt h (Option.some.inj hhead)
      · rename_i hge
        have hhead := ih (n / 10) (by omega) (by omega)
        obtain ⟨d, ds, hd⟩ := List.exists_cons_of_ne_nil (natDigits_ne_nil (n / 10))
        rw [hd] at hhead ⊢
        exact hhead

/-- **Digits spell their number.** -/
theorem asciiToNat_natDigits (n : Nat) : asciiToNat (natDigits n) = n := by
  have hchar : ∀ d, d < 10 → (Nat.digitChar d).toNat - 0x30 = d := by decide
  induction n using Nat.strongRecOn with
  | ind n ih =>
      rw [natDigits_eq]
      split
      · rename_i hlt
        simp only [asciiToNat, List.foldl_cons, List.foldl_nil, hchar n hlt]
        omega
      · have htenth := ih (n / 10) (by omega)
        rw [asciiToNat] at htenth
        rw [asciiToNat, List.foldl_append, htenth]
        simp only [List.foldl_cons, List.foldl_nil, hchar (n % 10) (Nat.mod_lt n (by decide))]
        omega

/-- An integer of no more digits than `most`. -/
def FewDigits (most : Nat) (i : Int) : Prop := (natDigits i.natAbs).length ≤ most

instance (most : Nat) (i : Int) : Decidable (FewDigits most i) := Nat.decLe _ _

/-- Some integers have more digits. -/
theorem exists_not_fewDigits (most : Nat) : ∃ i : Int, 1 ≤ i ∧ ¬ FewDigits most i := by
  refine ⟨Nat.pow 10 (most + 1), Int.ofNat_le.mpr (Nat.pow_pos (by decide)), fun hfew => ?_⟩
  rw [FewDigits, Int.natAbs_natCast, natDigits] at hfew
  exact Nat.lt_irrefl _ ((Nat.length_toDigits_le_iff (by decide) (by omega)).mp (Nat.le_succ_of_le hfew))

/-! ## Read as a number -/

/-- The digits of a number are its whole digits, in front of anything that ends them. -/
theorem wholeDigits?_natDigits (n : Nat) : wholeDigits? (natDigits n) = some (natDigits n, []) := by
  by_cases hn : n = 0
  · rw [hn]; rfl
  · have hwhole : wholeDigits? (natDigits n ++ []) = some (natDigits n, []) :=
      wholeDigits?_digits (natDigits_ne_nil n) (head?_natDigits_ne hn)
        (fun c hc => isDigit_of_mem_natDigits hc) fun _ h => nomatch h
    rwa [List.append_nil] at hwhole

theorem numberParts?_natDigits (n : Nat) : numberParts? (natDigits n) = some ⟨natDigits n, none, none, []⟩ := by
  rw [numberParts?, wholeDigits?_natDigits]
  rfl

theorem number_natDigits {negative : Bool} (h : (natDigits n).length ≤ maxJsonDigits) :
    NumberParts.number negative ⟨natDigits n, none, none, []⟩ =
      .ok (.int (if negative then -(n : Int) else n), []) := by
  have hlength : ¬ maxJsonDigits < (natDigits n).length := Nat.not_lt.mpr h
  simp only [NumberParts.number, Option.isNone_none, Bool.and_self, if_true, if_neg hlength,
    asciiToNat_natDigits]

/-- **The digits of an integer are read as that integer**, if there are not too many. -/
theorem readNumber_intDigits {i : Int} (h : FewDigits maxJsonDigits i) :
    readNumber (intDigits i) = .ok (.int i, []) := by
  rw [readNumber_eq]
  by_cases hi : i < 0
  · have hsplit : splitSign (intDigits i) = (true, natDigits i.natAbs) := by
      rw [intDigits, if_pos hi]
      rfl
    rw [hsplit, numberParts?_natDigits]
    dsimp only
    rw [number_natDigits h, if_pos rfl, ← Int.eq_neg_natAbs_of_nonpos (by omega)]
  · have hsplit : splitSign (intDigits i) = (false, natDigits i.natAbs) := by
      rw [intDigits, if_neg hi]
      unfold splitSign
      split
      · rename_i rest heq
        exact absurd heq (natDigits_ne_cons rfl _)
      · rfl
    rw [hsplit, numberParts?_natDigits]
    dsimp only
    rw [number_natDigits h, if_neg Bool.false_ne_true, Int.natAbs_of_nonneg (by omega)]

/-! ## Read as it is typed -/

theorem toNat_of_isDigit (h : isDigit c = true) : 0x30 ≤ c.toNat ∧ c.toNat < 0x3A := by
  rw [isDigit, Bool.and_eq_true, decide_eq_true_eq, decide_eq_true_eq] at h
  exact ⟨h.1, Nat.lt_succ_of_le h.2⟩

namespace Text

/-- A decimal digit of ASCII has the value that it is written for. -/
theorem digitValue?_of_isDigit (h : isDigit c = true) : digitValue? c = some (c.toNat - 0x30) := by
  have hc := toNat_of_isDigit h
  rw [digitValue?, digitZeros, List.find?_cons_of_pos]
  · rfl
  · simpa using hc

theorem isBlank_of_isDigit (h : isDigit c = true) : isBlank c = false := by
  have hnone : ∀ code, code < 0x3A → 0x30 ≤ code → inRanges blankRanges code = false := by decide
  exact hnone c.toNat (toNat_of_isDigit h).2 (toNat_of_isDigit h).1

theorem readDigits?_digits {cs : List Char} (h : ∀ c ∈ cs, isDigit c = true) :
    readDigits? false cs = some (cs.map fun c => c.toNat - 0x30) := by
  induction cs with
  | nil => rfl
  | cons c cs ih =>
      obtain ⟨hc, hcs⟩ := List.forall_mem_cons.mp h
      have hne : c ≠ '_' := by rintro rfl; exact absurd hc (by decide)
      rw [readDigits?, if_neg hne, digitValue?_of_isDigit hc, ih hcs]
      rfl

/-- **The digits of a natural number are read as that number**, if there are not too many, and else not. -/
theorem readNatural?_natDigits (n : Nat) :
    readNatural? (natDigits n) = if (natDigits n).length ≤ maxIntegerDigits then some n else none := by
  have hdigits : readDigits? true (natDigits n) = some ((natDigits n).map fun c => c.toNat - 0x30) := by
    rw [← readDigits?_digits fun c hc => isDigit_of_mem_natDigits hc]
    obtain ⟨d, ds, hd⟩ := List.exists_cons_of_ne_nil (natDigits_ne_nil n)
    have hne : d ≠ '_' := by
      rintro rfl
      exact natDigits_ne_cons rfl ds hd
    rw [hd, readDigits?, readDigits?, if_neg hne, if_neg hne]
  have hvalue : digitsToNat ((natDigits n).map fun c => c.toNat - 0x30) = n := by
    rw [digitsToNat, List.foldl_map]
    exact asciiToNat_natDigits n
  rw [readNatural?, hdigits]
  dsimp only [bind, Option.bind]
  rw [List.length_map, hvalue]

theorem trim_of_no_blank {cs : List Char} (h : ∀ c ∈ cs, isBlank c = false) : trim cs = cs := by
  have hdrop : ∀ cs : List Char, (∀ c ∈ cs, isBlank c = false) → cs.dropWhile isBlank = cs := by
    intro cs h
    cases cs with
    | nil => rfl
    | cons c cs =>
        refine List.dropWhile_cons_of_neg ?_
        rw [h c List.mem_cons_self]
        exact Bool.false_ne_true
  rw [trim, hdrop cs h, trimEnd, hdrop _ fun c hc => h c (List.mem_reverse.mp hc), List.reverse_reverse]

/-- **The digits of an integer are read as that integer**, if there are not too many, and else not. -/
theorem readInteger?_intDigits (i : Int) :
    readInteger? (intDigits i) = if FewDigits maxIntegerDigits i then some i else none := by
  have hdigit : ∀ c ∈ natDigits i.natAbs, isBlank c = false := fun c hc =>
    isBlank_of_isDigit (isDigit_of_mem_natDigits hc)
  have hread : readNatural? (natDigits i.natAbs) =
      if FewDigits maxIntegerDigits i then some i.natAbs else none := readNatural?_natDigits _
  by_cases hi : i < 0
  · have htrim : trim (intDigits i) = '-' :: natDigits i.natAbs := by
      rw [intDigits, if_pos hi]
      exact trim_of_no_blank (List.forall_mem_cons.mpr ⟨by decide, hdigit⟩)
    rw [readInteger?, htrim]
    change ((readNatural? (natDigits i.natAbs)).bind fun n => some (n : Int)).map (fun n => -n) = _
    rw [hread]
    split
    · exact congrArg some (Int.eq_neg_natAbs_of_nonpos (by omega)).symm
    · rfl
  · have htrim : trim (intDigits i) = natDigits i.natAbs := by
      rw [intDigits, if_neg hi]
      exact trim_of_no_blank hdigit
    rw [readInteger?, htrim]
    split
    · rename_i heq; exact absurd heq (natDigits_ne_cons rfl _)
    · rename_i heq; exact absurd heq (natDigits_ne_cons rfl _)
    · rw [hread]
      split
      · rw [Option.map_some]
        exact congrArg some (Int.natAbs_of_nonneg (by omega))
      · rfl

end Text

end GraphQLCache
