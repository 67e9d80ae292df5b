import GraphQLCache.Json.Printer
import GraphQLCache.Proofs.AsciiText
import GraphQLCache.Proofs.DecimalText
import GraphQLCache.Proofs.Entries
import GraphQLCache.Proofs.JsonReader

/-!
# `Proofs.JsonRoundTrip` — values that a file gives back

A value that is printed over several lines is read back as it was (`readJsonFile_pretty`), if it is `Storable`:
no integer in it has too many digits and no object a key twice. Of the doubles only zero is covered, since
nothing can be proved of what the others are written as.

The reader is entered by the rules of `TakesValue` alone, one for each kind of value; what is left to show is
that the printed characters are of the form that the rule asks for.
-/

namespace GraphQLCache

open Text (hexDigit hexDigits hexValue? unitValue? isHighUnit isLowUnit charOfUnit charOfPair)

/-! ## Escapes are undone -/

/-- The units that an escaped character is read as: its code point, or the pair of units beyond sixteen bits. -/
def codesOf (c : Char) : List Nat :=
  if c.toNat < 0x10000 then [c.toNat]
  else [0xD800 + (c.toNat - 0x10000) / 0x400, 0xDC00 + (c.toNat - 0x10000) % 0x400]

variable {c e : Char} {u : List Char} {codes : List Nat} {n : Nat}

theorem hexValue?_hexDigit : ∀ d, d < 16 → hexValue? (hexDigit d) = some d := by decide

theorem hexDigits_four (n : Nat) :
    hexDigits 4 n =
      [hexDigit (n / 16 / 16 / 16 % 16), hexDigit (n / 16 / 16 % 16), hexDigit (n / 16 % 16),
        hexDigit (n % 16)] :=
  rfl

/-- The four digits of a unit spell it. -/
theorem unitValue?_hexDigits (h : n < 0x10000) :
    unitValue? (hexDigit (n / 16 / 16 / 16 % 16)) (hexDigit (n / 16 / 16 % 16)) (hexDigit (n / 16 % 16))
      (hexDigit (n % 16)) = some n := by
  have hdigit (m : Nat) : hexValue? (hexDigit (m % 16)) = some (m % 16) :=
    hexValue?_hexDigit _ (Nat.mod_lt m (by decide))
  rw [unitValue?, hdigit, hdigit, hdigit, hdigit]
  dsimp only [bind, Option.bind, pure]
  congr 1
  omega

theorem TakesUnits.unitEscape (hn : n < 0x10000) (h : TakesUnits u codes) :
    TakesUnits (unitEscape n ++ u) (n :: codes) := by
  rw [GraphQLCache.unitEscape, hexDigits_four]
  exact .unit (unitValue?_hexDigits hn) h

/-- A two-character escape stands for the character that it was made of. -/
theorem unescape?_of_shortEscape? (h : shortEscape? c = some e) : unescape? e = some c := by
  unfold shortEscape? at h
  split_ifs at h <;> (subst c; cases h; rfl)

theorem lt_of_shortEscape? (h : shortEscape? c = some e) : c.toNat < 0x10000 := by
  unfold shortEscape? at h
  split_ifs at h <;> (subst c; decide)

/-- **An escaped character is read as its units.** -/
theorem TakesUnits.escape (c : Char) (h : TakesUnits u codes) :
    TakesUnits (escapeAscii c ++ u) (codesOf c ++ codes) := by
  unfold escapeAscii codesOf
  cases hshort : shortEscape? c with
  | some e =>
      dsimp only
      rw [if_pos (lt_of_shortEscape? hshort)]
      exact .short (unescape?_of_shortEscape? hshort) h
  | none =>
      dsimp only
      by_cases hplain : 0x20 ≤ c.toNat ∧ c.toNat < 0x7F
      · have hquote : c ≠ '"' := by rintro rfl; exact nomatch hshort
        have hslash : c ≠ '\\' := by rintro rfl; exact nomatch hshort
        rw [if_pos hplain, if_pos (by omega)]
        exact .plain hquote hslash hplain.1 h
      · rw [if_neg hplain]
        split
        · rename_i hunit
          exact .unitEscape hunit h
        -- beyond sixteen bits: a pair of units
        · have hc : c.toNat < 0x110000 := by
            rcases c.valid with hlow | ⟨-, hhigh⟩
            · exact Nat.lt_trans hlow (by decide)
            · exact hhigh
          rw [List.append_assoc]
          exact .unitEscape (by omega) (.unitEscape (by omega) h)

/-- **The units of a character are joined to it again**: no character is half a pair. -/
theorem joinPairs_codesOf (c : Char) (codes : List Nat) :
    joinPairs (codesOf c ++ codes) = c :: joinPairs codes := by
  have hvalid : c.toNat < 0xD800 ∨ 0xDFFF < c.toNat ∧ c.toNat < 0x110000 := c.valid
  unfold codesOf
  split
  · have hhigh : isHighUnit c.toNat = false := by
      rw [isHighUnit, Bool.and_eq_false_iff, decide_eq_false_iff_not, decide_eq_false_iff_not]
      omega
    have hlow : isLowUnit c.toNat = false := by
      rw [isLowUnit, Bool.and_eq_false_iff, decide_eq_false_iff_not, decide_eq_false_iff_not]
      omega
    have hchar : charOfUnit c.toNat = c := by
      rw [charOfUnit, hhigh, hlow, Bool.or_false, if_neg Bool.false_ne_true, Char.ofNat_toNat]
    -- the unit before the next one is joined to it only if it is the first half of a pair
    cases codes with
    | nil => rw [List.append_nil, joinPairs, joinPairs, hchar]
    | cons next rest =>
        rw [List.singleton_append, joinPairs, hhigh, Bool.false_and, if_neg Bool.false_ne_true, hchar]
  · have hhigh : isHighUnit (0xD800 + (c.toNat - 0x10000) / 0x400) = true := by
      rw [isHighUnit, Bool.and_eq_true, decide_eq_true_eq, decide_eq_true_eq]
      omega
    have hlow : isLowUnit (0xDC00 + (c.toNat - 0x10000) % 0x400) = true := by
      rw [isLowUnit, Bool.and_eq_true, decide_eq_true_eq, decide_eq_true_eq]
      omega
    have hchar :
        charOfPair (0xD800 + (c.toNat - 0x10000) / 0x400) (0xDC00 + (c.toNat - 0x10000) % 0x400) = c := by
      have hcode : 0x10000 + (0xD800 + (c.toNat - 0x10000) / 0x400 - 0xD800) * 0x400
          + (0xDC00 + (c.toNat - 0x10000) % 0x400 - 0xDC00) = c.toNat := by omega
      rw [charOfPair, hcode, Char.ofNat_toNat]
    rw [List.cons_append, List.singleton_append, joinPairs, hhigh, hlow, Bool.and_self, if_pos rfl, hchar]

/-- The characters of a quoted text behind its opening quote. -/
def quotedTail (s : String) : List Char := s.toList.flatMap escapeAscii ++ ['"']

theorem quoteWith_eq (s : String) : quoteWith escapeAscii s = '"' :: quotedTail s := rfl

/-- **A quoted text is read as it was.** -/
theorem takesString_quotedTail (s : String) : TakesString (quotedTail s) s := by
  have hunits : ∀ cs : List Char, TakesUnits (cs.flatMap escapeAscii ++ ['"']) (cs.flatMap codesOf) := by
    intro cs
    induction cs with
    | nil => exact .close
    | cons c cs ih =>
        rw [List.flatMap_cons, List.flatMap_cons, List.append_assoc]
        exact .escape c ih
  have hjoin : ∀ cs : List Char, joinPairs (cs.flatMap codesOf) = cs := by
    intro cs
    induction cs with
    | nil => rfl
    | cons c cs ih => rw [List.flatMap_cons, joinPairs_codesOf, ih]
  have hstring := (hunits s.toList).string
  rw [hjoin, String.ofList_toList] at hstring
  exact hstring

/-! ## Printed characters are ASCII -/

theorem IsAsciiText.append {cs ds : List Char} (hcs : IsAsciiText cs) (hds : IsAsciiText ds) :
    IsAsciiText (cs ++ ds) := by
  intro c hc
  rcases List.mem_append.mp hc with h | h
  · exact hcs c h
  · exact hds c h

theorem IsAsciiText.cons {cs : List Char} (hc : c.toNat < 0x80 ∧ c ≠ '\r') (hcs : IsAsciiText cs) :
    IsAsciiText (c :: cs) :=
  List.forall_mem_cons.mpr ⟨hc, hcs⟩

theorem isAsciiText_nil : IsAsciiText [] := fun _ h => absurd h List.not_mem_nil

theorem isAsciiText_hexDigits (width n : Nat) : IsAsciiText (hexDigits width n) := by
  have hdigit : ∀ d, d < 16 → (hexDigit d).toNat < 0x80 ∧ hexDigit d ≠ '\r' := by decide
  induction width generalizing n with
  | zero => exact isAsciiText_nil
  | succ width ih => exact (ih _).append (.cons (hdigit _ (Nat.mod_lt n (by decide))) isAsciiText_nil)

theorem isAsciiText_escapeAscii (c : Char) : IsAsciiText (escapeAscii c) := by
  have hunit (n : Nat) : IsAsciiText (unitEscape n) :=
    .cons (by decide) (.cons (by decide) (isAsciiText_hexDigits 4 n))
  unfold escapeAscii
  cases hshort : shortEscape? c with
  | some e =>
      have he : e.toNat < 0x80 ∧ e ≠ '\r' := by
        unfold shortEscape? at hshort
        split_ifs at hshort <;> (cases hshort; decide)
      exact .cons (by decide) (.cons he isAsciiText_nil)
  | none =>
      dsimp only
      split
      · rename_i hplain
        refine .cons ⟨by omega, ?_⟩ isAsciiText_nil
        rintro rfl
        exact absurd hplain.1 (by decide)
      · split
        · exact hunit _
        · exact (hunit _).append (hunit _)

theorem isAsciiText_quoteWith (s : String) : IsAsciiText (quoteWith escapeAscii s) := by
  refine .cons (by decide) (IsAsciiText.append ?_ (.cons (by decide) isAsciiText_nil))
  intro c hc
  obtain ⟨d, -, hd⟩ := List.mem_flatMap.mp hc
  exact isAsciiText_escapeAscii d c hd

theorem isAsciiText_intDigits (i : Int) : IsAsciiText (intDigits i) := by
  have hnat : IsAsciiText (natDigits i.natAbs) := by
    intro c hc
    have hdigit := isDigit_of_mem_natDigits hc
    have hrange := toNat_of_isDigit hdigit
    refine ⟨by omega, ?_⟩
    rintro rfl
    exact absurd hdigit (by decide)
  unfold intDigits
  split
  · exact .cons (by decide) hnat
  · exact hnat

theorem isAsciiText_newLine (level : Nat) : IsAsciiText (newLine level) := by
  refine .cons (by decide) fun c hc => ?_
  rw [List.eq_of_mem_replicate hc]
  decide

/-! ## Printed values are read back -/

/-- **A value that a file gives back**: its integers have no more digits than are read, its doubles are zero,
    and the keys of every object in it are distinct. -/
inductive Json.Storable : Json → Prop
  | null : Storable .null
  | bool (b : Bool) : Storable (.bool b)
  | int {i : Int} (short : FewDigits maxJsonDigits i) : Storable (.int i)
  | zero : Storable (.float 0.0)
  | str (s : String) : Storable (.str s)
  | arr {items : List Json} (each : ∀ j ∈ items, Storable j) : Storable (.arr items)
  | obj {entries : Entries} (distinct : (Entries.keys entries).Nodup)
      (each : ∀ e ∈ entries, Storable e.2) : Storable (.obj entries)

/-- What printing makes of a value: ASCII characters that are read as the value. -/
structure Json.Prints (j : Json) (level : Nat) : Prop where
  takes : TakesValue (j.indented level) j
  ascii : IsAsciiText (j.indented level)

theorem isBlanks_newLine (level : Nat) : IsBlanks (newLine level) := by
  intro c hc
  rcases List.mem_cons.mp hc with rfl | h
  · rfl
  · rw [List.eq_of_mem_replicate h]
    rfl

theorem isBlanks_space : IsBlanks [' '] := by
  intro c hc
  rw [List.mem_singleton.mp hc]
  rfl

/-- Keys that are distinct are all kept, in their order. -/
theorem Entries.ofPairs_of_nodup {entries : Entries} (h : (keys entries).Nodup) :
    ofPairs entries = entries := by
  induction entries with
  | nil => rfl
  | cons e rest ih =>
      obtain ⟨hfresh, hrest⟩ := List.nodup_cons.mp h
      rw [ofPairs_cons_of_not_mem hfresh, ih hrest]

section Lines

variable {level : Nat}

/-- **The items of an array** on their lines, up to the closing bracket. -/
theorem exists_indentedItems (outer : Nat) (j : Json) (rest : List Json) (h : ∀ i ∈ j :: rest, i.Prints level) :
    ∃ u, indentedItems level (j :: rest) ++ (newLine outer ++ [']']) = newLine level ++ u ∧
      TakesItems u (j :: rest) ∧ IsAsciiText u := by
  induction rest generalizing j with
  | nil =>
      have hj := h j List.mem_cons_self
      refine ⟨_, ?_, .last hj.takes (isBlanks_newLine outer),
        hj.ascii.append ((isAsciiText_newLine outer).append (.cons (by decide) isAsciiText_nil))⟩
      rw [indentedItems, List.append_assoc]
  | cons k rest ih =>
      have hj := h j List.mem_cons_self
      obtain ⟨u, hu, htakes, hascii⟩ := ih k fun i hi => h i (List.mem_cons_of_mem _ hi)
      refine ⟨_, ?_, .cons hj.takes isBlanks_nil (isBlanks_newLine level) htakes,
        hj.ascii.append (.cons (by decide) ((isAsciiText_newLine level).append hascii))⟩
      rw [indentedItems, ← hu]
      · simp only [List.append_assoc, List.cons_append, List.nil_append]
      · exact List.cons_ne_nil _ _

theorem isAsciiText_entryText {e : String × Json} {behind : List Char} (hj : e.2.Prints level)
    (h : IsAsciiText behind) :
    IsAsciiText (entryText (quotedTail e.1) [] [' '] (e.2.indented level) behind) := by
  have hkey : IsAsciiText ('"' :: quotedTail e.1) := isAsciiText_quoteWith e.1
  exact hkey.append (.cons (by decide) (.cons (by decide) (hj.ascii.append h)))

/-- **The entries of an object** on their lines, up to the closing brace. -/
theorem exists_indentedEntries (outer : Nat) (e : String × Json) (rest : Entries)
    (h : ∀ e' ∈ e :: rest, e'.2.Prints level) :
    ∃ u, indentedEntries level (e :: rest) ++ (newLine outer ++ ['\x7d']) = newLine level ++ u ∧
      TakesEntries u (e :: rest) ∧ IsAsciiText u := by
  induction rest generalizing e with
  | nil =>
      have hj := h e List.mem_cons_self
      refine ⟨_, ?_, .last (takesString_quotedTail e.1) isBlanks_nil isBlanks_space hj.takes
        (isBlanks_newLine outer), isAsciiText_entryText hj
        ((isAsciiText_newLine outer).append (.cons (by decide) isAsciiText_nil))⟩
      rw [indentedEntries, quoteWith_eq]
      simp only [entryText, List.append_assoc, List.cons_append, List.nil_append]
  | cons e' rest ih =>
      have hj := h e List.mem_cons_self
      obtain ⟨u, hu, htakes, hascii⟩ := ih e' fun i hi => h i (List.mem_cons_of_mem _ hi)
      refine ⟨_, ?_, .cons (takesString_quotedTail e.1) isBlanks_nil isBlanks_space hj.takes isBlanks_nil
        (isBlanks_newLine level) htakes, isAsciiText_entryText hj
        (.cons (by decide) ((isAsciiText_newLine level).append hascii))⟩
      rw [indentedEntries, quoteWith_eq, ← hu]
      · simp only [entryText, List.append_assoc, List.cons_append, List.nil_append]
      · exact List.cons_ne_nil _ _

end Lines

namespace Json

variable {j : Json}

theorem Prints.literal (word : List Char) (h : (word, j) ∈ jsonLiterals) (hascii : IsAsciiText word)
    (heq : ∀ level, j.indented level = word) (level : Nat) : j.Prints level := by
  constructor
  · rw [heq]; exact .literal h
  · rw [heq]; exact hascii

theorem Prints.array {items : List Json} (h : ∀ level, ∀ i ∈ items, i.Prints level) (level : Nat) :
    (arr items).Prints level := by
  cases items with
  | nil =>
      have heq : (arr []).indented level = '[' :: ([] ++ [']']) := by rw [indented]; rfl
      constructor
      · rw [heq]; exact .closedArray isBlanks_nil
      · rw [heq]; exact .cons (by decide) (.cons (by decide) isAsciiText_nil)
  | cons i rest =>
      obtain ⟨u, hu, htakes, hascii⟩ := exists_indentedItems level i rest (h (level + 1))
      have heq : (arr (i :: rest)).indented level = '[' :: (newLine (level + 1) ++ u) := by
        rw [indented, ← hu]
        simp only [List.append_assoc, List.cons_append]
      constructor
      · rw [heq]; exact .array (isBlanks_newLine _) htakes
      · rw [heq]; exact .cons (by decide) ((isAsciiText_newLine _).append hascii)

theorem Prints.object {entries : Entries} (hdistinct : (Entries.keys entries).Nodup)
    (h : ∀ level, ∀ e ∈ entries, e.2.Prints level) (level : Nat) : (obj entries).Prints level := by
  cases entries with
  | nil =>
      have heq : (obj []).indented level = '\x7b' :: ([] ++ ['\x7d']) := by rw [indented]; rfl
      constructor
      · rw [heq]; exact .closedObject isBlanks_nil
      · rw [heq]; exact .cons (by decide) (.cons (by decide) isAsciiText_nil)
  | cons e rest =>
      obtain ⟨u, hu, htakes, hascii⟩ := exists_indentedEntries level e rest (h (level + 1))
      have heq : (obj (e :: rest)).indented level = '\x7b' :: (newLine (level + 1) ++ u) := by
        rw [indented, ← hu]
        simp only [List.append_assoc, List.cons_append]
      have hobject := TakesValue.object (isBlanks_newLine (level + 1)) htakes
      rw [Entries.ofPairs_of_nodup hdistinct] at hobject
      constructor
      · rw [heq]; exact hobject
      · rw [heq]; exact .cons (by decide) ((isAsciiText_newLine _).append hascii)

/-- **A storable value prints** at every level. -/
theorem Storable.prints (h : j.Storable) (level : Nat) : j.Prints level := by
  induction h generalizing level with
  | null =>
      exact .literal "null".toList (by simp [jsonLiterals]) (by decide)
        (fun _ => by rw [indented]) level
  | bool b =>
      cases b with
      | true =>
          exact .literal "true".toList (by simp [jsonLiterals]) (by decide)
            (fun _ => by rw [indented]) level
      | false =>
          exact .literal "false".toList (by simp [jsonLiterals]) (by decide)
            (fun _ => by rw [indented]) level
  | @int i short =>
      have heq : (Json.int i).indented level = intDigits i := by rw [indented]
      constructor
      · rw [heq]; exact .number (readNumber_intDigits short)
      · rw [heq]; exact isAsciiText_intDigits i
  | zero =>
      have heq : (Json.float 0.0).indented level = ['0', '.', '0'] := by rw [indented]; rfl
      constructor
      · rw [heq]; exact .number rfl
      · rw [heq]; decide
  | str s =>
      have heq : (Json.str s).indented level = '"' :: quotedTail s := by rw [indented, quoteWith_eq]
      constructor
      · rw [heq]; exact .string (takesString_quotedTail s)
      · rw [heq]; exact isAsciiText_quoteWith s
  | arr _ ih => exact .array (fun level i hi => ih i hi level) level
  | obj distinct _ ih => exact .object distinct (fun level e he => ih e he level) level

end Json

/-! ## Files -/

theorem not_bom_of_ascii {rest : List Char} (h : IsAsciiText u) : u ≠ '\ufeff' :: rest := by
  rintro rfl
  exact absurd (h _ List.mem_cons_self).1 (by decide)

/-- The characters of a value, with blanks behind them, are a text of that value. -/
theorem readJson_of_takes {j : Json} {bs : List Char} (h : TakesValue u j) (hascii : IsAsciiText (u ++ bs))
    (hbs : IsBlanks bs) : readJson (u ++ bs) = .ok j := by
  have hstart : skipBlanks (u ++ bs) = u ++ bs :=
    skipBlanks_of_noBlank (h.noEnd.append h.ne_nil bs).noBlank
  have hblank : skipBlanks bs = [] := by
    rw [skipBlanks, List.dropWhile_eq_nil_iff]
    exact hbs
  have hends : EndsValue bs := by
    have hends := EndsValue.blanks hbs endsValue_nil
    rwa [List.append_nil] at hends
  have hread : readValue (2 * (u ++ bs).length + 2) (u ++ bs) = .ok (j, bs) :=
    h _ bs (by rw [List.length_append]; omega) hends
  have hdocument : readDocument (u ++ bs) = .ok j := by
    unfold readDocument
    split
    · rename_i rest heq
      exact absurd heq (not_bom_of_ascii hascii)
    · rw [hstart, hread]
      dsimp only [bind, Except.bind]
      rw [hblank]
  rw [readJson, hdocument]

section Pretty

variable {j : Json}

theorem isAsciiText_pretty (h : j.Storable) : IsAsciiText (j.indented 0 ++ ['\n']) :=
  (h.prints 0).ascii.append (.cons (by decide) isAsciiText_nil)

/-- The file of a printed value has the printed characters for its text. -/
theorem readTextFile_pretty (h : j.Storable) :
    readTextFile (encodeText (j.pretty ++ "\n")) = .ok (j.indented 0 ++ ['\n']) := by
  have hend : "\n" = String.ofList ['\n'] := rfl
  rw [Json.pretty, hend, ← String.ofList_append, readTextFile_ascii (isAsciiText_pretty h)]

/-- The printed characters spell the value. -/
theorem readJson_pretty (h : j.Storable) : readJson (j.indented 0 ++ ['\n']) = .ok j := by
  refine readJson_of_takes (h.prints 0).takes (isAsciiText_pretty h) fun c hc => ?_
  rw [List.mem_singleton.mp hc]
  rfl

/-- **A storable value that is printed to a file is read back from it.** -/
theorem readJsonFile_pretty (h : j.Storable) : readJsonFile (encodeText (j.pretty ++ "\n")) = .ok j := by
  rw [readJsonFile, readTextFile_pretty h]
  dsimp only
  rw [readJson_pretty h]

end Pretty

end GraphQLCache
