import GraphQLCache.Proofs.Conformance
import GraphQLCache.Proofs.FoundNames

/-!
# `Proofs.FoundText` — a search reaches text at any depth of a record

A record is searched in the text that it is written as, so a search finds what stands in a key or in a string
if writing leaves it in one piece. What occurs in a value is written in one piece inside of it
(`compact_infix_of_occursIn`), and a character that is neither a quote nor a backslash nor a control is written as it is.
Lowering then keeps the piece, as it keeps every text without a capital sigma.
-/

namespace GraphQLCache

open Snapshot

variable {escape : Char → List Char} {search : String}

/-! ## Values as they are written -/

/-- An item is written in one piece among the items of an array. -/
theorem compact_infix_items {j : Json} {items : List Json} (h : j ∈ items) :
    j.compact escape <:+: compactItems escape items := by
  induction items with
  | nil => cases h
  | cons first rest ih =>
      cases rest with
      | nil =>
          rw [List.mem_singleton.mp h, compactItems]
      | cons second rest =>
          rw [compactItems]
          · rcases List.mem_cons.mp h with rfl | hrest
            · exact (List.prefix_append _ _).isInfix
            · exact (ih hrest).trans ⟨first.compact escape ++ [',', ' '], [], by simp⟩
          · exact List.cons_ne_nil _ _

/-- An entry is written in one piece among the entries of an object. -/
theorem entry_infix_entries {key : String} {j : Json} {entries : Entries} (h : (key, j) ∈ entries) :
    quoteWith escape key ++ ':' :: ' ' :: j.compact escape <:+: compactEntries escape entries := by
  induction entries with
  | nil => cases h
  | cons first rest ih =>
      obtain ⟨key', j'⟩ := first
      cases rest with
      | nil =>
          cases List.mem_singleton.mp h
          rw [compactEntries]
      | cons second rest =>
          rw [compactEntries]
          · rcases List.mem_cons.mp h with heq | hrest
            · cases heq
              exact ⟨[], ',' :: ' ' :: compactEntries escape (second :: rest), by simp⟩
            · exact (ih hrest).trans ⟨quoteWith escape key' ++ ':' :: ' ' :: j'.compact escape ++ [',', ' '], [], by simp⟩
          · exact List.cons_ne_nil _ _

/-- **What occurs in a value is written in one piece inside of it**, at any depth. -/
theorem compact_infix_of_occursIn {sub j : Json} (h : Json.OccursIn sub j) : sub.compact escape <:+: j.compact escape := by
  induction h with
  | here => exact List.infix_rfl
  | @member key value entries mem _ ih =>
      have hvalue : value.compact escape <:+: quoteWith escape key ++ ':' :: ' ' :: value.compact escape :=
        ⟨quoteWith escape key ++ [':', ' '], [], by simp⟩
      rw [Json.compact]
      exact ih.trans (hvalue.trans ((entry_infix_entries mem).trans ⟨['\x7b'], ['\x7d'], by simp⟩))
  | @item value items mem _ ih =>
      rw [Json.compact]
      exact ih.trans ((compact_infix_items mem).trans ⟨['['], [']'], by simp⟩)

/-! ## Text in a value -/

/-- **A value holds a text** if the text stands in a string or in a key of an object that occurs in it, at any
    depth. -/
inductive Json.Holds (text : String) (j : Json) : Prop
  | string {value : String} (occurs : Json.OccursIn (.str value) j) (within : Occurs text value)
  | key {entries : Entries} {key : String} {value : Json} (occurs : Json.OccursIn (.obj entries) j)
      (mem : (key, value) ∈ entries) (within : Occurs text key)

/-- A character is written as it is in a string that may hold any character but quotes, backslashes and
    controls. -/
def isPlainChar (c : Char) : Bool := c ≠ '"' && c ≠ '\\' && 0x20 ≤ c.toNat

theorem escapeControl_of_isPlainChar {c : Char} (h : isPlainChar c = true) : escapeControl c = [c] := by
  simp only [isPlainChar, Bool.and_eq_true, decide_eq_true_eq] at h
  obtain ⟨⟨hquote, hbackslash⟩, hcontrol⟩ := h
  -- The other characters that have a short escape are controls.
  have hne : ∀ d ∈ ['\n', '\r', '\t', '\x08', '\x0c'], c ≠ d := by
    have hlow : ∀ d ∈ ['\n', '\r', '\t', '\x08', '\x0c'], d.toNat < 0x20 := by simp
    intro d hd heq
    have hlt := hlow d hd
    rw [← heq] at hlt
    omega
  have hshort : shortEscape? c = none := by
    unfold shortEscape?
    rw [if_neg hquote, if_neg hbackslash, if_neg (hne _ (by simp)), if_neg (hne _ (by simp)),
      if_neg (hne _ (by simp)), if_neg (hne _ (by simp)), if_neg (hne _ (by simp))]
  rw [escapeControl, hshort]
  exact if_neg (by omega)

/-- A text of such characters stands in a string as it is written. -/
theorem infix_quoteWith {text value : String} (h : ∀ c ∈ text.toList, isPlainChar c = true)
    (hoccurs : Occurs text value) : text.toList <:+: quoteWith escapeControl value := by
  obtain ⟨before, behind, hvalue⟩ := occurs_iff_isInfix.mp hoccurs
  have hplain : text.toList.flatMap escapeControl = text.toList := by
    rw [List.flatMap_congr fun c hc => escapeControl_of_isPlainChar (h c hc)]
    exact List.flatMap_singleton' _
  refine ⟨'"' :: before.flatMap escapeControl, behind.flatMap escapeControl ++ ['"'], ?_⟩
  rw [quoteWith, ← hvalue, List.flatMap_append, List.flatMap_append, hplain]
  simp

/-- **A text that a value holds stands in the value as it is written**, if it has no quotes, backslashes and
    controls. -/
theorem Json.Holds.occurs_dumpRaw {text : String} {j : Json} (h : j.Holds text)
    (hplain : ∀ c ∈ text.toList, isPlainChar c = true) : Occurs text j.dumpRaw := by
  rw [occurs_iff_isInfix, Json.dumpRaw, String.toList_ofList]
  cases h with
  | @string value occurs within =>
      have hwritten : (Json.str value).compact escapeControl = quoteWith escapeControl value := by rw [Json.compact]
      exact (hwritten ▸ infix_quoteWith hplain within).trans (compact_infix_of_occursIn occurs)
  | @key entries key value occurs mem within =>
      have hkey : quoteWith escapeControl key <:+: (Json.obj entries).compact escapeControl := by
        rw [Json.compact]
        exact (List.prefix_append _ _).isInfix.trans ((entry_infix_entries mem).trans ⟨['\x7b'], ['\x7d'], by simp⟩)
      exact (infix_quoteWith hplain within).trans (hkey.trans (compact_infix_of_occursIn occurs))

/-- **Search reaches text at any depth of a record.** Take a search without double quotes, backslashes,
    controls and capital sigmas, and a record that holds it in a key or a string, however deep. Every entity
    with this record is kept by a search of entities, and every entry with it that is not reserved is in its
    group in a search of the snapshot. -/
theorem search_reaches_any_depth {search : String}
    (hplain : ∀ c ∈ search.toList, c ≠ '"' ∧ c ≠ '\\' ∧ 0x20 ≤ c.toNat ∧ c ≠ 'Σ') {record : Entries}
    (hholds : (Json.obj record).Holds search) :
    (∀ entities : List Entity, ∀ e ∈ entities, e.record = record → e ∈ filterEntities entities search) ∧
    ∀ (cache : Snapshot) (id : String), cache.get? id = some (.obj record) → id ∉ reservedIds →
      (id, record) ∈ entriesUnder (cache.groups search) (groupName id record) := by
  have hchars : ∀ c ∈ search.toList, isPlainChar c = true := by
    intro c hc
    obtain ⟨hquote, hbackslash, hcontrol, _⟩ := hplain c hc
    simp [isPlainChar, hquote, hbackslash, hcontrol]
  have hsettled : Text.SettledSigmas search.toList :=
    Text.settledSigmas_of_not_mem fun hsigma => (hplain 'Σ' hsigma).2.2.2 rfl
  have hfound : Occurs (lowerText (trimText search)) (searchText record) :=
    occurs_lowered_of_occurs hsettled (hholds.occurs_dumpRaw hchars)
  constructor
  · rintro entities e he rfl
    exact mem_filterEntities_iff.mpr ⟨he, Or.inr hfound⟩
  · intro cache id hstored hreserved
    exact mem_entriesUnder_groups_iff.mpr
      ⟨mem_records_iff.mpr ⟨hstored, hreserved⟩, rfl, Or.inr (Or.inr hfound)⟩

/-- A record with a list of lids and a note with a capital sigma and quotes. -/
def crate : Entries :=
  [("note", .str "ΤΕΛΟΣ \"end\""), ("lids", .arr [.null, .obj [("Größe\n", .obj [("unit", .str "Zoll (İnç)")])]])]

/-- Part of a key and part of a string, which is trimmed in a search, are found in the lids. -/
theorem crate_reached :
    (Json.obj crate).Holds "Größe" ∧ (Json.obj crate).Holds " (İ" ∧
    (⟨"Box:1", crate, "Box:1"⟩ : Entity) ∈ filterEntities [⟨"Box:1", crate, "Box:1"⟩] "Größe" ∧
    ("Box:1", crate) ∈ entriesUnder (groups (.ofPairs [("Box:1", .obj crate)]) " (İ") (groupName "Box:1" crate) := by
  have hlids : Json.OccursIn (.obj [("Größe\n", .obj [("unit", .str "Zoll (İnç)")])]) (.obj crate) :=
    .member (List.mem_cons_of_mem _ (List.mem_singleton_self _)) (.item (List.mem_cons_of_mem _ (List.mem_singleton_self _)) .here)
  have hunit : Json.OccursIn (.str "Zoll (İnç)") (.obj crate) :=
    .member (List.mem_cons_of_mem _ (List.mem_singleton_self _)) (.item (List.mem_cons_of_mem _ (List.mem_singleton_self _))
      (.member (List.mem_singleton_self _) (.member (List.mem_singleton_self _) .here)))
  have hkey : (Json.obj crate).Holds "Größe" := .key hlids (List.mem_singleton_self _) ⟨"", "\n", by decide⟩
  have hstring : (Json.obj crate).Holds " (İ" := .string hunit ⟨"Zoll", "nç)", by decide⟩
  obtain ⟨hentities, _⟩ := search_reaches_any_depth (by simp) hkey
  obtain ⟨_, hgroups⟩ := search_reaches_any_depth (by simp) hstring
  exact ⟨hkey, hstring, hentities _ _ (List.mem_singleton_self _) rfl,
    hgroups _ "Box:1" (by rw [Keyed.get?_ofPairs, List.lookup_cons_self]) (by decide)⟩

end GraphQLCache
