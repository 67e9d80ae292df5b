import GraphQLCache.File

/-!
# `Proofs.AsciiText` — texts of ASCII characters in files

A text of ASCII characters without carriage returns is read from a file as it was written
(`readTextFile_ascii`).
-/

namespace GraphQLCache

/-- The bytes of a text, as it is written to a file. -/
def encodeText (text : String) : List UInt8 := text.toList.flatMap String.utf8EncodeChar

/-- **A text of ASCII characters** without carriage returns. -/
def IsAsciiText (cs : List Char) : Prop := ∀ c ∈ cs, c.toNat < 0x80 ∧ c ≠ '\r'

instance (cs : List Char) : Decidable (IsAsciiText cs) := List.decidableBAll _ cs

variable {cs : List Char} {c : Char}

/-- An ASCII character is written as one byte, its code point. -/
theorem utf8EncodeChar_ascii (h : c.toNat < 0x80) : String.utf8EncodeChar c = [UInt8.ofNat c.toNat] := by
  unfold String.utf8EncodeChar
  exact if_pos (Nat.le_of_lt_succ h)

namespace Text

/-- A byte of an ASCII character is that character. -/
theorem decodeFrom_ascii (h : c.toNat < 0x80) (pos : Nat) (bytes : List UInt8) :
    decodeFrom pos none (UInt8.ofNat c.toNat :: bytes) = (c :: ·) <$> decodeFrom (pos + 1) none bytes := by
  have hbyte : (UInt8.ofNat c.toNat).toNat = c.toNat := by
    rw [UInt8.toNat_ofNat']
    exact Nat.mod_eq_of_lt (Nat.lt_trans h (by decide))
  have hlow : UInt8.ofNat c.toNat < 0x80 := by
    rw [UInt8.lt_iff_toNat_lt, hbyte]
    exact h
  rw [decodeFrom]
  simp only [if_pos hlow, hbyte, Char.ofNat_toNat]

theorem decodeUtf8_ascii (h : ∀ c ∈ cs, c.toNat < 0x80) :
    decodeUtf8 (cs.flatMap String.utf8EncodeChar) = .ok cs := by
  have hfrom : ∀ pos, decodeFrom pos none (cs.flatMap String.utf8EncodeChar) = .ok cs := by
    induction cs with
    | nil => exact fun _ => rfl
    | cons c cs ih =>
        obtain ⟨hc, hcs⟩ := List.forall_mem_cons.mp h
        intro pos
        rw [List.flatMap_cons, utf8EncodeChar_ascii hc, List.singleton_append, decodeFrom_ascii hc, ih hcs]
        rfl
  exact hfrom 0

theorem unifyLineEnds_of_not_mem (h : '\r' ∉ cs) : unifyLineEnds cs = cs := by
  induction cs with
  | nil => rfl
  | cons c cs ih =>
      rw [List.mem_cons, not_or] at h
      rw [unifyLineEnds.eq_3, ih h.2, if_neg (Ne.symm h.1)]
      rintro rest rfl
      exact absurd rfl h.1

end Text

/-- **An ASCII text is read as it was written.** -/
theorem readTextFile_ascii (h : IsAsciiText cs) : readTextFile (encodeText (String.ofList cs)) = .ok cs := by
  rw [readTextFile, encodeText, String.toList_ofList, Text.decodeUtf8_ascii fun c hc => (h c hc).1]
  exact congrArg _ (Text.unifyLineEnds_of_not_mem fun hmem => (h _ hmem).2 rfl)

end GraphQLCache
