import GraphQLCache.Command.Run
import GraphQLCache.Proofs.AsciiText
import GraphQLCache.Proofs.LongIntegers
import GraphQLCache.Proofs.MarkupText

/-!
# `Proofs.JsonFiles` — which failures of JSON files are reported

Snapshots, introspection results and data files are read as JSON. Bytes that are no text, text that is no JSON
and JSON of the wrong shape are reported: by a reported error of the two loaders, and by a message and an exit
where a command reads data. An integer of more digits than are read is what passes all of them by
(`json_failures_reported_unless_long`).
-/

namespace GraphQLCache

/-! ## Messages without brackets -/

/-- A text without brackets. -/
def NoBracket (text : String) : Prop := '[' ∉ text.toList ∧ ']' ∉ text.toList

/-- **A message that stands for itself in markup**, in front of any tag. -/
def IsPlainMessage (message : String) : Prop := NoBracket message ∧ message.toList.getLast? ≠ some '\\'

theorem NoBracket.append {a b : String} (ha : NoBracket a) (hb : NoBracket b) : NoBracket (a ++ b) := by
  rw [NoBracket, String.toList_append, List.mem_append, List.mem_append, not_or, not_or]
  exact ⟨⟨ha.1, hb.1⟩, ha.2, hb.2⟩

/-- Characters of a kind that brackets are not of. -/
theorem noBracket_ofList {cs : List Char} {p : Char → Bool} (h : ∀ c ∈ cs, p c = true) (hopen : p '[' = false)
    (hclose : p ']' = false) : NoBracket (String.ofList cs) := by
  rw [NoBracket, String.toList_ofList]
  refine ⟨fun hmem => ?_, fun hmem => ?_⟩
  · exact absurd (h _ hmem) (by rw [hopen]; exact Bool.false_ne_true)
  · exact absurd (h _ hmem) (by rw [hclose]; exact Bool.false_ne_true)

theorem noBracket_toString (n : Nat) : NoBracket (toString n) := by
  rw [Nat.toString_eq_ofList_toDigits]
  exact noBracket_ofList (fun c hc => Nat.isDigit_of_mem_toDigits (by decide) (by decide) hc) rfl rfl

theorem noBracket_hexDigits (width n : Nat) : NoBracket (String.ofList (Text.hexDigits width n)) := by
  have hdigit : ∀ d, d < 16 → (Text.hexDigit d).isAlphanum = true := by decide
  refine noBracket_ofList (p := Char.isAlphanum) ?_ rfl rfl
  induction width generalizing n with
  | zero => exact fun _ hc => absurd hc List.not_mem_nil
  | succ width ih =>
      intro c hc
      rw [Text.hexDigits, List.mem_append, List.mem_singleton] at hc
      rcases hc with hc | rfl
      · exact ih _ c hc
      · exact hdigit (n % 16) (Nat.mod_lt n (by decide))

/-- Only the end of a message can end in a backslash. -/
theorem IsPlainMessage.append {a b : String} (ha : NoBracket a) (hb : IsPlainMessage b) (hne : b.toList ≠ []) :
    IsPlainMessage (a ++ b) := by
  refine ⟨ha.append hb.1, ?_⟩
  rw [String.toList_append, List.getLast?_append, List.getLast?_eq_some_getLast hne, Option.some_or,
    ← List.getLast?_eq_some_getLast hne]
  exact hb.2

theorem Text.Utf8Error.isPlainMessage (e : Text.Utf8Error) : IsPlainMessage e.message := by
  have hfault : IsPlainMessage e.fault.message ∧ e.fault.message.toList ≠ [] := by
    unfold Text.Utf8Fault.message IsPlainMessage NoBracket
    cases e.fault <;> decide
  have hbyte : NoBracket "'utf-8' codec can't decode byte 0x" := by unfold NoBracket; decide
  have hbytes : NoBracket "'utf-8' codec can't decode bytes in position " := by unfold NoBracket; decide
  have hin : NoBracket " in position " := by unfold NoBracket; decide
  have hdash : NoBracket "-" := by unfold NoBracket; decide
  have hcolon : NoBracket ": " := by unfold NoBracket; decide
  unfold Text.Utf8Error.message
  split
  · refine .append ?_ hfault.1 hfault.2
    exact (((hbyte.append (noBracket_hexDigits _ _)).append hin).append (noBracket_toString _)).append hcolon
  · refine .append ?_ hfault.1 hfault.2
    exact (((hbytes.append (noBracket_toString _)).append hdash).append (noBracket_toString _)).append hcolon

theorem JsonError.isPlainMessage (fault : JsonFault) (offset : Nat) (position : Text.Position) :
    IsPlainMessage (JsonError.malformed fault offset position).message := by
  have hfault : NoBracket fault.message := by
    unfold JsonFault.message NoBracket
    cases fault <;> decide
  have hline : NoBracket ": line " := by unfold NoBracket; decide
  have hcolumn : NoBracket " column " := by unfold NoBracket; decide
  have hchar : NoBracket " (char " := by unfold NoBracket; decide
  have hend : IsPlainMessage ")" := by unfold IsPlainMessage NoBracket; decide
  refine .append ?_ hend (by decide)
  exact (((((hfault.append hline).append (noBracket_toString _)).append hcolumn).append
    (noBracket_toString _)).append hchar).append (noBracket_toString _)

namespace Command

open Console (Inert Follows)

/-! ## Messages that are printed -/

/-- **A message in red can be printed** if it is inert, and stops the command with what is printed. -/
theorem stopWith_of_inert {markup : String} (h : Inert markup.toList "[/red]".toList) :
    ∃ output, show? ("[red]" ++ markup ++ "[/red]") = .ok output ∧
      ∀ {α : Type}, (stopWith markup : Step α) = .error (.exit output) := by
  obtain ⟨text, htext⟩ := Console.render_red h
  have hshow : show? ("[red]" ++ markup ++ "[/red]") = .ok (endLines (Console.wrap consoleWidth text)) := by
    rw [show?, String.toList_append, String.toList_append, List.append_assoc, htext]
  refine ⟨_, hshow, fun {α} => ?_⟩
  rw [stopWith, hshow]
  rfl

/-- What a command says of a data file that holds no JSON. -/
def notJsonMarkup (path message : String) : String :=
  escaped (fileName path) ++ " is not valid JSON: " ++ escaped message

/-- The file name may be any text, once it is escaped. -/
theorem inert_notJsonMarkup (path : String) {message : String} (h : IsPlainMessage message) :
    Inert (notJsonMarkup path message).toList "[/red]".toList := by
  have hspace : NoBracket " is not valid JSON: " := by unfold NoBracket; decide
  have hplain : IsPlainMessage (" is not valid JSON: " ++ escaped message) := by
    have hescaped : escaped message = message := by
      rw [escaped, Console.escape_plain h.1.1 h.2, String.ofList_toList]
    rw [hescaped]
    by_cases hne : message.toList = []
    · rw [String.toList_eq_nil_iff.mp hne]
      unfold IsPlainMessage NoBracket
      decide
    · exact .append hspace h hne
  -- the file name may end in the beginning of a tag, which nothing behind it must close
  have hfollows : Follows ((" is not valid JSON: " ++ escaped message).toList ++ "[/red]".toList) := by
    constructor
    · rw [String.toList_append, List.append_assoc]
      exact Console.slashedTag?_plain (by decide) (by decide) _
    · rw [Console.closesFirst_append hplain.1.1 hplain.1.2]
      rfl
  rw [notJsonMarkup, String.append_assoc, String.toList_append, escaped, String.toList_ofList]
  exact .append (Console.inert_escape _ hfollows) (.plain hplain.1.1 hplain.2 _)

end Command

/-! ## Reading a file -/

/-- The words for why a file holds no JSON value. -/
def JsonFileError.message : JsonFileError → String
  | .notText e => e.message
  | .notJson e => e.message

/-- **A file holds an integer that is too long**, at a place for a value in its text. -/
def FileHoldsLongInteger (bytes : List UInt8) : Prop :=
  ∃ text n, readTextFile bytes = .ok text ∧ HoldsLongInteger n text

variable {bytes : List UInt8} {path : String}

theorem readJsonFile_of_long {text : List Char} {n : Nat} (htext : readTextFile bytes = .ok text)
    (hlong : HoldsLongInteger n text) : readJsonFile bytes = .error (.notJson (.tooManyDigits n)) := by
  rw [readJsonFile, htext]
  dsimp only
  rw [readJson_tooManyDigits_iff.mpr hlong]

theorem readJson_error_of_not_long {text : List Char} {e : JsonError} (htext : readTextFile bytes = .ok text)
    (h : ¬ FileHoldsLongInteger bytes) (he : readJson text = .error e) :
    ∃ fault offset position, e = .malformed fault offset position := by
  cases e with
  | malformed fault offset position => exact ⟨fault, offset, position, rfl⟩
  | tooManyDigits n => exact absurd ⟨text, n, htext, readJson_tooManyDigits_iff.mp he⟩ h

/-- Without such an integer a file that holds no JSON has a plain message. -/
theorem readJsonFile_error_of_not_long {e : JsonFileError} (h : ¬ FileHoldsLongInteger bytes)
    (he : readJsonFile bytes = .error e) :
    (∃ e', e = .notText e') ∨ ∃ fault offset position, e = .notJson (.malformed fault offset position) := by
  unfold readJsonFile at he
  split at he
  · rename_i e' _
    cases he
    exact .inl ⟨e', rfl⟩
  · rename_i text htext
    split at he
    · rename_i e' he'
      cases he
      obtain ⟨fault, offset, position, rfl⟩ := readJson_error_of_not_long htext h he'
      exact .inr ⟨fault, offset, position, rfl⟩
    · cases he

/-! ## Loading a snapshot or a schema -/

/-- Without an integer that is too long, what a snapshot cannot be loaded for is reported. -/
theorem loadSnapshotFile_reported {e : CacheError} (h : ¬ FileHoldsLongInteger bytes)
    (he : loadSnapshotFile path bytes = .error e) : e.isReported = true := by
  unfold loadSnapshotFile at he
  split at he
  · cases he; rfl
  · rename_i e' he'
    cases he
    rcases readJsonFile_error_of_not_long h he' with ⟨_, heq⟩ | ⟨fault, offset, position, heq⟩
    · cases heq
    · cases heq; rfl
  · rename_i j _
    cases hj : Snapshot.ofJson j with
    | error fault => rw [hj] at he; cases he; rfl
    | ok snapshot => rw [hj] at he; cases he

/-- Without an integer that is too long, what an introspection result cannot be loaded for is reported. -/
theorem loadSchemaFile_reported {e : SchemaError}
    (hjson : sdlSuffixes.contains (lowerText (fileSuffix (fileName path))) = false)
    (h : ¬ FileHoldsLongInteger bytes) (he : loadSchemaFile path bytes = .error e) : e.isReported = true := by
  unfold loadSchemaFile at he
  dsimp only at he
  split at he
  · cases he; rfl
  · rename_i text htext
    rw [hjson, if_neg Bool.false_ne_true] at he
    split at he
    · rename_i e' he'
      cases he
      obtain ⟨fault, offset, position, rfl⟩ := readJson_error_of_not_long htext h he'
      rfl
    · rename_i raw _
      unfold loadResponse at he
      cases hraw : ingestResponse raw with
      | error fault => rw [hraw] at he; cases he; rfl
      | ok loaded => rw [hraw] at he; cases he

/-- A snapshot with such an integer is not loaded, whatever its name. -/
theorem loadSnapshotFile_of_long {text : List Char} {n : Nat} (htext : readTextFile bytes = .ok text)
    (hlong : HoldsLongInteger n text) :
    loadSnapshotFile path bytes = .error (.notJson (fileName path) (.tooManyDigits n)) := by
  rw [loadSnapshotFile, readJsonFile_of_long htext hlong]

/-- Neither is an introspection result. -/
theorem loadSchemaFile_of_long {text : List Char} {n : Nat}
    (hjson : sdlSuffixes.contains (lowerText (fileSuffix (fileName path))) = false)
    (htext : readTextFile bytes = .ok text) (hlong : HoldsLongInteger n text) :
    loadSchemaFile path bytes = .error (.notJson (fileName path) (.tooManyDigits n)) := by
  rw [loadSchemaFile, htext]
  dsimp only
  rw [hjson, if_neg Bool.false_ne_true, readJson_tooManyDigits_iff.mpr hlong]

/-! ## Reading data -/

namespace Command

/-- **What a command does with a data file**: it goes on with the value, or prints why there is none and
    exits. -/
inductive AnswersData (s : Setting) (path : String) (bytes : List UInt8) : Prop
  | value (j : Json) (read : readJsonFile bytes = .ok j) (answer : dataOf s path = .ok j)
  | message (e : JsonFileError) (output : String) (read : readJsonFile bytes = .error e)
      (shown : show? ("[red]" ++ notJsonMarkup path e.message ++ "[/red]") = .ok output)
      (answer : dataOf s path = .error (.exit output))

variable {s : Setting}

theorem dataOf_eq (hfile : s.files path = .file bytes) :
    dataOf s path =
      match readJsonFile bytes with
      | .ok j => .ok j
      | .error (.notJson (.tooManyDigits count)) => .error (.uncaught (.data (.tooManyDigits count)))
      | .error e => stopWith (notJsonMarkup path e.message) := by
  unfold dataOf bytesOf
  rw [hfile]
  dsimp only [bind, Except.bind]
  cases readJsonFile bytes with
  | ok j => rfl
  | error e =>
      cases e with
      | notText e => rfl
      | notJson e => cases e <;> rfl

/-- An integer that is too long ends the command where data is read. -/
theorem dataOf_of_long {text : List Char} {n : Nat} (hfile : s.files path = .file bytes)
    (htext : readTextFile bytes = .ok text) (hlong : HoldsLongInteger n text) :
    dataOf s path = .error (.uncaught (.data (.tooManyDigits n))) := by
  rw [dataOf_eq hfile, readJsonFile_of_long htext hlong]

theorem answersData_of_not_long (hfile : s.files path = .file bytes) (h : ¬ FileHoldsLongInteger bytes) :
    AnswersData s path bytes := by
  cases hread : readJsonFile bytes with
  | ok j => exact .value j hread (by rw [dataOf_eq hfile, hread])
  | error e =>
      rcases readJsonFile_error_of_not_long h hread with ⟨e', rfl⟩ | ⟨fault, offset, position, rfl⟩
      · obtain ⟨output, hshow, hstop⟩ := stopWith_of_inert (inert_notJsonMarkup path e'.isPlainMessage)
        exact .message _ output hread hshow (by rw [dataOf_eq hfile, hread]; exact hstop)
      · obtain ⟨output, hshow, hstop⟩ :=
          stopWith_of_inert (inert_notJsonMarkup path (JsonError.isPlainMessage fault offset position))
        exact .message _ output hread hshow (by rw [dataOf_eq hfile, hread]; exact hstop)

end Command

open Command (dataOf AnswersData)

/-- **Every failure of a JSON file is reported, unless the file holds an integer that is too long**, at a place
    for a value; then no reader of the file reports it. A snapshot and data may have any name; a schema is read as
    JSON if its name does not end as a file of definitions does. -/
theorem json_failures_reported_unless_long (path : String) (bytes : List UInt8) :
    (¬ FileHoldsLongInteger bytes →
      (∀ e, loadSnapshotFile path bytes = .error e → e.isReported = true)
        ∧ (sdlSuffixes.contains (lowerText (fileSuffix (fileName path))) = false →
          ∀ e, loadSchemaFile path bytes = .error e → e.isReported = true)
        ∧ ∀ s : Command.Setting, s.files path = .file bytes → AnswersData s path bytes) ∧
    ∀ text n, readTextFile bytes = .ok text → HoldsLongInteger n text →
      loadSnapshotFile path bytes = .error (.notJson (fileName path) (.tooManyDigits n))
        ∧ (sdlSuffixes.contains (lowerText (fileSuffix (fileName path))) = false →
          loadSchemaFile path bytes = .error (.notJson (fileName path) (.tooManyDigits n)))
        ∧ ∀ s : Command.Setting, s.files path = .file bytes →
          dataOf s path = .error (.uncaught (.data (.tooManyDigits n))) := by
  constructor
  · intro h
    exact ⟨fun e he => loadSnapshotFile_reported h he, fun hjson e he => loadSchemaFile_reported hjson h he,
      fun s hfile => Command.answersData_of_not_long hfile h⟩
  · intro text n htext hlong
    exact ⟨loadSnapshotFile_of_long htext hlong, fun hjson => loadSchemaFile_of_long hjson htext hlong,
      fun s hfile => Command.dataOf_of_long hfile htext hlong⟩

/-! ### A file of too many digits -/

/-- One digit more than an integer may have. -/
def longDigits : List Char := List.replicate (maxJsonDigits + 1) '1'

/-- The file that holds these digits and nothing else. -/
def longFile : List UInt8 := encodeText (String.ofList longDigits)

theorem longDigits_held : HoldsLongInteger (maxJsonDigits + 1) longDigits := by
  refine ⟨[], longDigits, rfl, rfl, [], longDigits, [], ?_, .inl rfl, ?_, ?_, List.length_replicate,
    Nat.lt_succ_self _, (fun _ h => by cases h), rfl, rfl⟩
  · rw [List.nil_append, List.append_nil]
  · rw [longDigits, List.replicate_succ, List.head?_cons]
    decide
  · intro c hc
    rw [List.eq_of_mem_replicate hc]
    rfl

theorem readTextFile_longFile : readTextFile longFile = .ok longDigits := by
  refine readTextFile_ascii fun c hc => ?_
  rw [List.eq_of_mem_replicate hc]
  decide

/-- A brace that is not closed is reported, too many digits are not: in a snapshot under the name of a file of
    definitions, and in a schema. -/
theorem openBrace_reported_longFile_not :
    ¬ FileHoldsLongInteger [0x7b]
      ∧ (∀ e, loadSnapshotFile "data.gql" [0x7b] = .error e → e.isReported = true)
      ∧ readTextFile longFile = .ok longDigits ∧ HoldsLongInteger 4301 longDigits
      ∧ loadSnapshotFile "data.gql" longFile = .error (.notJson "data.gql" (.tooManyDigits 4301))
      ∧ sdlSuffixes.contains (lowerText (fileSuffix (fileName "data.json"))) = false
      ∧ loadSchemaFile "data.json" longFile = .error (.notJson "data.json" (.tooManyDigits 4301)) := by
  have hbrace : ¬ FileHoldsLongInteger [0x7b] := by
    rintro ⟨text, n, htext, hlong⟩
    obtain rfl : ['\x7b'] = text := Except.ok.inj htext
    have hread := readJson_tooManyDigits_iff.mpr hlong
    exact nomatch hread
  have hjson : sdlSuffixes.contains (lowerText (fileSuffix (fileName "data.json"))) = false := by decide
  have hgql : fileName "data.gql" = "data.gql" := by decide
  have hname : fileName "data.json" = "data.json" := by decide
  obtain ⟨hreported, -, -⟩ := (json_failures_reported_unless_long "data.gql" [0x7b]).1 hbrace
  obtain ⟨hsnapshot, -, -⟩ := (json_failures_reported_unless_long "data.gql" longFile).2 longDigits _
    readTextFile_longFile longDigits_held
  obtain ⟨-, hschema, -⟩ := (json_failures_reported_unless_long "data.json" longFile).2 longDigits _
    readTextFile_longFile longDigits_held
  have hlong := hschema hjson
  rw [hgql] at hsnapshot
  rw [hname] at hlong
  exact ⟨hbrace, hreported, readTextFile_longFile, longDigits_held, hsnapshot, hjson, hlong⟩

/-- Digits alone pass by the readers of snapshots, of schemas and of data. -/
theorem longFile_passes_by :
    (∃ e, loadSnapshotFile "c.json" longFile = .error e ∧ e.isReported = false)
      ∧ (∃ e, loadSchemaFile "c.json" longFile = .error e ∧ e.isReported = false)
      ∧ ∀ s : Command.Setting, s.files "c.json" = .file longFile → ¬ AnswersData s "c.json" longFile := by
  have hjson : sdlSuffixes.contains (lowerText (fileSuffix (fileName "c.json"))) = false := by decide
  refine ⟨⟨_, loadSnapshotFile_of_long readTextFile_longFile longDigits_held, rfl⟩,
    ⟨_, loadSchemaFile_of_long hjson readTextFile_longFile longDigits_held, rfl⟩, fun s hfile hanswer => ?_⟩
  have hdata := Command.dataOf_of_long hfile readTextFile_longFile longDigits_held
  cases hanswer with
  | value j _ answer => exact nomatch hdata.symm.trans answer
  | message e output _ _ answer => exact nomatch hdata.symm.trans answer

end GraphQLCache
