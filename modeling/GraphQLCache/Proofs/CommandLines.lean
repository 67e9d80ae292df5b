import GraphQLCache.Command.Run
import GraphQLCache.Proofs.DecimalText

/-!
# `Proofs.CommandLines` — command lines that are understood

The plain form of a command line: the two words of the command, its arguments, then options each followed by its
value (`CommandName.line`). It is understood as that command with these arguments and options (`readCall_line`),
if no argument is spelt like an option, the command takes every option, and the values pass their checks; with a
fault it exits with 2 (`runLine_line_of_fault`).
-/

namespace GraphQLCache.Command

/-! ## Words -/

/-- Options, each with its value behind it. -/
def optionWords (options : List (String × String)) : List String := options.flatMap fun p => [p.1, p.2]

/-- The plain command line of a command. -/
def CommandName.line (name : CommandName) (arguments : List String) (options : List (String × String)) :
    List String :=
  name.words.1 :: name.words.2 :: (arguments ++ optionWords options)

/-- An option that takes its value from the next word. -/
def isValued (specs : List OptionSpec) (option : String) : Bool :=
  option ≠ "--" && isOptionWord option && splitValue option = (option, none)
    && (specs.find? (·.name = option)).any (·.kind ≠ .flag)

variable {specs : List OptionSpec} {word option value : String} {rest arguments : List String}
  {options : List (String × String)} {given : Given}

theorem readWords_argument (h : isOptionWord word = false) (hrest : readWords specs rest = .ok given) :
    readWords specs (word :: rest) = .ok (given.withArgument word) := by
  have hdash : word ≠ "--" := by rintro rfl; exact absurd h (by decide)
  rw [readWords, if_neg hdash, h, if_neg Bool.false_ne_true, hrest]
  rfl

theorem readWords_option (h : isValued specs option = true) (hrest : readWords specs rest = .ok given) :
    readWords specs (option :: value :: rest) = .ok (given.withOption option value) := by
  simp only [isValued, Bool.and_eq_true, decide_eq_true_eq] at h
  obtain ⟨⟨⟨hdash, hword⟩, hsplit⟩, hspec⟩ := h
  obtain ⟨spec, hfind, hkind⟩ := (Option.any_eq_true ..).mp hspec
  rw [decide_eq_true_eq] at hkind
  rw [readWords, if_neg hdash, hword, if_pos rfl, hsplit]
  dsimp only
  rw [hfind]
  dsimp only
  rw [if_neg hkind, hrest]
  rfl

/-- **Arguments with options behind them** are read one by one. -/
theorem readWords_line (harguments : ∀ word ∈ arguments, isOptionWord word = false)
    (hoptions : ∀ p ∈ options, isValued specs p.1 = true) :
    readWords specs (arguments ++ optionWords options) = .ok ⟨options, arguments⟩ := by
  -- the induction is on the arguments and, where they end, on the options
  induction arguments with
  | cons word rest ih =>
      obtain ⟨hword, hrest⟩ := List.forall_mem_cons.mp harguments
      exact readWords_argument hword (ih hrest)
  | nil =>
      induction options with
      | nil => rfl
      | cons p rest ih =>
          obtain ⟨hp, hrest⟩ := List.forall_mem_cons.mp hoptions
          exact readWords_option hp (ih hrest)

/-! ## Values of arguments and options -/

/-- An integer as a word. -/
def numeral (i : Int) : String := String.ofList (intDigits i)

theorem isInformationSeparator_of_isDigit {c : Char} (h : isDigit c = true) :
    Given.isInformationSeparator c = false := by
  have hc := toNat_of_isDigit h
  rw [Given.isInformationSeparator, Bool.and_eq_false_iff, decide_eq_false_iff_not, decide_eq_false_iff_not]
  omega

/-- **A numeral sets an option to its integer**, if it has no more digits than are read, and else to none. -/
theorem Given.integer?_numeral {g : Given} {i : Int} (h : g.text? option = some (numeral i)) :
    g.integer? option = if FewDigits Text.maxIntegerDigits i then some i else none := by
  have hnat : (natDigits i.natAbs).any isInformationSeparator = false := by
    rw [List.any_eq_false]
    intro c hc
    rw [isInformationSeparator_of_isDigit (isDigit_of_mem_natDigits hc)]
    exact Bool.false_ne_true
  have hnone : (intDigits i).any isInformationSeparator = false := by
    unfold intDigits
    split
    · rw [List.any_cons, hnat]
      rfl
    · exact hnat
  rw [Given.integer?, h, Option.bind_some, numeral, String.toList_ofList, hnone, if_neg Bool.false_ne_true,
    Text.readInteger?_intDigits]

theorem Given.integer?_of_fewDigits {g : Given} {i : Int} (h : g.text? option = some (numeral i))
    (hi : FewDigits Text.maxIntegerDigits i) : g.integer? option = some i := by
  rw [integer?_numeral h, if_pos hi]

/-- A name is not spelt like an option. -/
theorem isOptionWord_of_isName {name : String} (h : isName name = true) : isOptionWord name = false := by
  unfold isOptionWord
  split
  · rename_i c rest heq
    rw [isName, heq, isNameChars, Bool.and_eq_true] at h
    exact absurd h.1 (by decide)
  · rfl

/-! ## Calls -/

section Calls

variable {exists? : String → Bool} {name : CommandName} {spec : OptionSpec}

/-- The two words of a command lead to it. -/
theorem readCall_words (name : CommandName) (words : List String) :
    readCall exists? (name.words.1 :: name.words.2 :: words) = readCommand exists? name words := by
  cases name <;> rfl

/-- An option of a command that is no flag. -/
def CommandName.Takes (name : CommandName) (option : String) : Prop :=
  ∃ spec ∈ name.options, spec.name = option ∧ spec.kind ≠ .flag

/-- Every option of a command but its flags takes its value from the next word. -/
theorem CommandName.Takes.isValued (h : name.Takes option) :
    isValued (name.options ++ [CommandName.helpOption]) option = true := by
  have hall : ∀ spec ∈ name.options, spec.kind ≠ .flag →
      Command.isValued (name.options ++ [CommandName.helpOption]) spec.name = true := by
    cases name <;> decide
  obtain ⟨spec, hspec, rfl, hkind⟩ := h
  exact hall spec hspec hkind

theorem CommandName.Takes.of_find? (hspec : name.options.find? (·.name = option) = some spec)
    (hkind : spec.kind ≠ .flag) : name.Takes option := by
  have hname := List.find?_some hspec
  rw [decide_eq_true_eq] at hname
  exact ⟨spec, List.mem_of_find?_eq_some hspec, hname, hkind⟩

/-- No command takes the option that asks for its usage. -/
theorem CommandName.not_takes_help (name : CommandName) : ¬ name.Takes CommandName.helpOption.name := by
  unfold CommandName.Takes
  cases name <;> decide

/-- **An option that passes**: the command takes it, and its value has no fault. -/
structure Passes (exists? : String → Bool) (name : CommandName) (given : Given) (option : String) : Prop where
  known : name.Takes option
  faultless : optionFaults exists? name.options given option = []

/-- An integer passes if it has no more digits than are read. -/
theorem Passes.numeral {i : Int} (hspec : name.options.find? (·.name = option) = some spec)
    (hkind : spec.kind = .integer) (htext : given.text? option = some (numeral i))
    (hi : FewDigits Text.maxIntegerDigits i) : Passes exists? name given option := by
  refine ⟨.of_find? hspec (by rw [hkind]; decide), ?_⟩
  rw [optionFaults, hspec, htext]
  dsimp only
  rw [hkind, Given.integer?_of_fewDigits htext hi]
  rfl

/-- A path passes if there is something under it. -/
theorem Passes.path {path : String} (hspec : name.options.find? (·.name = option) = some spec)
    (hkind : spec.kind = .path) (htext : given.text? option = some path) (hpath : exists? path = true) :
    Passes exists? name given option := by
  refine ⟨.of_find? hspec (by rw [hkind]; decide), ?_⟩
  rw [optionFaults, hspec, htext]
  dsimp only
  rw [hkind]
  dsimp only
  rw [pathFault, if_pos hpath]

/-- A plain command line is answered by the first fault of its call, if there is one. -/
theorem readCall_line_eq (hwords : ∀ word ∈ arguments, isOptionWord word = false)
    (hoptions : ∀ p ∈ options, name.Takes p.1) :
    readCall exists? (name.line arguments options) =
      match callFaults exists? name ⟨options, arguments⟩ with
      | fault :: _ => .error ⟨.command name, fault⟩
      | [] => .ok (.run name ⟨options, arguments⟩) := by
  -- an option for help would come before every fault, so it has to be ruled out first
  have hhelp : (Given.mk options arguments).has CommandName.helpOption.name = false := by
    rw [Given.has, Option.isSome_eq_false_iff, Option.isNone_iff_eq_none, Given.text?, List.lookup_eq_none_iff]
    intro p hp
    refine bne_iff_ne.mpr fun heq => ?_
    have htakes := hoptions p (List.mem_reverse.mp hp)
    rw [← heq] at htakes
    exact name.not_takes_help htakes
  rw [CommandName.line, readCall_words, readCommand,
    readWords_line hwords fun p hp => (hoptions p hp).isValued]
  refine Eq.trans (if_neg ?_) rfl
  rw [hhelp]
  exact Bool.false_ne_true

/-- **A plain command line is that command**, if nothing is wrong with its arguments and its options pass. -/
theorem readCall_line (hwords : ∀ word ∈ arguments, isOptionWord word = false)
    (harguments : argumentFaults exists? name.arguments arguments = [])
    (hoptions : ∀ p ∈ options, Passes exists? name ⟨options, arguments⟩ p.1) :
    readCall exists? (name.line arguments options) = .ok (.run name ⟨options, arguments⟩) := by
  have hfaults : callFaults exists? name ⟨options, arguments⟩ = [] := by
    rw [callFaults, harguments, List.append_nil, List.flatMap_eq_nil_iff]
    intro option hoption
    obtain ⟨p, hp, rfl⟩ := List.mem_map.mp (List.mem_eraseDups.mp hoption)
    exact (hoptions p hp).faultless
  rw [readCall_line_eq hwords fun p hp => (hoptions p hp).known, hfaults]

/-- An integer of more digits than are read is a fault of its call. -/
theorem notInteger_mem_callFaults {i : Int} (option : String)
    (hspec : name.options.find? (·.name = option) = some spec)
    (hkind : spec.kind = .integer) (htext : given.text? option = some (numeral i))
    (hi : ¬ FewDigits Text.maxIntegerDigits i) :
    .notInteger option (numeral i) ∈ callFaults exists? name given := by
  have hmem : option ∈ given.options.map (·.1) := by
    obtain ⟨l₁, l₂, heq, -⟩ := List.lookup_eq_some_iff.mp htext
    have hpair : (option, numeral i) ∈ given.options.reverse := by rw [heq]; simp
    exact List.mem_map.mpr ⟨_, List.mem_reverse.mp hpair, rfl⟩
  have hinteger : given.integer? option = none := by rw [Given.integer?_numeral htext, if_neg hi]
  refine List.mem_append_left _ (List.mem_flatMap.mpr ⟨option, List.mem_eraseDups.mpr hmem, ?_⟩)
  rw [optionFaults, hspec, htext]
  dsimp only
  rw [hkind, hinteger]
  exact List.mem_singleton.mpr rfl

/-- **A plain command line with a fault exits with 2.** -/
theorem runLine_line_of_fault {s : Setting} {fault : UsageFault}
    (hwords : ∀ word ∈ arguments, isOptionWord word = false) (hoptions : ∀ p ∈ options, name.Takes p.1)
    (hfault : fault ∈ callFaults (fun path => (s.files path).isThere) name ⟨options, arguments⟩) :
    ∃ output, runLine s (name.line arguments options) = .done 2 output := by
  obtain ⟨first, rest, hfaults⟩ := List.exists_cons_of_ne_nil (List.ne_nil_of_mem hfault)
  rw [runLine, readCall_line_eq hwords hoptions, hfaults]
  exact ⟨_, rfl⟩

end Calls

/-! ## What is printed -/

/-- **What a command line prints**: it is understood as a command that prints `text`. -/
def Prints (s : Setting) (words : List String) (text : String) : Prop :=
  ∃ name given, readCall (fun path => (s.files path).isThere) words = .ok (.run name given) ∧
    runCommand s name given = .ok text

/-- A command line that prints a text exits with 0. -/
theorem Prints.runLine_eq {s : Setting} {words : List String} {text : String} (h : Prints s words text) :
    runLine s words = .ofOutput 0 text := by
  obtain ⟨name, given, hread, hrun⟩ := h
  rw [runLine, hread]
  dsimp only
  rw [hrun]

/-- Output without carriage returns is what is seen. -/
theorem plainLineEnds_of_not_mem {cs : List Char} (h : '\r' ∉ cs) : plainLineEnds cs = cs := by
  induction cs with
  | nil => rfl
  | cons c cs ih =>
      rw [List.mem_cons, not_or] at h
      rw [plainLineEnds.eq_3, ih h.2]
      rintro rest rfl
      exact absurd rfl h.1

theorem ofOutput_of_not_mem {exit : Nat} {output : String} (h : '\r' ∉ output.toList) :
    Outcome.ofOutput exit output = .done exit output := by
  rw [Outcome.ofOutput, plainLineEnds_of_not_mem h, String.ofList_toList]

end GraphQLCache.Command
