import GraphQLCache.Command.Usage

/-!
# Calls — the words of a command line, understood

Words that begin with a dash are options, until a word of two dashes; all others are arguments. A long
option takes its value behind an equals sign or from the next word, whatever that is. Values are checked
once all words are read: options in the order in which they stand, then the arguments, then what is left
over. The program and its groups take flags in front of the word that names what is called.
-/

namespace GraphQLCache.Command

/-- The options and arguments of a call. -/
structure Given where
  options : List (String × String)
  arguments : List String
deriving Repr

namespace Given

/-- The last value of an option. -/
def text? (g : Given) (option : String) : Option String := g.options.reverse.lookup option

/-- Whether an option is given. -/
def has (g : Given) (option : String) : Bool := (g.text? option).isSome

/-- The information separators, which are blank but not around an integer. -/
def isInformationSeparator (c : Char) : Bool := 0x1C ≤ c.toNat && c.toNat ≤ 0x1F

/-- The integer that an option is set to. -/
def integer? (g : Given) (option : String) : Option Int :=
  (g.text? option).bind fun value =>
    if value.toList.any isInformationSeparator then none else Text.readInteger? value.toList

/-- The argument at a place. -/
def argument (g : Given) (index : Nat) : String := g.arguments.getD index ""

/-- An option in front of what else is given. -/
def withOption (option value : String) (g : Given) : Given := { g with options := (option, value) :: g.options }

/-- An argument in front of what else is given. -/
def withArgument (value : String) (g : Given) : Given := { g with arguments := value :: g.arguments }

end Given

/-! ## Words -/

/-- Whether a word is an option, or several. -/
def isOptionWord (word : String) : Bool :=
  match word.toList with
  | '-' :: _ :: _ => true
  | _ => false

/-- Whether a word begins with two dashes. -/
def isLongWord (word : String) : Bool := "--".toList.isPrefixOf word.toList

/-- A word up to its first equals sign, and what follows it. -/
def splitValue (word : String) : String × Option String :=
  let cs := word.toList
  let name := cs.takeWhile (· ≠ '=')
  match cs.drop name.length with
  | _ :: value => (String.ofList name, some (String.ofList value))
  | [] => (word, none)

/-- The flags that the letters of a word set. -/
def letterFlags (specs : List OptionSpec) : List Char → Except UsageFault (List String)
  | [] => .ok []
  | c :: rest =>
    match specs.find? (·.letter = some c) with
    | none => .error (.unknownOption (String.ofList ['-', c]) [])
    | some spec => (letterFlags specs rest).map (spec.name :: ·)

/-- The flags that a word sets which is no known option: none if it is long, else those of its letters. -/
def otherFlags (specs : List OptionSpec) (word : String) : Except UsageFault (List String) :=
  if isLongWord word then
    let name := (splitValue word).1
    .error (.unknownOption name (closeWords name (specs.map (·.name))))
  else letterFlags specs (word.toList.drop 1)

/-- The options and arguments that words give. -/
def readWords (specs : List OptionSpec) : List String → Except UsageFault Given
  | [] => .ok ⟨[], []⟩
  | word :: rest =>
    if word = "--" then .ok ⟨[], rest⟩
    else if isOptionWord word then
      let (name, value) := splitValue word
      match specs.find? (·.name = name), value, rest with
      | some spec, some value, rest =>
        if spec.kind = .flag then .error (.unexpectedValue name)
        else (readWords specs rest).map (·.withOption name value)
      | some spec, none, rest =>
        if spec.kind = .flag then (readWords specs rest).map (·.withOption name "")
        else
          match rest with
          | [] => .error (.missingValue name)
          | value :: rest => (readWords specs rest).map (·.withOption name value)
      | none, _, rest =>
        match otherFlags specs word with
        | .error fault => .error fault
        | .ok flags => (readWords specs rest).map fun g => flags.foldr (Given.withOption · "") g
    else (readWords specs rest).map (·.withArgument word)

/-- The flags in front of the first argument, and the words from it on. -/
def readFlags (specs : List OptionSpec) : List String → Except UsageFault (List String × List String)
  | [] => .ok ([], [])
  | word :: rest =>
    if word = "--" then .ok ([], rest)
    else if isOptionWord word then
      let (name, value) := splitValue word
      let behind (flags : List String) := (readFlags specs rest).map fun r => (flags ++ r.1, r.2)
      match specs.any (·.name = name), value with
      | true, some _ => .error (.unexpectedValue name)
      | true, none => behind [name]
      | false, _ => (otherFlags specs word).bind behind
    else .ok ([], word :: rest)

/-! ## Checks -/

/-- The fault of a path that does not exist. -/
def pathFault (exists? : String → Bool) (parameter path : String) : List UsageFault :=
  if exists? path then [] else [.noSuchPath parameter path]

/-- The faults of an option's last value. -/
def optionFaults (exists? : String → Bool) (specs : List OptionSpec) (g : Given) (option : String) :
    List UsageFault :=
  match specs.find? (·.name = option), g.text? option with
  | some spec, some value =>
    match spec.kind with
    | .integer => if (g.integer? option).isSome then [] else [.notInteger option value]
    | .path => pathFault exists? option value
    | .flag | .text => []
  | _, _ => []

/-- The faults of the arguments, and of what is left over. -/
def argumentFaults (exists? : String → Bool) : List ArgumentSpec → List String → List UsageFault
  | [], [] => []
  | [], values => [.extraArguments values]
  | spec :: rest, [] => .missingArgument spec.name :: argumentFaults exists? rest []
  | spec :: rest, value :: values =>
    (if spec.isPath then pathFault exists? spec.name value else []) ++ argumentFaults exists? rest values

/-- The faults of a call, in the order in which they are looked for. -/
def callFaults (exists? : String → Bool) (name : CommandName) (g : Given) : List UsageFault :=
  (g.options.map (·.1)).eraseDups.flatMap (optionFaults exists? name.options g)
    ++ argumentFaults exists? name.arguments g.arguments

/-! ## Calls -/

/-- What a command line asks for. -/
inductive Call where
  | version
  | usage (scope : Scope)
  | run (name : CommandName) (given : Given)
deriving Repr

/-- The call of a command by the words behind it. -/
def readCommand (exists? : String → Bool) (name : CommandName) (words : List String) :
    Except UsageError Call :=
  match readWords (name.options ++ [CommandName.helpOption]) words with
  | .error fault => .error ⟨.command name, fault⟩
  | .ok given =>
    if given.has CommandName.helpOption.name then .ok (.usage (.command name))
    else
      match callFaults exists? name given with
      | fault :: _ => .error ⟨.command name, fault⟩
      | [] => .ok (.run name given)

/-- The call inside a scope. `follow` is what a known word leads to; `known` are those words. Flags are
    answered first. A word that is not known is looked at as a flag once more, since two dashes may stand in
    front of it. -/
def readScope (scope : Scope) (specs : List OptionSpec) (known : List String)
    (follow : String → Option (List String → Except UsageError Call)) (words : List String) :
    Except UsageError Call := do
  let faulty (fault : UsageFault) : UsageError := ⟨scope, fault⟩
  let answer (flag : String) : Call :=
    if flag = CommandName.versionOption.name then .version else .usage scope
  match ← (readFlags specs words).mapError faulty with
  | (flag :: _, _) => return answer flag
  | ([], []) => throw (faulty .noCommand)
  | ([], word :: rest) =>
    match follow word with
    | some read => read rest
    | none =>
      match ← (readFlags specs (word :: rest)).mapError faulty with
      | (flag :: _, _) => return answer flag
      | ([], _) => throw (faulty (.unknownCommand word (closeWords word known)))

/-- The call inside a group. -/
def readGroup (exists? : String → Bool) (group : String) : List String → Except UsageError Call :=
  readScope (.group group) [CommandName.helpOption] (CommandName.ofGroup group) fun word =>
    (CommandName.ofWords? group word).map (readCommand exists?)

/-- The call that a command line asks for. -/
def readCall (exists? : String → Bool) : List String → Except UsageError Call :=
  readScope .program [CommandName.versionOption, CommandName.helpOption] CommandName.groups fun word =>
    if CommandName.groups.contains word then some (readGroup exists? word) else none

end GraphQLCache.Command
