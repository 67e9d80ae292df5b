import GraphQLCache.Command.Quoted
import GraphQLCache.Command.Resemblance
import GraphQLCache.Text.DecimalDigit

/-!
# Usage — the commands, their parameters, and what can be wrong with a call

A command has arguments, taken in order, and options, which may stand anywhere. A call that does not fit is
answered by the usage of the command and the fault; two faults of single options are answered alone. A fault
about an unknown word names the known ones that it comes close to.
-/

namespace GraphQLCache.Command

/-! ## Commands -/

/-- What an option takes. -/
inductive OptionKind where
  | flag
  | text
  | integer
  | path
deriving DecidableEq, Repr

/-- An option. -/
structure OptionSpec where
  name : String
  letter : Option Char
  kind : OptionKind
deriving Repr

/-- An argument. -/
structure ArgumentSpec where
  name : String
  isPath : Bool
deriving Repr

/-- The commands. -/
inductive CommandName where
  | schemaInspect
  | mockDefaults
  | mockFragment
  | mockItem
  | cacheInspect
  | cacheEntities
  | cacheResolve
deriving DecidableEq, Repr

namespace CommandName

/-- The commands in order. -/
def all : List CommandName :=
  [.schemaInspect, .mockDefaults, .mockFragment, .mockItem, .cacheInspect, .cacheEntities, .cacheResolve]

/-- The group and the word of a command. -/
def words : CommandName → String × String
  | .schemaInspect => ("schema", "inspect")
  | .mockDefaults => ("mock", "defaults")
  | .mockFragment => ("mock", "fragment")
  | .mockItem => ("mock", "item")
  | .cacheInspect => ("cache", "inspect")
  | .cacheEntities => ("cache", "entities")
  | .cacheResolve => ("cache", "resolve")

/-- The arguments of a command. -/
def arguments : CommandName → List ArgumentSpec
  | .schemaInspect => [⟨"SCHEMA_PATH", true⟩]
  | .mockDefaults => [⟨"SCHEMA_PATH", true⟩, ⟨"TYPE_NAME", false⟩]
  | .mockFragment => [⟨"SCHEMA_PATH", true⟩, ⟨"TYPE_NAME", false⟩]
  | .mockItem => [⟨"SCHEMA_PATH", true⟩, ⟨"TYPE_NAME", false⟩, ⟨"FIELD_NAME", false⟩]
  | .cacheInspect => [⟨"CACHE_PATH", true⟩]
  | .cacheEntities => [⟨"SCHEMA_PATH", true⟩, ⟨"CACHE_PATH", true⟩, ⟨"TYPE_NAME", false⟩]
  | .cacheResolve => [⟨"CACHE_PATH", true⟩, ⟨"CACHE_ID", false⟩]

/-- The option that asks for the usage. -/
def helpOption : OptionSpec := ⟨"--help", none, .flag⟩

/-- The option that asks for the version. -/
def versionOption : OptionSpec := ⟨"--version", none, .flag⟩

/-- The options of a command, but for the one that asks for its usage. -/
def options : CommandName → List OptionSpec
  | .schemaInspect => [⟨"--search", none, .text⟩, ⟨"--verbose", some 'v', .flag⟩]
  | .mockDefaults => [⟨"--max-depth", none, .integer⟩]
  | .mockFragment =>
    [⟨"--data", none, .path⟩, ⟨"--name", none, .text⟩, ⟨"--with-data", none, .flag⟩,
     ⟨"--max-depth", none, .integer⟩]
  | .mockItem => [⟨"--data", none, .path⟩, ⟨"--max-depth", none, .integer⟩]
  | .cacheInspect => [⟨"--search", none, .text⟩]
  | .cacheEntities => [⟨"--search", none, .text⟩]
  | .cacheResolve => [⟨"--follow", none, .flag⟩]

/-- The groups of commands. -/
def groups : List String := ["schema", "mock", "cache"]

/-- The words of the commands of a group. -/
def ofGroup (group : String) : List String :=
  (all.filter (·.words.1 = group)).map (·.words.2)

/-- The command of a group and a word. -/
def ofWords? (group word : String) : Option CommandName := all.find? (·.words = (group, word))

end CommandName

/-! ## Faults of a call -/

/-- What can be wrong with a call. -/
inductive UsageFault where
  | noCommand
  | unknownCommand (word : String) (close : List String)
  | unknownOption (option : String) (close : List String)
  | missingArgument (name : String)
  | extraArguments (values : List String)
  | notInteger (option value : String)
  | noSuchPath (parameter path : String)
  | missingValue (option : String)
  | unexpectedValue (option : String)
deriving DecidableEq, Repr

namespace UsageFault

/-- The question behind a message that names close words. -/
def suggestion : List String → String
  | [] => ""
  | [word] => " Did you mean " ++ quoted word ++ "?"
  | words => " (Did you mean one of: " ++ ", ".intercalate (words.map quoted) ++ "?)"

/-- The words for a fault. -/
def message : UsageFault → String
  | .noCommand => "Missing command."
  | .unknownCommand word close => "No such command " ++ quoted word ++ "." ++ suggestion close
  | .unknownOption option close => "No such option " ++ quoted option ++ "." ++ suggestion close
  | .missingArgument name => "Missing argument '" ++ name ++ "'."
  | .extraArguments [value] => "Got unexpected extra argument (" ++ value ++ ")"
  | .extraArguments values => "Got unexpected extra arguments (" ++ " ".intercalate values ++ ")"
  | .notInteger option value =>
    "Invalid value for '" ++ option ++ "': " ++ quoted value ++ " is not a valid integer."
  | .noSuchPath parameter path =>
    "Invalid value for '" ++ parameter ++ "': Path " ++ quoted path ++ " does not exist."
  | .missingValue option => "Option '" ++ option ++ "' requires an argument."
  | .unexpectedValue option => "Option '" ++ option ++ "' does not take a value."

/-- Whether the fault is answered without the usage. -/
def isBare : UsageFault → Bool
  | .missingValue _ => true
  | .unexpectedValue _ => true
  | _ => false

end UsageFault

/-- How far a call was understood: the program, a group, or a command. -/
inductive Scope where
  | program
  | group (word : String)
  | command (name : CommandName)
deriving DecidableEq, Repr

namespace Scope

/-- The words that lead to a scope. -/
def path : Scope → String
  | .program => "cli"
  | .group word => "cli " ++ word
  | .command name => "cli " ++ name.words.1 ++ " " ++ name.words.2

/-- What may follow these words. -/
def shape : Scope → String
  | .command name => "[OPTIONS] " ++ " ".intercalate (name.arguments.map (·.name))
  | _ => "[OPTIONS] COMMAND [ARGS]..."

end Scope

/-- A call that does not fit. -/
structure UsageError where
  scope : Scope
  fault : UsageFault
deriving DecidableEq, Repr

/-- The line that shows what may follow the words of a scope. -/
def Scope.usage (scope : Scope) : String := "Usage: " ++ scope.path ++ " " ++ scope.shape ++ "\n"

/-- The answer to a call that does not fit. -/
def UsageError.message (e : UsageError) : String :=
  let line := "Error: " ++ e.fault.message ++ "\n"
  if e.fault.isBare then line
  else
    e.scope.usage ++ "Try '" ++ e.scope.path ++ " --help' for help.\n\n" ++ line

end GraphQLCache.Command
