import GraphQLCache.Sdl.Excerpt
import GraphQLCache.Sdl.Parser
import GraphQLCache.Sdl.Validity

/-!
# Loading definitions — a text becomes the schema that it defines

The text is read as a document, the document is held against the rules, the type system is put together and
checked, and its schema is what a service would report. Each step has faults of its own.
-/

namespace GraphQLCache

namespace Sdl

/-- Why a text defines no schema. A place is kept as the excerpt that shows it. -/
inductive SdlError where
  | unreadable (fault : SyntaxFault) (place : String)
  | brokenRules (faults : List RuleFault)
  | badArgument (fault : ArgumentFault) (place : Option String)
  | blocked (obstacle : Obstacle) (place : Option String)
  | invalid (faults : List ValidityFault)
deriving Repr

/-- Messages with an empty line between each two. -/
def joinMessages (messages : List String) : String := "\n\n".intercalate messages

/-- The words for an error. -/
def SdlError.message : SdlError → String
  | .unreadable fault place => joinMessages ["Syntax Error: " ++ fault.message, place]
  | .brokenRules faults => joinMessages (faults.map RuleFault.message)
  | .badArgument fault place => joinMessages (fault.message :: place.toList)
  | .blocked obstacle place => joinMessages (obstacle.message :: place.toList)
  | .invalid faults => joinMessages (faults.map ValidityFault.message)

/-- The document that a text spells. -/
def readDocument (cs : List Char) : Except SdlError Document :=
  match parseDocument cs with
  | .ok document => .ok document
  | .error ⟨fault, left⟩ => .error (.unreadable fault (excerpt cs (cs.length - left)))

/-- The excerpt that shows a fault of an argument, if it is shown. -/
def ArgumentFault.place? (cs : List Char) (fault : ArgumentFault) : Option String :=
  fault.left.map fun left => excerpt cs (cs.length - left)

/-- The excerpt that shows an obstacle, if it is shown. -/
def Obstacle.place? (cs : List Char) : Obstacle → Option String
  | .noLeaf _ => none
  | .reason fault => fault.place? cs

/-- The type system that a text defines: one that keeps to the rules and is valid. -/
def readTypeSystem (cs : List Char) : Except SdlError TypeSystem := do
  let document ← readDocument cs
  let broken := ruleFaults document
  unless broken.isEmpty do
    throw (.brokenRules broken)
  let system := TypeSystem.ofDocument document
  if let some fault := reasonFault? system.types system.directives then
    throw (.badArgument fault (fault.place? cs))
  if let some obstacle := system.obstacle? then
    throw (.blocked obstacle (obstacle.place? cs))
  let faults := system.faults
  unless faults.isEmpty do
    throw (.invalid faults)
  return system

end Sdl

/-- The schema that a text defines. -/
def readSdl (cs : List Char) : Except Sdl.SdlError Schema := (Sdl.readTypeSystem cs).map Sdl.TypeSystem.schema

end GraphQLCache
