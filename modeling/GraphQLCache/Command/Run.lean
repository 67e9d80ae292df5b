import GraphQLCache.Cache.Browse
import GraphQLCache.Cache.Load
import GraphQLCache.Command.Call
import GraphQLCache.Console.Table
import GraphQLCache.Limits
import GraphQLCache.Mock.Form
import GraphQLCache.Schema.Load
import GraphQLCache.Selection.OfValue
import GraphQLCache.Selection.Printer

/-!
# Commands — what each one prints

A command reads its files and prints a text, or stops early: with a message and exit code 1, or with an
error that no command reports. Messages are markup, so what they quote is escaped; the names of types and
roots and the paths of files are printed as they are.
-/

namespace GraphQLCache.Command

/-! ## Setting and stops -/

/-- What is found under a path. -/
inductive FileState where
  | missing
  | directory
  | file (bytes : List UInt8)
deriving Repr

/-- Whether there is anything under a path. -/
def FileState.isThere : FileState → Bool
  | .missing => false
  | _ => true

/-- What a command sees of the world. -/
structure Setting where
  env : Environment
  clock : Clock
  files : String → FileState

/-- An error that no command reports. -/
inductive Uncaught where
  | schema (error : SchemaError)
  | cache (error : CacheError)
  | data (error : JsonError)
  | directory (path : String)
  | missing (path : String)
  | markup (fault : Console.MarkupFault)
  | endless
deriving Repr

/-- The words for an error. -/
def Uncaught.message : Uncaught → String
  | .schema error => error.message
  | .cache error => error.message
  | .data error => error.message
  | .directory path => "[Errno 21] Is a directory: " ++ quoted path
  | .missing path => "[Errno 2] No such file or directory: " ++ quoted path
  | .markup fault => fault.message
  | .endless => "maximum recursion depth exceeded"

/-- Why a command stops early: what it has printed by then, or an error that it does not report. -/
inductive Stop where
  | exit (output : String)
  | uncaught (error : Uncaught)
deriving Repr

/-- A part of a command. -/
abbrev Step (α : Type) := Except Stop α

/-! ## Printing -/

/-- The width of the console. -/
def consoleWidth : Nat := 1000

/-- Lines with their ends. -/
def endLines (lines : List (List Char)) : String :=
  String.ofList (lines.flatMap fun line => line ++ ['\n'])

/-- A markup text on lines of its own. -/
def show? (markup : String) : Step String :=
  match Console.render markup.toList with
  | .ok text => .ok (endLines (Console.wrap consoleWidth text))
  | .error fault => .error (.uncaught (.markup fault))

/-- A table. -/
def showTable (t : Console.Table) : Step String :=
  match t.print consoleWidth with
  | .ok lines => .ok (endLines lines)
  | .error fault => .error (.uncaught (.markup fault))

/-- A text that stands for itself in markup. -/
def escaped (text : String) : String := String.ofList (Console.escape text.toList)

/-- Stop with a message. -/
def stopWith {α : Type} (markup : String) : Step α := do
  .error (.exit (← show? ("[red]" ++ markup ++ "[/red]")))

/-- A value as indented JSON on lines of its own. -/
def showJson (j : Json) : String := j.pretty ++ "\n"

/-! ## Files -/

/-- A path without the parts that lead nowhere. -/
def plainPath (path : String) : String :=
  let cs := path.toList
  let parts := (cs.splitOn '/').filter fun part => !(part.isEmpty || part = ['.'])
  let joined := "/".intercalate (parts.map String.ofList)
  if cs.head? = some '/' then "/" ++ joined else if joined.isEmpty then "." else joined

/-- The bytes of a file. -/
def bytesOf (s : Setting) (path : String) : Step (List UInt8) :=
  match s.files path with
  | .file bytes => .ok bytes
  | .directory => .error (.uncaught (.directory (plainPath path)))
  | .missing => .error (.uncaught (.missing (plainPath path)))

/-- A schema file; a malformed schema stops the command. -/
def schemaOf (s : Setting) (path : String) : Step LoadedSchema := do
  match loadSchemaFile path (← bytesOf s path) with
  | .ok loaded => return loaded
  | .error e =>
    if e.isReported then
      stopWith ("Could not load schema " ++ escaped (fileName path) ++ ": " ++ escaped e.message)
    else .error (.uncaught (.schema e))

/-- A cache file; one that holds no snapshot stops the command. -/
def snapshotOf (s : Setting) (path : String) : Step Snapshot := do
  match loadSnapshotFile path (← bytesOf s path) with
  | .ok snapshot => return snapshot
  | .error e =>
    if e.isReported then
      stopWith ("Could not load cache " ++ escaped (fileName path) ++ ": " ++ escaped e.message)
    else .error (.uncaught (.cache e))

/-- A data file; one that holds no JSON stops the command. -/
def dataOf (s : Setting) (path : String) : Step Json := do
  let notJson (message : String) : Step Json :=
    stopWith (escaped (fileName path) ++ " is not valid JSON: " ++ escaped message)
  match readJsonFile (← bytesOf s path) with
  | .ok j => return j
  | .error (.notText e) => notJson e.message
  | .error (.notJson (.tooManyDigits count)) => .error (.uncaught (.data (.tooManyDigits count)))
  | .error (.notJson e) => notJson e.message

/-- A default that ends. -/
def ending {α : Type} : Option α → Step α
  | some a => .ok a
  | none => .error (.uncaught .endless)

/-! ## Schemas -/

/-- The heading of the types of a kind. -/
def kindHeading : TypeKind → String
  | .object => "Objects"
  | .interface => "Interfaces"
  | .union => "Unions"
  | .enum => "Enums"
  | .inputObject => "Input Types"
  | .scalar => "Scalars"

/-- The number of fields in words. -/
def fieldCount (fields : List Field) : String := toString fields.length ++ " fields"

/-- What a list of types says about one. -/
def typeDetails (t : NamedType) : String :=
  match t.body with
  | .object fields _ =>
    let roles := [("connection", t.isConnection), ("edge", t.isEdge), ("node", t.isNode)]
    match (roles.filter (·.2)).map (·.1) with
    | [] => fieldCount fields
    | tags => fieldCount fields ++ " (" ++ ", ".intercalate tags ++ ")"
  | .interface fields members => fieldCount fields ++ ", " ++ toString members.length ++ " implementations"
  | .union members => " | ".intercalate members
  | .inputObject fields => fieldCount fields
  | .enum values => toString values.length ++ " values"
  | .scalar => ""

/-- The longest description that a list of types shows. -/
def descriptionLimit : Int := 60

/-- The table of the types of a kind. -/
def kindTable (kind : TypeKind) (types : List NamedType) : Console.Table where
  title := kindHeading kind ++ " (" ++ toString types.length ++ ")"
  columns := [⟨"Name", false⟩, ⟨"Details", false⟩, ⟨"Description", false⟩]
  rows := types.map fun t =>
    [t.name, typeDetails t, escaped (truncateText (t.description.getD "") descriptionLimit)]

/-- The line of a root type. -/
def rootLine (word : String) (root : Option String) : String :=
  "  " ++ word ++ ": " ++ (TypeRef.properName? root).getD "-"

/-- What was left out of a schema, and how much is in it. -/
def loadNotes (path : String) (loaded : LoadedSchema) : Step String := do
  let skips ← loaded.2.mapM fun skip => show? ("  [yellow]" ++ escaped skip.message ++ "[/yellow]")
  let count ← show? ("  Loaded " ++ toString loaded.1.types.entries.length ++ " types from " ++ path)
  return String.join skips ++ count

/-- `schema inspect`: the roots and the types of a schema. -/
def inspectSchema (s : Setting) (g : Given) : Step String := do
  let path := g.argument 0
  let loaded ← schemaOf s path
  let notes ← if g.has "--verbose" then loadNotes path loaded else pure ""
  let schema := loaded.1
  let head ← show? "[bold]Schema Summary[/bold]"
  let query ← show? (rootLine "Query" schema.query)
  let mutation ← show? (rootLine "Mutation" schema.mutation)
  let subscription ← show? (rootLine "Subscription" schema.subscription)
  let summary := notes ++ head ++ query ++ mutation ++ subscription ++ "\n"
  match schema.groupByKind ((g.text? "--search").getD "") with
  | [] => return summary ++ (← show? "[yellow]No matching types[/yellow]")
  | groups =>
    let tables ← groups.mapM fun group => showTable (kindTable group.1 group.2)
    return summary ++ String.join tables

/-! ## Mock data -/

/-- What the defaults of a command share. -/
def mockContext (s : Setting) (schema : Schema) : MockContext := ⟨schema, s.clock⟩

/-- A type of the schema; an unknown one stops the command. -/
def typeOf (schema : Schema) (name : String) : Step NamedType :=
  match schema.get? name with
  | some t => .ok t
  | none => stopWith ("Type " ++ escaped name ++ " not found in schema")

/-- `mock defaults`: a default value of a type. -/
def printDefaults (s : Setting) (g : Given) : Step String := do
  let (schema, _) ← schemaOf s (g.argument 0)
  let t ← typeOf schema (g.argument 1)
  let bound := (g.integer? "--max-depth").getD (DepthLimits.ofEnvironment s.env).form
  let value ← ending ((mockContext s schema).ofType (roomAt 0 bound) [] t)
  return showJson value

/-- The value tree of a data file, which must be an object. -/
def valueTreeOf (s : Setting) (path : String) : Step Entries := do
  match ← dataOf s path with
  | .obj entries => return entries
  | _ => stopWith "Value tree must be a JSON object"

/-- The path of a data file, if one is given. -/
def dataPath? (g : Given) : Option String := TypeRef.properName? (g.text? "--data")

/-- `mock fragment`: the document that selects a value tree. -/
def printFragment (s : Setting) (g : Given) : Step String := do
  let (schema, _) ← schemaOf s (g.argument 0)
  let name := g.argument 1
  let _ ← typeOf schema name
  let limits := DepthLimits.ofEnvironment s.env
  let form ←
    match dataPath? g with
    | some path => valueTreeOf s path
    | none => ending ((mockContext s schema).formOf limits.form (schema.fieldsOf name))
  let bound := (g.integer? "--max-depth").getD limits.document
  let document := schema.selectionDocument name form ((g.text? "--name").getD "") bound
  let output := document.print ++ "\n"
  if g.has "--with-data" then
    return output ++ "\n" ++ showJson (.obj (fragmentData name form))
  return output

/-- The items of a data file, which must be an array. -/
def itemsOf (s : Setting) (path : String) : Step (List Json) := do
  match ← dataOf s path with
  | .arr items => return items
  | _ => stopWith "Existing items must be a JSON array"

/-- `mock item`: a list field with one default item more. -/
def printItem (s : Setting) (g : Given) : Step String := do
  let (schema, _) ← schemaOf s (g.argument 0)
  let (type, name) := (g.argument 1, g.argument 2)
  let place := escaped type ++ "." ++ escaped name
  match (schema.fieldsOf type).find? (·.name = name) with
  | none => stopWith ("Field " ++ place ++ " not found in schema")
  | some field =>
    if !field.type.isList then
      stopWith (place ++ " is not a list field")
    else
      let items ←
        match dataPath? g with
        | some path => itemsOf s path
        | none => pure []
      let bound := (g.integer? "--max-depth").getD (DepthLimits.ofEnvironment s.env).item
      let list ← ending ((mockContext s schema).appendItem (roomAt 0 bound) [] items field.type)
      return showJson (.arr list)

/-! ## Caches -/

/-- The table of the root entries. -/
def rootTable (roots : List (String × Entries)) : Console.Table where
  title := "Root Entries"
  columns := [⟨"Key", false⟩, ⟨"Fields", true⟩]
  rows := roots.map fun r => [r.1, toString r.2.length]

/-- The table of the other entries by type. -/
def entryTable (groups : List (String × List (String × Entries))) : Console.Table where
  title := "Entries"
  columns := [⟨"Typename", false⟩, ⟨"Cache ID", false⟩, ⟨"Fields", true⟩]
  rows := groups.flatMap fun group =>
    group.2.map fun e => [escaped group.1, escaped e.1, toString e.2.length]

/-- `cache inspect`: the entries of a snapshot. -/
def inspectCache (s : Setting) (g : Given) : Step String := do
  let snapshot ← snapshotOf s (g.argument 0)
  let roots ←
    match snapshot.roots with
    | [] => pure ""
    | roots => do pure ((← showTable (rootTable roots)) ++ "\n")
  match snapshot.groups ((g.text? "--search").getD "") with
  | [] => return roots ++ (← show? "[yellow]No matching entries[/yellow]")
  | groups =>
    let table ← showTable (entryTable groups)
    let total := (groups.map (·.2.length)).foldl (· + ·) 0
    let count ← show? ("  " ++ toString total ++ " entries in " ++ toString groups.length ++ " types")
    return roots ++ table ++ count

/-- The longest label that a list of entities shows. -/
def labelLimit : Int := 80

/-- The table of the entities of a type. -/
def entityTable (type : String) (entities : List Entity) : Console.Table where
  title := escaped type ++ " (" ++ toString entities.length ++ " available)"
  columns := [⟨"Cache ID", false⟩, ⟨"Label", false⟩]
  rows := entities.map fun e => [escaped e.id, escaped (truncateText e.label labelLimit)]

/-- `cache entities`: the entries that can be linked as a type. -/
def listEntities (s : Setting) (g : Given) : Step String := do
  let (schema, _) ← schemaOf s (g.argument 0)
  let snapshot ← snapshotOf s (g.argument 1)
  let type := g.argument 2
  match filterEntities (snapshot.entitiesOf schema type) ((g.text? "--search").getD "") with
  | [] => show? ("[yellow]No " ++ escaped type ++ " entities in cache[/yellow]")
  | entities => showTable (entityTable type entities)

/-- The most look-ups that following a chain of references takes. -/
def maxHops : Int := 32

/-- `cache resolve`: the record under a cache id. -/
def resolveId (s : Setting) (g : Given) : Step String := do
  let snapshot ← snapshotOf s (g.argument 0)
  let id := g.argument 1
  let record? :=
    if g.has "--follow" then snapshot.resolve? (.key id) maxHops else snapshot.follow? (.key id)
  match record? with
  | some record => return showJson (.obj record)
  | none => stopWith (escaped id ++ " not found")

/-! ## Command lines -/

/-- The text that a command prints. -/
def runCommand (s : Setting) : CommandName → Given → Step String
  | .schemaInspect, g => inspectSchema s g
  | .mockDefaults, g => printDefaults s g
  | .mockFragment, g => printFragment s g
  | .mockItem, g => printItem s g
  | .cacheInspect, g => inspectCache s g
  | .cacheEntities, g => listEntities s g
  | .cacheResolve, g => resolveId s g

/-- The name and version of the program. -/
def versionLine : String := "cachescope, version 0.1.0\n"

/-- What became of a command line. -/
inductive Outcome where
  | done (exit : Nat) (output : String)
  | failed (error : Uncaught)
deriving Repr

/-- Text with every carriage return in front of a line feed left out. -/
def plainLineEnds : List Char → List Char
  | [] => []
  | '\r' :: '\n' :: rest => '\n' :: plainLineEnds rest
  | c :: rest => c :: plainLineEnds rest

/-- The end of a command line: lines of its output end in line feeds. -/
def Outcome.ofOutput (exit : Nat) (output : String) : Outcome :=
  .done exit (String.ofList (plainLineEnds output.toList))

/-- What a command line comes to. -/
def runLine (s : Setting) (words : List String) : Outcome :=
  match readCall (fun path => (s.files path).isThere) words with
  | .error e => .ofOutput 2 e.message
  | .ok .version => .ofOutput 0 versionLine
  | .ok (.usage scope) => .ofOutput 0 scope.usage
  | .ok (.run name given) =>
    match runCommand s name given with
    | .ok output => .ofOutput 0 output
    | .error (.exit output) => .ofOutput 1 output
    | .error (.uncaught error) => .failed error

end GraphQLCache.Command
