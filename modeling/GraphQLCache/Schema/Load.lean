import GraphQLCache.File
import GraphQLCache.Introspection.Ingest
import GraphQLCache.Sdl.Load

/-!
# Loading a schema — from an introspection result, from definitions or from a file

A file whose suffix belongs to the definition language is read as definitions, any other as the JSON of an
introspection result. Errors are causes; `SchemaError.isReported` tells those that a command reports from
those that pass it by.
-/

namespace GraphQLCache

/-- Why there is no schema. -/
inductive SchemaError where
  | shape (error : ShapeError)
  | sdl (error : Sdl.SdlError)
  | notText (file : String) (error : Text.Utf8Error)
  | notJson (file : String) (error : JsonError)
deriving Repr

namespace SchemaError

/-- Whether the error is one of a malformed schema, which commands report. What only the check of the type
    system finds and an integer too long are not. -/
def isReported : SchemaError → Bool
  | .sdl (.invalid _) => false
  | .sdl (.blocked _ _) => false
  | .notJson _ (.tooManyDigits _) => false
  | _ => true

/-- The words for an error. -/
def message (e : SchemaError) : String :=
  match e with
  | .shape error => error.message
  | .sdl error => if e.isReported then "Invalid SDL: " ++ error.message else error.message
  | .notText file error => file ++ " is not UTF-8 text: " ++ error.message
  | .notJson file error =>
    if e.isReported then file ++ " is not valid JSON: " ++ error.message else error.message

end SchemaError

/-- A schema with the notes on what was left out of it. -/
abbrev LoadedSchema := Schema × List Skip

/-- The suffixes of files that hold definitions. -/
def sdlSuffixes : List String := [".graphql", ".graphqls", ".gql"]

/-- The schema that a text of definitions defines; nothing is ever left out of it. -/
def loadSdl (text : List Char) : Except SchemaError LoadedSchema :=
  match readSdl text with
  | .ok schema => .ok (schema, [])
  | .error e => .error (.sdl e)

/-- The schema of an introspection result. -/
def loadIntrospection (raw : Json) : Except SchemaError LoadedSchema :=
  (ingest raw).mapError SchemaError.shape

/-- The schema of an introspection result or of a response around one. -/
def loadResponse (raw : Json) : Except SchemaError LoadedSchema :=
  (ingestResponse raw).mapError SchemaError.shape

/-- The schema that a file holds. -/
def loadSchemaFile (path : String) (bytes : List UInt8) : Except SchemaError LoadedSchema :=
  let file := fileName path
  match readTextFile bytes with
  | .error e => .error (.notText file e)
  | .ok text =>
    if sdlSuffixes.contains (lowerText (fileSuffix file)) then loadSdl text
    else
      match readJson text with
      | .error e => .error (.notJson file e)
      | .ok raw => loadResponse raw

end GraphQLCache
