import GraphQLCache.Json.Reader
import GraphQLCache.Text.Utf8
import GraphQLCache.Text.Case

/-!
# Files — names, suffixes and contents

A file is read as UTF-8 text with unified line ends, and most files are then read as JSON. Messages name a
file by the last part of its path.
-/

namespace GraphQLCache

/-- The name of a file: the last part of its path. -/
def fileName (path : String) : String :=
  String.ofList ((path.toList.reverse.dropWhile (· = '/')).takeWhile (· ≠ '/')).reverse

/-- The suffix of a file name: its last point and what follows. A point at the very beginning or end starts
    no suffix. -/
def fileSuffix (name : String) : String :=
  let ending := name.toList.reverse.takeWhile (· ≠ '.')
  if ending.isEmpty || name.length ≤ ending.length + 1 then ""
  else String.ofList ('.' :: ending.reverse)

/-- The text of a file. -/
def readTextFile (bytes : List UInt8) : Except Text.Utf8Error (List Char) :=
  (Text.decodeUtf8 bytes).map Text.unifyLineEnds

/-- Why a file holds no JSON value. -/
inductive JsonFileError where
  | notText (error : Text.Utf8Error)
  | notJson (error : JsonError)
deriving DecidableEq, Repr

/-- The JSON value that a file holds. -/
def readJsonFile (bytes : List UInt8) : Except JsonFileError Json :=
  match readTextFile bytes with
  | .error e => .error (.notText e)
  | .ok text =>
    match readJson text with
    | .error e => .error (.notJson e)
    | .ok j => .ok j

end GraphQLCache
