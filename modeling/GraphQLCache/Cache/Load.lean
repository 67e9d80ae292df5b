import GraphQLCache.Cache.Snapshot
import GraphQLCache.File

/-!
# Loading a snapshot — from a JSON file

The file holds an object of entries by cache id, bare or under its only key `data`.
-/

namespace GraphQLCache

/-- Why a file holds no snapshot. -/
inductive CacheError where
  | notText (file : String) (error : Text.Utf8Error)
  | notJson (file : String) (error : JsonError)
  | noSnapshot (fault : SnapshotFault)
deriving DecidableEq, Repr

namespace CacheError

/-- Whether commands report the error; an integer too long passes them by. -/
def isReported : CacheError → Bool
  | .notJson _ (.tooManyDigits _) => false
  | _ => true

/-- The words for an error. -/
def message (e : CacheError) : String :=
  match e with
  | .notText file error => file ++ " is not UTF-8 text: " ++ error.message
  | .notJson file error =>
    if e.isReported then file ++ " is not valid JSON: " ++ error.message else error.message
  | .noSnapshot fault => fault.message

end CacheError

/-- The snapshot that a file holds. -/
def loadSnapshotFile (path : String) (bytes : List UInt8) : Except CacheError Snapshot :=
  match readJsonFile bytes with
  | .error (.notText e) => .error (.notText (fileName path) e)
  | .error (.notJson e) => .error (.notJson (fileName path) e)
  | .ok j => (Snapshot.ofJson j).mapError CacheError.noSnapshot

end GraphQLCache
