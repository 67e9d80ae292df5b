import GraphQLCache.Command.Run
import Std.Time.DateTime.Timestamp

/-!
# The program — a command line run against files, environment and clock

Reads what the words of the command line may name, runs the command, prints what it prints and exits with
its code. An error that no command reports goes to the error output.
-/

namespace GraphQLCache.Command

/-- The environment variables that commands look at. -/
def settingKeys : List String :=
  ["CACHESCOPE_FORM_MAX_DEPTH", "CACHESCOPE_ITEM_MAX_DEPTH", "CACHESCOPE_DOCUMENT_MAX_DEPTH"]

/-- What is found under a path on disk. -/
def lookUp (path : String) : IO FileState := do
  try
    return .file (← IO.FS.readBinFile path).toList
  catch
    | .noFileOrDirectory .. => return .missing
    | _ => return .directory

/-- The time now. -/
def readClock : IO Clock := do
  let now ← Std.Time.Timestamp.now
  return .ofMicroseconds (now.toNanosecondsSinceUnixEpoch.val.toNat / 1000)

/-- The paths that the words of a command line may name: each word, and what follows its equals sign. -/
def pathsOf (words : List String) : List String := words ++ words.filterMap fun word => (splitValue word).2

/-- What a command line sees of the world. -/
def readSetting (words : List String) : IO Setting := do
  let files ← (pathsOf words).mapM fun path => do return (path, ← lookUp path)
  let env ← settingKeys.filterMapM fun key => do return (← IO.getEnv key).map fun value => (key, value)
  return { env, clock := ← readClock, files := fun path => (files.lookup path).getD .missing }

end GraphQLCache.Command

open GraphQLCache.Command in
/-- Run a command line and give its exit code. -/
def main (words : List String) : IO UInt32 := do
  match runLine (← readSetting words) words with
  | .done exit output =>
    IO.print output
    return exit.toUInt32
  | .failed error =>
    IO.eprintln error.message
    return 1
