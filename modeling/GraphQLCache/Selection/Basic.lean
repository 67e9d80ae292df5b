import GraphQLCache.Json.Basic

/-!
# `Selection` — what a document selects

A selection is a field, with the selections below it, or an inline fragment, whose selections hold for one
type. A field without selections below is bare. A selection set that is printed is never empty:
`orTypename` puts the field `__typename` where nothing else is selected.
-/

namespace GraphQLCache

/-- A field, bare if it has no selections below, or an inline fragment on a type. -/
inductive Selection where
  | field (name : String) (selections : List Selection)
  | inlineOn (type : String) (selections : List Selection)
deriving Inhabited, Repr

/-- A named fragment on a type: a whole document. -/
structure Fragment where
  name : String
  type : String
  selections : List Selection

namespace Selection

/-- A field with nothing selected below it. -/
def bare (name : String) : Selection := .field name []

/-- A selection set; in the place of an empty one stands the field `__typename`. -/
def orTypename (selections : List Selection) : List Selection :=
  if selections.isEmpty then [bare "__typename"] else selections

end Selection

/-- The key that makes an object a reference to a cache entry. -/
def refKey : String := "__ref"

/-- The entries of an object that is written inline, which an object with a reference key is not. -/
def inlineObject? : Json → Option Entries
  | .obj entries => if Entries.has entries refKey then none else some entries
  | _ => none

end GraphQLCache
