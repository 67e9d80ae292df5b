/-!
# `Json` — values with ordered keys, integers and doubles apart

The values that caches, introspection results and mock data are made of. An object is the list of its
entries in order; `Json.insert` keeps the place of a key that is already there, so an object built by it has
each key once. Integers have any size, and a number written with a point or an exponent is a double.
-/

namespace GraphQLCache

/-- A JSON value. -/
inductive Json where
  | null
  | bool (value : Bool)
  | int (value : Int)
  | float (value : Float)
  | str (value : String)
  | arr (items : List Json)
  | obj (entries : List (String × Json))
deriving Inhabited

/-- The entries of an object, in order. -/
abbrev Entries := List (String × Json)

namespace Entries

/-- The value under `key`, the first if there were several. -/
def get? (entries : Entries) (key : String) : Option Json := entries.lookup key

/-- Whether `key` is present. -/
def has (entries : Entries) (key : String) : Bool := entries.any (·.1 == key)

/-- `value` under `key`: in the place of the key if it is present, else at the end. -/
def insert (entries : Entries) (key : String) (value : Json) : Entries :=
  match entries with
  | [] => [(key, value)]
  | e :: rest => if e.1 = key then (key, value) :: rest else e :: insert rest key value

/-- The object that inserting `pairs` one after the other builds: the first place and the last value of
    each key. -/
def ofPairs (pairs : List (String × Json)) : Entries := pairs.foldl (fun es p => insert es p.1 p.2) []

/-- The keys in order. -/
def keys (entries : Entries) : List String := entries.map (·.1)

end Entries

namespace Json

/-- The value under `key`, if `j` is an object that has it. -/
def get? (j : Json) (key : String) : Option Json :=
  match j with
  | .obj entries => Entries.get? entries key
  | _ => none

/-- The text of a string. -/
def str? : Json → Option String
  | .str s => some s
  | _ => none

/-- The entries of an object. -/
def obj? : Json → Option Entries
  | .obj entries => some entries
  | _ => none

/-- The items of an array. -/
def arr? : Json → Option (List Json)
  | .arr items => some items
  | _ => none

/-- The text, or null for none. -/
def ofText? : Option String → Json
  | none => .null
  | some s => .str s

end Json

end GraphQLCache
