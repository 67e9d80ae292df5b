import GraphQLCache.Name
import GraphQLCache.Schema.Basic
import GraphQLCache.Selection.Basic

/-!
# Selections of a value tree — guided by a schema or by shape alone

The selected fields are the keys of the tree, in its order, not the fields that the schema declares. With a
schema a field is nested when its declared type is an object, an interface or a union and its value shows an
inline object of it; depth and the types above on the branch cut the nesting. Without a schema every inline
object is nested, down to the depth.
-/

namespace GraphQLCache

/-- The inline object that shows the shape of a field: the value itself, or the first item of a list. -/
def sampleOf? (type : TypeRef) (value : Json) : Option Entries :=
  if type.isList then
    match value with
    | .arr (first :: _) => inlineObject? first
    | _ => none
  else inlineObject? value

/-- Whether a key of a value tree is selected. -/
def isSelectedKey (key : String) : Bool := key ≠ "__typename" && isAcceptedName key

namespace Schema

/-- The field of that name; of several the last. -/
def fieldNamed? (fields : List Field) (name : String) : Option Field :=
  fields.reverse.find? (·.name = name)

/-- How a field is nested: into which type, with which fields, and whether through an inline fragment. -/
structure Nesting where
  base : String
  concrete : Option String
  fields : List Field
  sample : Entries

/-- The nesting that the declared type and the value of a field allow, before depth and branch are looked
    at. -/
def nesting? (s : Schema) (type : TypeRef) (value : Json) : Option Nesting := do
  let t ← s.get? type.baseName
  let sample ← sampleOf? type value
  match t.body with
  | .object fields _ | .inputObject fields => some ⟨type.baseName, none, fields, sample⟩
  | .interface _ _ | .union _ =>
    let concrete ← (Entries.get? sample "__typename").bind Json.str?
    let fields := s.fieldsOf concrete
    if fields.isEmpty then none else some ⟨type.baseName, some concrete, fields, sample⟩
  | .scalar | .enum _ => none

/-- The type names that a nesting puts on the branch. -/
def Nesting.names (n : Nesting) : List String := n.base :: n.concrete.toList

/-- The field with the selections that its nesting has below. -/
def Nesting.selection (n : Nesting) (key : String) (below : List Selection) : Selection :=
  match n.concrete with
  | none => .field key (Selection.orTypename below)
  | some concrete => .field key [.inlineOn concrete (Selection.orTypename below)]

/-- The selections of one level of a value tree with `room` levels left, below the types in `visited`. -/
def selectionsOf (s : Schema) : (room : Nat) → (visited : List String) → List Field → Entries →
    List Selection
  | room, visited, fields, entries =>
    (entries.filter fun e => isSelectedKey e.1).map fun e =>
      match (fieldNamed? fields e.1).bind fun f => s.nesting? f.type e.2 with
      | none => .bare e.1
      | some n =>
        match room with
        | 0 => .bare e.1
        | room + 1 =>
          if visited.contains n.base then .bare e.1
          else n.selection e.1 (s.selectionsOf room (n.names ++ visited) n.fields n.sample)

/-- The fragment that selects the keys of a value of the type `type`. An empty fragment name stands for the
    default; a type without fields selects only `__typename`. -/
def selectionDocument (s : Schema) (type : String) (value : Entries) (fragment : String)
    (maxDepth : Int) : Fragment :=
  let fields := s.fieldsOf type
  let selections := if fields.isEmpty then [] else s.selectionsOf maxDepth.toNat [] fields value
  { name := if fragment.isEmpty then mockFragmentName type else fragment
    type
    selections := Selection.orTypename selections }

end Schema

/-- The inline object that a value shows without a schema: itself, or the first item of a list. -/
def shapeOf? : Json → Option Entries
  | .arr (first :: _) => inlineObject? first
  | value => inlineObject? value

/-- The selections of one level of a value tree by its shape alone, with `room` levels left. -/
def shapeSelections : (room : Nat) → Entries → List Selection
  | room, entries =>
    (entries.filter fun e => isSelectedKey e.1).map fun e =>
      match shapeOf? e.2 with
      | none => .bare e.1
      | some sample =>
        match room with
        | 0 => .bare e.1
        | room + 1 => .field e.1 (shapeSelections room sample)

/-- The fragment that selects a raw record by its shape; none if no key is selected. -/
def shapeDocument? (type : String) (record : Entries) (maxDepth : Int) : Option Fragment :=
  let selections := shapeSelections maxDepth.toNat record
  if selections.isEmpty then none else some ⟨"CacheEdit", type, selections⟩

/-- The data to write through a fragment: the form, tagged with its type. -/
def fragmentData (type : String) (form : Entries) : Entries :=
  Entries.ofPairs (("__typename", .str type) :: form)

end GraphQLCache
