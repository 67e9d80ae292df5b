import GraphQLCache.Sdl.Cycles
import GraphQLCache.Sdl.DefaultValue

/-!
# Input cycles — default values and input objects that never end

A default value that leaves out a field takes the default value of that field, and so on; a required field
of an input object needs a value of another one, and so on. Both must come to an end. They are graphs: of
input fields, where an edge leads to a field whose default value is taken, and of input objects, where an
edge is a field that no finite value can do without.
-/

namespace GraphQLCache.Sdl

namespace TypeSystem

/-- The number of the input fields of a type system. -/
def inputFieldCount (s : TypeSystem) : Nat :=
  (s.types.map fun d => ((s.inputFields? d.name).getD []).length).foldr (· + ·) 0

/-! ## Default values -/

/-- An input field, by its type and its name. -/
abbrev FieldKey := String × String

/-- The fields of an input object whose types are input objects. -/
def nestedInputs (s : TypeSystem) (type : String) : List InputDefinition :=
  ((s.inputFields? type).getD []).filter fun i => (s.inputFields? i.type.baseName).isSome

/-- The fields whose default values are taken, where `inside` holds those for the fields that are given. -/
def takenAtObject (s : TypeSystem) (type : String) (inside : List (String × List FieldKey)) :
    List FieldKey :=
  (s.nestedInputs type).flatMap fun i =>
    match inside.lookup i.name with
    | some taken => taken
    | none => [(type, i.name)]

mutual

/-- The fields whose default values are taken when a literal is given for a type, in order. -/
def takenDefaults (s : TypeSystem) (type : String) : Literal → List FieldKey
  | .list items => s.takenByItems type items
  | .object given => s.takenAtObject type (s.takenByFields type given)
  | _ => []

/-- The fields whose default values the items of a list take. -/
def takenByItems (s : TypeSystem) (type : String) : List Literal → List FieldKey
  | [] => []
  | item :: rest => s.takenDefaults type item ++ s.takenByItems type rest

/-- The fields whose default values each of the given fields takes. -/
def takenByFields (s : TypeSystem) (type : String) :
    List (String × Literal) → List (String × List FieldKey)
  | [] => []
  | (key, literal) :: rest =>
    match ((s.inputFields? type).getD []).find? (·.name = key) with
    | some i => (key, s.takenDefaults i.type.baseName literal) :: s.takenByFields type rest
    | none => s.takenByFields type rest

end

/-- The edges from an input field: to the fields whose default values its own default value takes. -/
def defaultEdges (s : TypeSystem) (key : FieldKey) : List (Edge FieldKey) :=
  match ((s.inputFields? key.1).getD []).find? (·.name = key.2) with
  | some i =>
    match i.default with
    | some literal =>
      (s.takenDefaults i.type.baseName literal).map fun taken => ⟨fieldPlace taken.1 taken.2, taken⟩
    | none => []
  | none => []

/-- The search for default values that take themselves, from an input object without any field given. -/
def searchDefaults (s : TypeSystem) (type : String) (search : CycleSearch FieldKey) : CycleSearch FieldKey :=
  (s.takenDefaults type (.object [])).foldl
    (fun search key => search.visit s.defaultEdges (s.inputFieldCount + 1) [] key) search

/-! ## Finite values -/

/-- The input object that a value of a type holds itself, in no list. -/
def heldInput? (s : TypeSystem) (type : TypeExpr) : Option String :=
  match type.nullable with
  | .named name => if (s.inputFields? name).isSome then some name else none
  | _ => none

/-- Whether a value of a type can be finite if those of the types in `finite` can. -/
def canEnd (s : TypeSystem) (finite : List String) (type : TypeExpr) : Bool :=
  match s.heldInput? type with
  | some name => finite.contains name
  | none => true

/-- Whether a value of an input object can be finite if those in `finite` can: every required field of it, or
    of a choice any field, can be finite. -/
def canEndWith (s : TypeSystem) (finite : List String) (type : String) : Bool :=
  match s.inputFields? type with
  | some fields =>
    if s.isChoice type then fields.any fun i => s.canEnd finite i.type
    else fields.all fun i => !i.type.isNonNull || s.canEnd finite i.type
  | none => false

/-- The input objects with finite values, found in so many rounds. -/
def finiteAfter (s : TypeSystem) : (rounds : Nat) → List String
  | 0 => []
  | rounds + 1 => (s.types.map (·.name)).filter (s.canEndWith (s.finiteAfter rounds))

/-- The input objects with finite values. Every round but the last finds one more. -/
def finiteInputs (s : TypeSystem) : List String := s.finiteAfter s.types.length

/-- The fields of an input object that no finite value can do without: the required ones, or all fields of a
    choice that has no finite value. -/
def bindingFields (s : TypeSystem) (type : String) : List InputDefinition :=
  let fields := (s.inputFields? type).getD []
  if s.isChoice type then (if s.finiteInputs.contains type then [] else fields)
  else fields.filter (·.type.isNonNull)

/-- The edges from an input object: to the input objects that it holds in those fields. -/
def bindingEdges (s : TypeSystem) (type : String) : List (Edge String) :=
  (s.bindingFields type).filterMap fun i =>
    (s.heldInput? i.type).map fun held => ⟨fieldPlace type i.name, held⟩

/-- The search for input objects that hold themselves, from a type on. -/
def searchBinding (s : TypeSystem) (type : String) (search : CycleSearch String) : CycleSearch String :=
  search.visit s.bindingEdges (s.types.length + 1) [] type

end TypeSystem

end GraphQLCache.Sdl
