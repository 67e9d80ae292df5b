import GraphQLCache.Sdl.TypeSystem

/-!
# Default values — which literals fit the types of a type system

A literal that is no list stands for a list of itself. An input object needs its required fields, has no
others than its own, and takes exactly one if it is a choice. `TypeSystem.misfits` lists what does not fit,
with the way there: the fields of an input object in their order, then unknown fields, then the choice.
-/

namespace GraphQLCache.Sdl

/-! ## Ways -/

/-- A step from a literal to a part of it. -/
inductive Step where
  | item (index : Nat)
  | field (name : String)
deriving DecidableEq, Repr

/-- A step as messages show it. -/
def Step.text : Step → String
  | .item index => "[" ++ toString index ++ "]"
  | .field name => "." ++ name

/-- A misfit, and the way to the part of a literal that does not fit. -/
structure PlacedMisfit where
  path : List Step
  why : Misfit
deriving DecidableEq, Repr

namespace PlacedMisfit

/-- A misfit of the whole literal. -/
def here (why : Misfit) : PlacedMisfit := ⟨[], why⟩

/-- A misfit of a part as one of the whole. -/
def below (step : Step) (m : PlacedMisfit) : PlacedMisfit := { m with path := step :: m.path }

/-- The way as messages show it. -/
def place (m : PlacedMisfit) : String :=
  if m.path.isEmpty then "" else " at " ++ String.join (m.path.map Step.text)

end PlacedMisfit

/-! ## Types of literals -/

/-- A type without its outer non-null. -/
def TypeExpr.nullable : TypeExpr → TypeExpr
  | .nonNull inner => inner
  | type => type

/-- Whether an input object is a choice, which takes exactly one field. -/
def Declaration.isChoice (d : Declaration) : Bool := (applied? d.directives "oneOf").isSome

namespace TypeSystem

/-- The fields of an input object. -/
def inputFields? (s : TypeSystem) (name : String) : Option (List InputDefinition) :=
  match s.contentOf? name with
  | some (.input fields) => some fields
  | _ => none

/-- Whether a named type is a choice. -/
def isChoice (s : TypeSystem) (name : String) : Bool := (s.find? name).any (·.isChoice)

/-- Why a literal does not fit a named type, but for a null and the object of an input object. -/
def flatMisfit? (s : TypeSystem) (name : String) (literal : Literal) : Option Misfit :=
  match s.contentOf? name with
  | some .scalar => scalarMisfit? name literal
  | some (.enum values) => enumMisfit? name (values.map (·.name)) literal
  | some (.input _) => some (.notObject name literal.spelling)
  | _ => some (.notLeaf name)

/-- The misfits of a literal as a whole. -/
def flatMisfits (s : TypeSystem) (name : String) (literal : Literal) : List PlacedMisfit :=
  (s.flatMisfit? name literal).toList.map .here

/-- The misfit of the number of fields given to a choice. -/
def choiceMisfits (name : String) : List (String × Literal) → List PlacedMisfit
  | [(key, .null)] => [⟨[.field key], .notOneField name⟩]
  | [_] => []
  | _ => [.here (.notOneField name)]

/-- The misfits of an object, where `inside` holds those of the fields that are given and known. -/
def objectMisfits (s : TypeSystem) (name : String) (known : List InputDefinition)
    (given : List (String × Literal)) (inside : List (String × List PlacedMisfit)) : List PlacedMisfit :=
  let found := (Literal.object given).spelling
  let names := known.map (·.name)
  (known.flatMap fun i =>
      match inside.lookup i.name with
      | some misfits => misfits.map (.below (.field i.name))
      | none => if i.isRequired then [.here (.missingField name i.name found)] else [])
    ++ ((given.filter fun g => !names.contains g.1).map fun g =>
      .here (.unknownField name g.1 (suggestions g.1 names) found))
    ++ if s.isChoice name then choiceMisfits name given else []

mutual

/-- What does not fit when a literal is given for a type. -/
def misfits (s : TypeSystem) (type : TypeExpr) : Literal → List PlacedMisfit
  | .null => if type.isNonNull then [.here (.null type)] else []
  | .list items =>
    match type.nullable with
    | .listOf inner => s.itemMisfits inner 0 items
    | _ => s.flatMisfits type.baseName (.list items)
  | .object given =>
    match s.inputFields? type.baseName with
    | some known => s.objectMisfits type.baseName known given (s.givenMisfits known given)
    | none => s.flatMisfits type.baseName (.object given)
  | literal => s.flatMisfits type.baseName literal

/-- What does not fit in the items of a list from an index on. -/
def itemMisfits (s : TypeSystem) (type : TypeExpr) (index : Nat) : List Literal → List PlacedMisfit
  | [] => []
  | item :: rest =>
    (s.misfits type item).map (.below (.item index)) ++ s.itemMisfits type (index + 1) rest

/-- What does not fit in each of the given fields that are known. -/
def givenMisfits (s : TypeSystem) (known : List InputDefinition) :
    List (String × Literal) → List (String × List PlacedMisfit)
  | [] => []
  | (key, literal) :: rest =>
    match known.find? (·.name = key) with
    | some i => (key, s.misfits i.type literal) :: s.givenMisfits known rest
    | none => s.givenMisfits known rest

end

/-- What does not fit in the default value of an argument or an input field. -/
def defaultMisfits (s : TypeSystem) (i : InputDefinition) : List PlacedMisfit :=
  match i.default with
  | some literal => s.misfits i.type literal
  | none => []

end TypeSystem

end GraphQLCache.Sdl
