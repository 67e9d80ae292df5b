import GraphQLCache.Mock.Scalar
import GraphQLCache.Schema.Basic

/-!
# Synthesis — a default value for every type

Objects carry their type under `__typename` and a default for each declared field; lists start empty; an
interface or a union stands for its first member. Two bounds cut cyclic schemas: an object whose type is
already on the path, or that lies deeper than the room left, becomes null.

Following first members uses up neither bound, so a schema whose first members form a cycle has no default
for them: `Schema.landing` follows such a chain for as many steps as the schema has types, which is enough
for every chain that ends, and the result is `none` for one that does not.
-/

namespace GraphQLCache

/-- The key under which an object carries the name of its type. -/
def typenameKey : String := "__typename"

/-- Where the chain of first members from a type ends. -/
inductive Landing where
  | concrete (type : NamedType)
  | nowhere
  | endless
deriving DecidableEq, Repr

namespace Schema

/-- The chain of first members from `t`, followed for `steps` steps at most. -/
def landingWithin (s : Schema) : (steps : Nat) → NamedType → Landing
  | steps, t =>
    match t.body with
    | .interface _ members | .union members =>
      match members with
      | [] => .nowhere
      | first :: _ =>
        match s.get? first with
        | none => .nowhere
        | some next =>
          match steps with
          | 0 => .endless
          | steps + 1 => s.landingWithin steps next
    | _ => .concrete t

/-- Where the chain of first members from `t` ends. -/
def landing (s : Schema) (t : NamedType) : Landing := s.landingWithin s.types.entries.length t

end Schema

/-- What all defaults of one run share: the schema and the clock. -/
structure MockContext where
  schema : Schema
  clock : Clock

namespace MockContext

/-- The default of a reference when types have the defaults `ofType`: non-null wrappers are transparent,
    lists are empty, and a type that the schema does not hold is a scalar of that name. -/
def refBy (c : MockContext) (ofType : NamedType → Option Json) (ref : TypeRef) : Option Json :=
  let ref := ref.nullable
  if ref.isList then some (.arr [])
  else
    match c.schema.get? ref.baseName with
    | none => some (scalarDefault c.clock ref.baseName)
    | some t => ofType t

/-- The defaults of the fields other than `__typename`, in order, repeated names included. -/
def fieldsBy (ofRef : TypeRef → Option Json) : List Field → Option (List (String × Json))
  | [] => some []
  | f :: rest =>
    if f.name = typenameKey then fieldsBy ofRef rest
    else do
      let value ← ofRef f.type
      let pairs ← fieldsBy ofRef rest
      some ((f.name, value) :: pairs)

/-- An object of the type `name` with the given members. -/
def tagged (name : String) (members : List (String × Json)) : Json :=
  .obj (Entries.ofPairs ((typenameKey, .str name) :: members))

/-- The default of a type with `room` levels of objects left below the types in `visited`. -/
def ofType (c : MockContext) : (room : Nat) → (visited : List String) → NamedType → Option Json
  | room, visited, t =>
    match c.schema.landing t with
    | .endless => none
    | .nowhere => some .null
    | .concrete t =>
      match t.body with
      | .enum values => some (.str ((values.head?.map (·.name)).getD ""))
      | .object fields _ | .inputObject fields =>
        if visited.contains t.name then some .null
        else
          match room with
          | 0 => some .null
          | room + 1 => (fieldsBy (c.refBy (c.ofType room (t.name :: visited))) fields).map (tagged t.name)
      | _ => some (scalarDefault c.clock t.name)

/-- The default of a reference with `room` levels of objects left below the types in `visited`. -/
def ofRef (c : MockContext) (room : Nat) (visited : List String) (ref : TypeRef) : Option Json :=
  c.refBy (c.ofType room visited) ref

end MockContext

/-- The levels of objects that a depth bound leaves at a depth: a negative bound counts as zero. -/
def roomAt (depth maxDepth : Int) : Nat := (max maxDepth 0 - depth).toNat

end GraphQLCache
