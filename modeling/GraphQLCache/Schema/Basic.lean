import GraphQLCache.Keyed
import GraphQLCache.TypeRef

/-!
# `Schema` — the named types of a GraphQL service

A schema holds its types by name, in the order in which they were loaded, and the names of its three root
types. A type is a name, a description and a body that depends on its kind. Look-ups never fail: an unknown
name has no fields and no members.
-/

namespace GraphQLCache

/-- The six kinds of named types. -/
inductive TypeKind where
  | scalar
  | enum
  | object
  | interface
  | union
  | inputObject
deriving DecidableEq, Repr

namespace TypeKind

/-- The kinds in the order in which they are listed. -/
def all : List TypeKind := [.scalar, .enum, .object, .interface, .union, .inputObject]

/-- The word of a kind in introspection results. -/
def word : TypeKind → String
  | .scalar => "SCALAR"
  | .enum => "ENUM"
  | .object => "OBJECT"
  | .interface => "INTERFACE"
  | .union => "UNION"
  | .inputObject => "INPUT_OBJECT"

/-- The kind of a word. -/
def ofWord? (word : String) : Option TypeKind := all.find? (·.word = word)

end TypeKind

/-- A field of an object, an interface or an input object. -/
structure Field where
  name : String
  type : TypeRef
  description : Option String
  deprecated : Bool
deriving DecidableEq, Repr

/-- A value of an enumeration. -/
structure EnumValue where
  name : String
  description : Option String
  deprecated : Bool
deriving DecidableEq, Repr

/-- What a type declares, by its kind. -/
inductive TypeBody where
  | scalar
  | enum (values : List EnumValue)
  | object (fields : List Field) (interfaces : List String)
  | interface (fields : List Field) (members : List String)
  | union (members : List String)
  | inputObject (fields : List Field)
deriving DecidableEq, Repr

/-- A named type. -/
structure NamedType where
  name : String
  description : Option String
  body : TypeBody
deriving DecidableEq, Repr

namespace TypeBody

/-- The kind of a body. -/
def kind : TypeBody → TypeKind
  | .scalar => .scalar
  | .enum _ => .enum
  | .object _ _ => .object
  | .interface _ _ => .interface
  | .union _ => .union
  | .inputObject _ => .inputObject

/-- The declared fields; empty for scalars, enumerations and unions. -/
def fields : TypeBody → List Field
  | .object fields _ => fields
  | .interface fields _ => fields
  | .inputObject fields => fields
  | _ => []

/-- The names of the concrete members of an interface or a union; empty for the others. -/
def members : TypeBody → List String
  | .interface _ members => members
  | .union members => members
  | _ => []

/-- The names of the interfaces that an object implements. -/
def interfaces : TypeBody → List String
  | .object _ interfaces => interfaces
  | _ => []

end TypeBody

namespace NamedType

/-- The kind of a type. -/
def kind (t : NamedType) : TypeKind := t.body.kind

/-- Whether an object declares a field of that name. -/
def declares (t : NamedType) (field : String) : Bool := t.body.fields.any (·.name = field)

/-- An object that pages through edges. -/
def isConnection (t : NamedType) : Bool := t.declares "edges" && t.declares "pageInfo"

/-- An object that holds a node and its place in a connection. -/
def isEdge (t : NamedType) : Bool := t.declares "node" && t.declares "cursor"

/-- An object that can be refetched by its id. -/
def isNode (t : NamedType) : Bool := t.body.interfaces.contains "Node"

end NamedType

/-- The named types of a service and the names of its root types. -/
structure Schema where
  types : Keyed NamedType
  query : Option String
  mutation : Option String
  subscription : Option String

namespace Schema

/-- No types and no roots. -/
def empty : Schema := ⟨.empty, none, none, none⟩

instance : Inhabited Schema := ⟨empty⟩

/-- The type of that name; the empty name has none. -/
def get? (s : Schema) (name : String) : Option NamedType :=
  if name.isEmpty then none else s.types.get? name

/-- The declared fields of a type. -/
def fieldsOf (s : Schema) (name : String) : List Field :=
  match s.get? name with
  | some t => t.body.fields
  | none => []

/-- The concrete members of an interface or a union. -/
def membersOf (s : Schema) (name : String) : List String :=
  match s.get? name with
  | some t => t.body.members
  | none => []

/-- The names of the root types that are given and not empty, some perhaps more than once. -/
def rootNames (s : Schema) : List String :=
  [s.query, s.mutation, s.subscription].filterMap TypeRef.properName?

end Schema

end GraphQLCache
