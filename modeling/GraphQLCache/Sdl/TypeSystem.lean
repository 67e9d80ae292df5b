import GraphQLCache.Sdl.Deprecation
import GraphQLCache.Sdl.Rules
import GraphQLCache.Schema.Basic

/-!
# Type systems — the types that a document defines, put together

Extensions are put to the definitions that they extend, standard types join where they are first mentioned,
and the roots are found. `TypeSystem.schema` is what a service with these types reports of itself.
-/

namespace GraphQLCache.Sdl

/-- The types in the order in which a service lists them, the directives, and the root types. -/
structure TypeSystem where
  types : List Declaration
  directives : List DirectiveDefinition
  query : Option String
  mutation : Option String
  subscription : Option String

/-! ## Extensions -/

/-- What a type declares after an extension of the same kind. -/
def Content.extend (first : Content) (added : Content) : Content :=
  match first, added with
  | .object interfaces fields, .object interfaces' fields' => .object (interfaces ++ interfaces') (fields ++ fields')
  | .interface interfaces fields, .interface interfaces' fields' =>
    .interface (interfaces ++ interfaces') (fields ++ fields')
  | .union members, .union members' => .union (members ++ members')
  | .enum values, .enum values' => .enum (values ++ values')
  | .input fields, .input fields' => .input (fields ++ fields')
  | _, _ => first

/-- A type after an extension. The directives that count are those of the definition. -/
def Declaration.extend (first added : Declaration) : Declaration :=
  { first with content := first.content.extend added.content }

/-- The extensions that a document makes. -/
def extensions (document : Document) : List Declaration :=
  document.filterMap fun
    | .extendType d => some d
    | _ => none

/-- The types that a document defines, extended. -/
def extendedTypes (document : Document) : List Declaration :=
  (declarations document).map fun d =>
    ((extensions document).filter (·.name = d.name)).foldl Declaration.extend d

/-! ## Places -/

/-- The place of a field. -/
def fieldPlace (type field : String) : String := type ++ "." ++ field

/-- The place of an argument. -/
def argumentPlace (owner argument : String) : String := owner ++ "(" ++ argument ++ ":)"

/-! ## The order of the types -/

/-- The standard types that come with a name: itself if it is standard, and for the objects of the
    introspection system the scalars of their fields. -/
def standardCompany (name : String) : List String :=
  if introspectionObjects.contains name then [name, "String", "Boolean"]
  else if standardNames.contains name then [name]
  else []

/-- The names that a type mentions, in order. -/
def Content.mentions : Content → List String
  | .scalar => []
  | .object interfaces fields =>
    interfaces ++ fields.flatMap fun f => f.type.baseName :: f.arguments.map (·.type.baseName)
  | .interface interfaces fields =>
    interfaces ++ fields.flatMap fun f => f.type.baseName :: f.arguments.map (·.type.baseName)
  | .union members => members
  | .enum _ => []
  | .input fields => fields.map (·.type.baseName)

/-- The names in which a type is listed: its own, and the standard types that it mentions. -/
def listedNames (d : Declaration) : List String :=
  d.name :: (standardCompany d.name
    ++ if standardNames.contains d.name then [] else d.content.mentions.flatMap standardCompany)

/-- Names in order of first occurrence, where a name of `own` occurs only as the head of its list. -/
def arrange (own : List String) (lists : List (List String)) : List String :=
  (lists.flatMap fun
    | [] => []
    | head :: rest => head :: rest.filter fun name => !own.contains name).eraseDups

/-- The directives of a document, with the standard ones that it does not define. -/
def allDirectives (document : Document) : List DirectiveDefinition :=
  let own := directiveDefinitions document
  own ++ standardDirectives.filter fun d => !(own.map (·.name)).contains d.name

/-- The names of all types in order: those that the document defines, each with the standard types that it
    is first to mention, then those that roots, directives and the introspection system mention. -/
def typeOrder (document : Document) (roots : List String) : List String :=
  let own := (extendedTypes document).map (·.name)
  let others :=
    roots.flatMap standardCompany
      ++ (allDirectives document).flatMap (fun d => d.arguments.flatMap fun i => standardCompany i.type.baseName)
      ++ ["String", "Boolean"]
  arrange own ((extendedTypes document).map listedNames ++ [others.filter fun name => !own.contains name])

/-! ## Roots -/

/-- Whether a document has a schema definition. -/
def hasSchemaDefinition (document : Document) : Bool :=
  document.any fun
    | .schema _ _ => true
    | _ => false

/-- The roots that schema definitions and extensions declare. -/
def declaredRoots (document : Document) : List RootDeclaration :=
  document.flatMap fun
    | .schema _ roots => roots
    | .extendSchema _ roots => roots
    | _ => []

/-- The name by which a type is a root without being declared one. -/
def customaryRoot : Operation → String
  | .query => "Query"
  | .mutation => "Mutation"
  | .subscription => "Subscription"

/-- The root of an operation. Without a schema definition a type of the customary name comes first. -/
def rootOf (document : Document) (operation : Operation) : Option String :=
  let declared := (declaredRoots document).lookup operation
  if hasSchemaDefinition document then declared
  else if (declarations document).any (·.name = customaryRoot operation) then some (customaryRoot operation)
  else declared

/-! ## The type system of a document -/

/-- The type system that a document defines. A standard type stands for a definition of its name, and the
    types of the introspection system are not listed. -/
def TypeSystem.ofDocument (document : Document) : TypeSystem :=
  let roots := Operation.all.filterMap (rootOf document)
  let types := (typeOrder document roots).filterMap fun name =>
    match standardType? name with
    | some standard => if (standardScalars.lookup name).isSome then some standard else none
    | none => (extendedTypes document).find? (·.name = name)
  { types
    directives := allDirectives document
    query := rootOf document .query
    mutation := rootOf document .mutation
    subscription := rootOf document .subscription }

/-! ## What a service reports -/

/-- How many wrappers behind the first a service is asked to open. -/
def openedWrappers : Nat := 9

/-- The kind of what a type declares. -/
def Content.kind : Content → TypeKind
  | .scalar => .scalar
  | .object _ _ => .object
  | .interface _ _ => .interface
  | .union _ => .union
  | .enum _ => .enum
  | .input _ => .inputObject

namespace TypeSystem

/-- The declaration of a name: the standard one, else that of the document. -/
def find? (s : TypeSystem) (name : String) : Option Declaration :=
  match standardType? name with
  | some d => some d
  | none => s.types.find? (·.name = name)

/-- What a named type declares. -/
def contentOf? (s : TypeSystem) (name : String) : Option Content := (s.find? name).map (·.content)

/-- The word for the kind of a named type. -/
def kindOf (s : TypeSystem) (name : String) : RefKind :=
  .ofWord (((s.contentOf? name).map (·.kind.word)).getD TypeKind.scalar.word)

/-- The reference that a type expression stands for. -/
def refOf (s : TypeSystem) : TypeExpr → TypeRef
  | .named name => .named (s.kindOf name) name
  | .listOf inner => .listOf (s.refOf inner)
  | .nonNull inner => .nonNull (s.refOf inner)

/-- A reference of which only so many wrappers are opened; the next one hides what it wraps. -/
def opened : (wrappers : Nat) → TypeRef → TypeRef
  | _, .leaf kind name => .leaf kind name
  | 0, .wrap kind name _ => .leaf kind name
  | n + 1, .wrap kind name inner => .wrap kind name (opened n inner)

/-- The reference that a service reports. -/
def reportedRef (s : TypeSystem) (type : TypeExpr) : TypeRef := opened openedWrappers (s.refOf type)

/-- A field as it is reported. -/
def reportedField (s : TypeSystem) (f : FieldDefinition) : Field :=
  ⟨f.name, s.reportedRef f.type, f.description, isDeprecated f.directives⟩

/-- An input field as it is reported. -/
def reportedInput (s : TypeSystem) (i : InputDefinition) : Field :=
  ⟨i.name, s.reportedRef i.type, i.description, isDeprecated i.directives⟩

/-- A value of an enumeration as it is reported. -/
def reportedValue (v : EnumValueDefinition) : EnumValue := ⟨v.name, v.description, isDeprecated v.directives⟩

/-- The interfaces that a type implements. -/
def interfacesOf : Content → List String
  | .object interfaces _ => interfaces
  | .interface interfaces _ => interfaces
  | _ => []

/-- The objects that implement an interface, in order. -/
def implementations (s : TypeSystem) (interface : String) : List String :=
  (s.types.filter fun d =>
    match d.content with
    | .object interfaces _ => interfaces.contains interface
    | _ => false).map (·.name)

/-- What a type declares as it is reported. -/
def reportedBody (s : TypeSystem) (d : Declaration) : TypeBody :=
  match d.content with
  | .scalar => .scalar
  | .object interfaces fields => .object (fields.map s.reportedField) interfaces
  | .interface _ fields => .interface (fields.map s.reportedField) (s.implementations d.name)
  | .union members => .union members
  | .enum values => .enum (values.map reportedValue)
  | .input fields => .inputObject (fields.map s.reportedInput)

/-- A type as it is reported. -/
def reportedType (s : TypeSystem) (d : Declaration) : NamedType := ⟨d.name, d.description, s.reportedBody d⟩

/-- The schema that a service with these types reports. -/
def schema (s : TypeSystem) : Schema :=
  { types := .ofPairs (s.types.map fun d => (d.name, s.reportedType d))
    query := s.query
    mutation := s.mutation
    subscription := s.subscription }

end TypeSystem

end GraphQLCache.Sdl
