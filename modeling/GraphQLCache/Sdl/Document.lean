/-!
# Documents — definitions of types, directives and operations as they are written

The abstract form of a text in the schema definition language. A definition of a type and an extension of
one share their shape, `Declaration`. Operations and fragments are kept too, because the rules on types and
directives hold for them as well.
-/

namespace GraphQLCache.Sdl

/-! ## Values, directives and type expressions -/

/-- A literal. Strings, numbers and enumeration values keep their text. -/
inductive Literal where
  | parameter (name : String)
  | int (digits : String)
  | float (digits : String)
  | text (value : String)
  | blockText (value : String)
  | bool (value : Bool)
  | null
  | enum (name : String)
  | list (items : List Literal)
  | object (fields : List (String × Literal))
deriving Inhabited, Repr

/-- An argument, with the number of characters left where its value begins. -/
structure Argument where
  name : String
  value : Literal
  left : Nat
deriving Repr

/-- An applied directive, with the number of characters left where it begins. -/
structure Directive where
  name : String
  arguments : List Argument
  left : Nat
deriving Repr

/-- A type as a field declares it. -/
inductive TypeExpr where
  | named (name : String)
  | listOf (inner : TypeExpr)
  | nonNull (inner : TypeExpr)
deriving DecidableEq, Inhabited, Repr

namespace TypeExpr

/-- The name inside all wrappers. -/
def baseName : TypeExpr → String
  | .named name => name
  | .listOf inner => inner.baseName
  | .nonNull inner => inner.baseName

/-- The spelling of a type. -/
def spelling : TypeExpr → String
  | .named name => name
  | .listOf inner => "[" ++ inner.spelling ++ "]"
  | .nonNull inner => inner.spelling ++ "!"

/-- Whether the type is never null. -/
def isNonNull : TypeExpr → Bool
  | .nonNull _ => true
  | _ => false

end TypeExpr

/-! ## Types -/

/-- An argument of a field or a directive, or a field of an input object. -/
structure InputDefinition where
  description : Option String
  name : String
  type : TypeExpr
  default : Option Literal
  directives : List Directive
deriving Repr

/-- A field of an object or an interface. -/
structure FieldDefinition where
  description : Option String
  name : String
  arguments : List InputDefinition
  type : TypeExpr
  directives : List Directive
deriving Repr

/-- A value of an enumeration. -/
structure EnumValueDefinition where
  description : Option String
  name : String
  directives : List Directive
deriving Repr

/-- What a type declares, by its kind. -/
inductive Content where
  | scalar
  | object (interfaces : List String) (fields : List FieldDefinition)
  | interface (interfaces : List String) (fields : List FieldDefinition)
  | union (members : List String)
  | enum (values : List EnumValueDefinition)
  | input (fields : List InputDefinition)
deriving Inhabited, Repr

/-- A named type: its definition, or an extension of it. -/
structure Declaration where
  description : Option String
  name : String
  directives : List Directive
  content : Content
deriving Inhabited, Repr

/-! ## Schemas, directives and operations -/

/-- The three kinds of operations. -/
inductive Operation where
  | query
  | mutation
  | subscription
deriving DecidableEq, Repr

namespace Operation

/-- The operations in order. -/
def all : List Operation := [.query, .mutation, .subscription]

/-- The keyword of an operation. -/
def word : Operation → String
  | .query => "query"
  | .mutation => "mutation"
  | .subscription => "subscription"

/-- The operation of a keyword. -/
def ofWord? (word : String) : Option Operation := all.find? (·.word = word)

end Operation

/-- The definition of a directive. -/
structure DirectiveDefinition where
  description : Option String
  name : String
  arguments : List InputDefinition
  directives : List Directive
  repeatable : Bool
  locations : List String
deriving Repr

/-- A selection of an operation or a fragment. -/
inductive OperationSelection where
  | field (shown : Option String) (name : String) (arguments : List Argument)
      (directives : List Directive) (selections : List OperationSelection)
  | spread (name : String) (directives : List Directive)
  | inlineOn (type : Option String) (directives : List Directive) (selections : List OperationSelection)
deriving Inhabited, Repr

/-- A variable of an operation. -/
structure ParameterDefinition where
  name : String
  type : TypeExpr
  default : Option Literal
  directives : List Directive
deriving Repr

/-- The name of a root type for an operation. -/
abbrev RootDeclaration := Operation × String

/-- A definition. -/
inductive Definition where
  | schema (directives : List Directive) (roots : List RootDeclaration)
  | extendSchema (directives : List Directive) (roots : List RootDeclaration)
  | type (declaration : Declaration)
  | extendType (declaration : Declaration)
  | directive (definition : DirectiveDefinition)
  | extendDirective (name : String) (directives : List Directive)
  | operation (operation : Operation) (parameters : List ParameterDefinition) (directives : List Directive)
      (selections : List OperationSelection)
  | fragment (name type : String) (directives : List Directive) (selections : List OperationSelection)
deriving Inhabited, Repr

/-- The definitions of a text, in order. -/
abbrev Document := List Definition

end GraphQLCache.Sdl
