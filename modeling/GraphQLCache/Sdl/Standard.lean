import GraphQLCache.Sdl.Document

/-!
# Standard definitions — what every schema has without defining it

Five scalars, the types of the introspection system and five directives. A document that defines a standard
type again does not change it; one that defines a standard directive again replaces it.
-/

namespace GraphQLCache.Sdl

/-! ## Types -/

/-- A link in a description: a label in brackets and a web address in parentheses. -/
def webLink (label address : String) : String := "[" ++ label ++ "](" ++ "https:" ++ "//" ++ address ++ ")"

/-- The standard scalars with their descriptions. -/
def standardScalars : List (String × String) :=
  [("String",
    "The `String` scalar type represents textual data, represented as UTF-8 character sequences. The String type is most often used by GraphQL to represent free-form human-readable text."),
   ("Int",
    "The `Int` scalar type represents non-fractional signed whole numeric values. Int can represent values between -(2^31) and 2^31 - 1."),
   ("Float",
    "The `Float` scalar type represents signed double-precision fractional values as specified by "
      ++ webLink "IEEE 754" "en.wikipedia.org/wiki/IEEE_floating_point" ++ "."),
   ("Boolean", "The `Boolean` scalar type represents `true` or `false`."),
   ("ID",
    "The `ID` scalar type represents a unique identifier, often used to refetch an object or as key for a cache. The ID type appears in a JSON response as a String; however, it is not intended to be human-readable. When expected as an input type, any string (such as `\"4\"`) or integer (such as `4`) input value will be accepted as an ID.")]

/-- The objects of the introspection system. -/
def introspectionObjects : List String :=
  ["__Schema", "__Directive", "__Type", "__Field", "__InputValue", "__EnumValue"]

/-- The places where a directive may stand. -/
def directiveLocations : List String :=
  ["QUERY", "MUTATION", "SUBSCRIPTION", "FIELD", "FRAGMENT_DEFINITION", "FRAGMENT_SPREAD",
   "INLINE_FRAGMENT", "VARIABLE_DEFINITION", "FRAGMENT_VARIABLE_DEFINITION", "SCHEMA", "SCALAR", "OBJECT",
   "FIELD_DEFINITION", "ARGUMENT_DEFINITION", "INTERFACE", "UNION", "ENUM", "ENUM_VALUE", "INPUT_OBJECT",
   "INPUT_FIELD_DEFINITION", "DIRECTIVE_DEFINITION"]

/-- The kinds of types, wrappers among them. -/
def typeKindWords : List String :=
  ["SCALAR", "OBJECT", "INTERFACE", "UNION", "ENUM", "INPUT_OBJECT", "LIST", "NON_NULL"]

/-- The enumerations of the introspection system with their values. -/
def introspectionEnums : List (String × List String) :=
  [("__DirectiveLocation", directiveLocations), ("__TypeKind", typeKindWords)]

/-- A declaration without directives. -/
def plainDeclaration (name : String) (description : Option String) (content : Content) : Declaration :=
  ⟨description, name, [], content⟩

/-- A value of an enumeration without a description and directives. -/
def plainEnumValue (name : String) : EnumValueDefinition := ⟨none, name, []⟩

/-- The standard types. Of the objects of the introspection system only the kind matters here. -/
def standardTypes : List Declaration :=
  standardScalars.map (fun s => plainDeclaration s.1 (some s.2) .scalar)
    ++ introspectionObjects.map (fun name => plainDeclaration name none (.object [] []))
    ++ introspectionEnums.map (fun e => plainDeclaration e.1 none (.enum (e.2.map plainEnumValue)))

/-- The standard type of that name. -/
def standardType? (name : String) : Option Declaration := standardTypes.find? (·.name = name)

/-- The names of the standard types. -/
def standardNames : List String := standardTypes.map (·.name)

/-! ## Directives -/

/-- The reason of a deprecation that gives none. -/
def defaultReason : String := "No longer supported"

/-- An argument of a standard directive. -/
def standardArgument (name : String) (type : TypeExpr) (default : Option Literal) : InputDefinition :=
  ⟨none, name, type, default, []⟩

/-- A standard directive. -/
def standardDirective (name : String) (arguments : List InputDefinition) (locations : List String) :
    DirectiveDefinition :=
  ⟨none, name, arguments, [], false, locations⟩

/-- The standard directives. -/
def standardDirectives : List DirectiveDefinition :=
  let condition := [standardArgument "if" (.nonNull (.named "Boolean")) none]
  let selections := ["FIELD", "FRAGMENT_SPREAD", "INLINE_FRAGMENT"]
  [standardDirective "include" condition selections,
   standardDirective "skip" condition selections,
   standardDirective "deprecated"
     [standardArgument "reason" (.nonNull (.named "String")) (some (.text defaultReason))]
     ["FIELD_DEFINITION", "ARGUMENT_DEFINITION", "INPUT_FIELD_DEFINITION", "ENUM_VALUE",
      "DIRECTIVE_DEFINITION"],
   standardDirective "specifiedBy" [standardArgument "url" (.nonNull (.named "String")) none] ["SCALAR"],
   standardDirective "oneOf" [] ["INPUT_OBJECT"]]

end GraphQLCache.Sdl
