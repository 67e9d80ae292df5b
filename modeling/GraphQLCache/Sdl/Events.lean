import GraphQLCache.Sdl.Standard

/-!
# Events — a document in reading order

Rules look at a document as a sequence of events: definitions begin, parts with directives begin, types are
named, directives are applied and end, input fields are given. Rules that find faults at different events
report them in the order of the events.
-/

namespace GraphQLCache.Sdl

/-- What happens while a document is read. -/
inductive Event where
  | definition (definition : Definition)
  | part (directives : List Directive)
  | fieldSelection (arguments : List Argument) (directives : List Directive)
  | typeName (name : String) (inSystem : Bool)
  | directive (directive : Directive) (place : String)
  | directiveEnd (directive : Directive)
  | inputField (name : String) (earlier : List String)

namespace Event

/-! ## Values and directives -/

mutual

/-- The events of a value. -/
def ofLiteral : Literal → List Event
  | .list items => ofItems items
  | .object fields => ofInputFields [] fields
  | _ => []

/-- The events of the items of a list. -/
def ofItems : List Literal → List Event
  | [] => []
  | item :: rest => ofLiteral item ++ ofItems rest

/-- The events of the fields of an object behind the fields in `earlier`. -/
def ofInputFields (earlier : List String) : List (String × Literal) → List Event
  | [] => []
  | (key, value) :: rest =>
    .inputField key earlier :: ofLiteral value ++ ofInputFields (key :: earlier) rest

end

/-- The events of arguments. -/
def ofArguments (arguments : List Argument) : List Event := arguments.flatMap fun a => ofLiteral a.value

/-- The events of the directives at a place. -/
def ofDirectives (place : String) (directives : List Directive) : List Event :=
  directives.flatMap fun d => .directive d place :: ofArguments d.arguments ++ [.directiveEnd d]

/-! ## Types -/

/-- The events of types that are named. -/
def ofTypeNames (inSystem : Bool) (names : List String) : List Event :=
  names.map fun name => .typeName name inSystem

/-- The events of a default value. -/
def ofDefault (default : Option Literal) : List Event :=
  match default with
  | some value => ofLiteral value
  | none => []

/-- The events of argument definitions or input fields at a place. -/
def ofInputs (place : String) (inputs : List InputDefinition) : List Event :=
  inputs.flatMap fun i =>
    .part i.directives :: .typeName i.type.baseName true :: ofDefault i.default
      ++ ofDirectives place i.directives

/-- The events of fields. -/
def ofFields (fields : List FieldDefinition) : List Event :=
  fields.flatMap fun f =>
    .part f.directives :: ofInputs "ARGUMENT_DEFINITION" f.arguments
      ++ .typeName f.type.baseName true :: ofDirectives "FIELD_DEFINITION" f.directives

/-- The events of the values of an enumeration. -/
def ofEnumValues (values : List EnumValueDefinition) : List Event :=
  values.flatMap fun v => .part v.directives :: ofDirectives "ENUM_VALUE" v.directives

/-- The events inside a declaration. -/
def ofDeclaration (d : Declaration) : List Event :=
  match d.content with
  | .scalar => ofDirectives "SCALAR" d.directives
  | .object interfaces fields =>
    ofTypeNames true interfaces ++ ofDirectives "OBJECT" d.directives ++ ofFields fields
  | .interface interfaces fields =>
    ofTypeNames true interfaces ++ ofDirectives "INTERFACE" d.directives ++ ofFields fields
  | .union members => ofDirectives "UNION" d.directives ++ ofTypeNames true members
  | .enum values => ofDirectives "ENUM" d.directives ++ ofEnumValues values
  | .input fields =>
    ofDirectives "INPUT_OBJECT" d.directives ++ ofInputs "INPUT_FIELD_DEFINITION" fields

/-! ## Operations -/

/-- The events of a type condition. -/
def ofCondition (type : Option String) : List Event := ofTypeNames false type.toList

mutual

/-- The events of a selection. -/
def ofSelection : OperationSelection → List Event
  | .field _ _ arguments directives selections =>
    .fieldSelection arguments directives :: ofArguments arguments ++ ofDirectives "FIELD" directives
      ++ ofSelections selections
  | .spread _ directives => .part directives :: ofDirectives "FRAGMENT_SPREAD" directives
  | .inlineOn type directives selections =>
    .part directives :: ofCondition type ++ ofDirectives "INLINE_FRAGMENT" directives
      ++ ofSelections selections

/-- The events of selections. -/
def ofSelections : List OperationSelection → List Event
  | [] => []
  | s :: rest => ofSelection s ++ ofSelections rest

end

/-- The events of the variables of an operation. -/
def ofParameters (parameters : List ParameterDefinition) : List Event :=
  parameters.flatMap fun v =>
    .part v.directives :: .typeName v.type.baseName false :: ofDefault v.default
      ++ ofDirectives "VARIABLE_DEFINITION" v.directives

/-- The place of the directives of an operation. -/
def operationPlace : Operation → String
  | .query => "QUERY"
  | .mutation => "MUTATION"
  | .subscription => "SUBSCRIPTION"

/-! ## Documents -/

/-- The events inside a definition. -/
def inside : Definition → List Event
  | .schema directives roots => ofDirectives "SCHEMA" directives ++ ofTypeNames true (roots.map (·.2))
  | .extendSchema directives roots => ofDirectives "SCHEMA" directives ++ ofTypeNames true (roots.map (·.2))
  | .type d => ofDeclaration d
  | .extendType d => ofDeclaration d
  | .directive d => ofInputs "ARGUMENT_DEFINITION" d.arguments ++ ofDirectives "DIRECTIVE_DEFINITION" d.directives
  | .extendDirective _ directives => ofDirectives "DIRECTIVE_DEFINITION" directives
  | .operation operation parameters directives selections =>
    ofParameters parameters ++ ofDirectives (operationPlace operation) directives ++ ofSelections selections
  | .fragment _ type directives selections =>
    .typeName type false :: ofDirectives "FRAGMENT_DEFINITION" directives ++ ofSelections selections

/-- The events of a document. -/
def ofDocument (document : Document) : List Event :=
  document.flatMap fun d => .definition d :: inside d

end Event

end GraphQLCache.Sdl
