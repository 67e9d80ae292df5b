import GraphQLCache.Sdl.Events
import GraphQLCache.Sdl.Suggestion

/-!
# Rules — what a document must keep to before a schema is built from it

Every rule is a small machine that reads the events of a document and reports faults. All rules read on in
step, so faults come in the order of the events and, at one event, in the order of the rules. The rules say
that what is defined is defined once, that what is named is known, and that directives stand where they may,
with the arguments they have.
-/

namespace GraphQLCache.Sdl

/-! ## Faults -/

/-- What a rule reports. -/
inductive RuleFault where
  | severalSchemas
  | repeatedRoot (operation : Operation)
  | repeatedType (name : String)
  | repeatedEnumValue (type value : String)
  | repeatedField (type field : String)
  | repeatedArgumentDefinition (owner argument : String)
  | repeatedDirectiveDefinition (name : String)
  | unknownType (name : String) (meant : List String)
  | unknownDirective (name : String)
  | misplacedDirective (name place : String)
  | repeatedDirective (name : String)
  | extendsUndefined (name : String) (meant : List String)
  | extendsOtherKind (kind name : String)
  | unknownArgument (directive argument : String) (meant : List String)
  | repeatedArgument (name : String)
  | repeatedInputField (name : String)
  | missingArgument (directive argument type : String)
deriving DecidableEq, Repr

/-- The words of a place where a directive may stand. -/
def placeWords (place : String) : String :=
  String.ofList (place.toList.map fun c => if c = '_' then ' ' else c.toLower)

/-- The words for a fault. -/
def RuleFault.message : RuleFault → String
  | .severalSchemas => "Must provide only one schema definition."
  | .repeatedRoot operation => "There can be only one " ++ operation.word ++ " type in schema."
  | .repeatedType name => "There can be only one type named '" ++ name ++ "'."
  | .repeatedEnumValue type value =>
    "Enum value '" ++ type ++ "." ++ value ++ "' can only be defined once."
  | .repeatedField type field => "Field '" ++ type ++ "." ++ field ++ "' can only be defined once."
  | .repeatedArgumentDefinition owner argument =>
    "Argument '" ++ owner ++ "(" ++ argument ++ ":)' can only be defined once."
  | .repeatedDirectiveDefinition name => "There can be only one directive named '@" ++ name ++ "'."
  | .unknownType name meant => "Unknown type '" ++ name ++ "'." ++ didYouMean meant
  | .unknownDirective name => "Unknown directive '@" ++ name ++ "'."
  | .misplacedDirective name place =>
    "Directive '@" ++ name ++ "' may not be used on " ++ placeWords place ++ "."
  | .repeatedDirective name =>
    "The directive '@" ++ name ++ "' can only be used once at this location."
  | .extendsUndefined name meant =>
    "Cannot extend type '" ++ name ++ "' because it is not defined." ++ didYouMean meant
  | .extendsOtherKind kind name => "Cannot extend non-" ++ kind ++ " type '" ++ name ++ "'."
  | .unknownArgument directive argument meant =>
    "Unknown argument '" ++ argument ++ "' on directive '@" ++ directive ++ "'." ++ didYouMean meant
  | .repeatedArgument name => "There can be only one argument named '" ++ name ++ "'."
  | .repeatedInputField name => "There can be only one input field named '" ++ name ++ "'."
  | .missingArgument directive argument type =>
    "Argument '@" ++ directive ++ "(" ++ argument ++ ":)' of type '" ++ type
      ++ "' is required, but it was not provided."

/-! ## Rules as machines -/

/-- A machine that reads events and reports faults. -/
structure Rule where
  State : Type
  start : State
  step : State → Event → State × List RuleFault

/-- A rule that needs no memory. -/
def Rule.stateless (check : Event → List RuleFault) : Rule := ⟨Unit, (), fun _ e => ((), check e)⟩

/-- A rule at work. -/
structure RunningRule where
  rule : Rule
  state : rule.State

/-- One step of all rules: the faults that they report at an event. -/
def RunningRule.stepAll (e : Event) : List RunningRule → List RunningRule × List RuleFault
  | [] => ([], [])
  | r :: rest =>
    let (state, faults) := r.rule.step r.state e
    let (others, more) := stepAll e rest
    (⟨r.rule, state⟩ :: others, faults ++ more)

/-- The faults that rules report over a sequence of events. -/
def RunningRule.run (rules : List RunningRule) : List Event → List RuleFault
  | [] => []
  | e :: rest =>
    let (rules, faults) := RunningRule.stepAll e rules
    faults ++ RunningRule.run rules rest

/-! ## What a document defines -/

/-- The declarations of the types that a document defines. -/
def declarations (document : Document) : List Declaration :=
  document.filterMap fun
    | .type d => some d
    | _ => none

/-- The directives that a document defines. -/
def directiveDefinitions (document : Document) : List DirectiveDefinition :=
  document.filterMap fun
    | .directive d => some d
    | _ => none

/-- The definition of a directive: the last one that the document gives, else the standard one. -/
def directiveNamed? (document : Document) (name : String) : Option DirectiveDefinition :=
  (standardDirectives ++ directiveDefinitions document).reverse.find? (·.name = name)

/-! ## What is defined is defined once -/

/-- The items that occurred before in a list or in `known`, with all that is known afterwards. -/
def repeats {α : Type} [DecidableEq α] (known : List α) : List α → List α × List α
  | [] => (known, [])
  | a :: rest =>
    if a ∈ known then
      let (known, again) := repeats known rest
      (known, a :: again)
    else repeats (a :: known) rest

/-- The items that occur more than once, in the order of their first occurrence. -/
def repeated (names : List String) : List String := names.eraseDups.filter fun name => 1 < names.count name

/-- A document has one schema definition. -/
def loneSchema : Rule where
  State := Bool
  start := false
  step seen
    | .definition (.schema _ _) => (true, if seen then [.severalSchemas] else [])
    | _ => (seen, [])

/-- Every operation has one root type. -/
def uniqueRoots : Rule where
  State := List Operation
  start := []
  step known
    | .definition (.schema _ roots) => (repeats known (roots.map (·.1))).map id (·.map .repeatedRoot)
    | .definition (.extendSchema _ roots) => (repeats known (roots.map (·.1))).map id (·.map .repeatedRoot)
    | _ => (known, [])

/-- Every type has one definition. -/
def uniqueTypes : Rule where
  State := List String
  start := []
  step known
    | .definition (.type d) => (repeats known [d.name]).map id (·.map .repeatedType)
    | _ => (known, [])

/-- The values that a definition or an extension adds to an enumeration. -/
def enumValueNames (d : Declaration) : List (String × String) :=
  match d.content with
  | .enum values => values.map fun v => (d.name, v.name)
  | _ => []

/-- Every value of an enumeration is defined once. -/
def uniqueEnumValues : Rule where
  State := List (String × String)
  start := []
  step known
    | .definition (.type d) =>
      (repeats known (enumValueNames d)).map id (·.map fun p => .repeatedEnumValue p.1 p.2)
    | .definition (.extendType d) =>
      (repeats known (enumValueNames d)).map id (·.map fun p => .repeatedEnumValue p.1 p.2)
    | _ => (known, [])

/-- The fields that a definition or an extension adds to a type. -/
def fieldNames (d : Declaration) : List (String × String) :=
  match d.content with
  | .object _ fields => fields.map fun f => (d.name, f.name)
  | .interface _ fields => fields.map fun f => (d.name, f.name)
  | .input fields => fields.map fun f => (d.name, f.name)
  | _ => []

/-- Every field of a type is defined once. -/
def uniqueFields : Rule where
  State := List (String × String)
  start := []
  step known
    | .definition (.type d) =>
      (repeats known (fieldNames d)).map id (·.map fun p => .repeatedField p.1 p.2)
    | .definition (.extendType d) =>
      (repeats known (fieldNames d)).map id (·.map fun p => .repeatedField p.1 p.2)
    | _ => (known, [])

/-- The faults of the arguments that an owner defines. -/
def argumentFaults (owner : String) (inputs : List InputDefinition) : List RuleFault :=
  (repeated (inputs.map (·.name))).map fun name => .repeatedArgumentDefinition owner name

/-- The faults of the arguments of the fields of a type. -/
def fieldArgumentFaults (d : Declaration) : List RuleFault :=
  let ofFields (fields : List FieldDefinition) :=
    fields.flatMap fun f => argumentFaults (d.name ++ "." ++ f.name) f.arguments
  match d.content with
  | .object _ fields => ofFields fields
  | .interface _ fields => ofFields fields
  | _ => []

/-- Every argument of a field or a directive is defined once. -/
def uniqueArgumentDefinitions : Rule :=
  .stateless fun
    | .definition (.directive d) => argumentFaults ("@" ++ d.name) d.arguments
    | .definition (.type d) => fieldArgumentFaults d
    | .definition (.extendType d) => fieldArgumentFaults d
    | _ => []

/-- Every directive has one definition. -/
def uniqueDirectives : Rule where
  State := List String
  start := []
  step known
    | .definition (.directive d) => (repeats known [d.name]).map id (·.map .repeatedDirectiveDefinition)
    | _ => (known, [])

/-! ## What is named is known -/

/-- Every named type is defined. The standard types are known to type definitions, not to operations. -/
def knownTypes (document : Document) : Rule :=
  let defined := (declarations document).map (·.name)
  .stateless fun
    | .typeName name inSystem =>
      let options := if inSystem then standardNames ++ defined else defined
      if options.contains name then [] else [.unknownType name (suggestions name options)]
    | _ => []

/-- Every directive is defined and stands where it may. -/
def knownDirectives (document : Document) : Rule :=
  .stateless fun
    | .directive d place =>
      match directiveNamed? document d.name with
      | none => [.unknownDirective d.name]
      | some definition =>
        if definition.locations.contains place then [] else [.misplacedDirective d.name place]
    | _ => []

/-! ## Directives stand once -/

/-- The directives seen at the schema, at each type and at each directive. -/
structure SeenDirectives where
  schema : List String
  types : List (String × String)
  directives : List (String × String)

/-- The names of the directives that may stand once only. -/
def onceOnly (document : Document) (directives : List Directive) : List String :=
  (directives.map (·.name)).filter fun name =>
    match directiveNamed? document name with
    | some definition => !definition.repeatable
    | none => false

/-- Unless it is repeatable, a directive stands once at a place; a type, a directive or the schema and its
    extensions are one place. -/
def directivesOnce (document : Document) : Rule where
  State := SeenDirectives
  start := ⟨[], [], []⟩
  step seen e :=
    let atSchema (directives : List Directive) :=
      let (known, again) := repeats seen.schema (onceOnly document directives)
      ({ seen with schema := known }, again.map RuleFault.repeatedDirective)
    let atType (d : Declaration) :=
      let (known, again) := repeats seen.types ((onceOnly document d.directives).map fun n => (d.name, n))
      ({ seen with types := known }, again.map fun p => RuleFault.repeatedDirective p.2)
    let atDirective (name : String) (directives : List Directive) :=
      let (known, again) := repeats seen.directives ((onceOnly document directives).map fun n => (name, n))
      ({ seen with directives := known }, again.map fun p => RuleFault.repeatedDirective p.2)
    let atPart (directives : List Directive) :=
      (seen, (repeats [] (onceOnly document directives)).2.map RuleFault.repeatedDirective)
    match e with
    | .definition (.schema directives _) => atSchema directives
    | .definition (.extendSchema directives _) => atSchema directives
    | .definition (.type d) => atType d
    | .definition (.extendType d) => atType d
    | .definition (.directive d) => atDirective d.name d.directives
    | .definition (.extendDirective name directives) => atDirective name directives
    | .definition (.operation _ _ directives _) => atPart directives
    | .definition (.fragment _ _ directives _) => atPart directives
    | .part directives => atPart directives
    | .fieldSelection _ directives => atPart directives
    | _ => (seen, [])

/-! ## Extensions extend what is there -/

/-- The word for the kind of a declaration. -/
def kindWord : Content → String
  | .scalar => "scalar"
  | .object _ _ => "object"
  | .interface _ _ => "interface"
  | .union _ => "union"
  | .enum _ => "enum"
  | .input _ => "input object"

/-- An extension extends a type of its own kind that the document defines. -/
def extensionsFit (document : Document) : Rule :=
  let defined := declarations document
  .stateless fun
    | .definition (.extendType d) =>
      match defined.reverse.find? (·.name = d.name) with
      | none => [.extendsUndefined d.name (suggestions d.name (defined.map (·.name)))]
      | some extended =>
        if kindWord extended.content = kindWord d.content then []
        else [.extendsOtherKind (kindWord d.content) d.name]
    | _ => []

/-! ## Arguments of directives and fields -/

/-- Every argument of a directive is one that the directive has. -/
def knownArguments (document : Document) : Rule :=
  .stateless fun
    | .directive d _ =>
      match directiveNamed? document d.name with
      | none => []
      | some definition =>
        let names := definition.arguments.map (·.name)
        (d.arguments.filter fun a => !names.contains a.name).map fun a =>
          .unknownArgument d.name a.name (suggestions a.name names)
    | _ => []

/-- Every argument is given once. -/
def uniqueArguments : Rule :=
  .stateless fun
    | .directive d _ => (repeated (d.arguments.map (·.name))).map .repeatedArgument
    | .fieldSelection arguments _ => (repeated (arguments.map (·.name))).map .repeatedArgument
    | _ => []

/-- Every field of an input object is given once. -/
def uniqueInputFields : Rule :=
  .stateless fun
    | .inputField name earlier => if earlier.contains name then [.repeatedInputField name] else []
    | _ => []

/-- Whether an argument must be given. -/
def InputDefinition.isRequired (i : InputDefinition) : Bool := i.type.isNonNull && i.default.isNone

/-- Every argument that a directive requires is given. -/
def requiredArguments (document : Document) : Rule :=
  .stateless fun
    | .directiveEnd d =>
      match directiveNamed? document d.name with
      | none => []
      | some definition =>
        let given := d.arguments.map (·.name)
        (definition.arguments.filter fun i => i.isRequired && !given.contains i.name).map fun i =>
          .missingArgument d.name i.name i.type.spelling
    | _ => []

/-! ## All rules -/

/-- The rules in order. -/
def rules (document : Document) : List Rule :=
  [loneSchema, uniqueRoots, uniqueTypes, uniqueEnumValues, uniqueFields, uniqueArgumentDefinitions,
   uniqueDirectives, knownTypes document, knownDirectives document, directivesOnce document,
   extensionsFit document, knownArguments document, uniqueArguments, uniqueInputFields,
   requiredArguments document]

/-- The faults that the rules find in a document. -/
def ruleFaults (document : Document) : List RuleFault :=
  RunningRule.run ((rules document).map fun r => ⟨r, r.start⟩) (Event.ofDocument document)

end GraphQLCache.Sdl
