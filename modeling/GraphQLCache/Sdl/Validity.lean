import GraphQLCache.Sdl.InputCycles

/-!
# Validity — what a type system must keep to before a service answers for it

There is a query root and it is an object; every type declares something; fields give out output types and
take input types; default values fit; an implementation keeps to its interfaces; input objects come to an
end. Faults are listed for the roots, then the directives, then the types in order. An `Obstacle` ends the
check at once, and no faults are listed then.
-/

namespace GraphQLCache.Sdl

/-! ## Faults -/

/-- What makes a type system invalid. Places are spelt like `Type.field` or `Type.field(argument:)`. -/
inductive ValidityFault where
  | noQueryRoot
  | rootNotObject (operation : Operation) (type : String)
  | sharedRoot (type : String) (operations : List Operation)
  | reservedName (name : String)
  | notInput (place type : String)
  | notOutput (place type : String)
  | deprecatedArgument (place : String)
  | deprecatedInput (place : String)
  | noFields (type : String)
  | noMembers (union : String)
  | noValues (enum : String)
  | noInputs (input : String)
  | notInterface (type other : String)
  | implementsItself (type : String)
  | implementsTwice (type interface : String)
  | circularInterface (type interface : String)
  | missingAncestor (type ancestor interface : String)
  | missingField (place type : String)
  | fieldType (place type otherPlace otherType : String)
  | missingArgument (place otherPlace : String)
  | argumentType (place type otherPlace otherType : String)
  | extraArgument (place type interfacePlace : String)
  | deprecatedImplementation (place interfacePlace : String)
  | repeatedMember (union member : String)
  | memberNotObject (union member : String)
  | choiceNotNullable (place : String)
  | choiceWithDefault (place : String)
  | badDefault (place : String) (misfit : PlacedMisfit)
  | circularDefault (place : String) (others : List String)
  | endlessInput (type : String) (fields : List String)
deriving DecidableEq, Repr

/-- The word of an operation at the beginning of a sentence. -/
def Operation.titleWord : Operation → String
  | .query => "Query"
  | .mutation => "Mutation"
  | .subscription => "Subscription"

/-- The words for a fault. -/
def ValidityFault.message : ValidityFault → String
  | .noQueryRoot => "Query root type must be provided."
  | .rootNotObject operation type =>
    operation.titleWord ++ " root type must be Object type"
      ++ (if operation = .query then "" else " if provided") ++ ", it cannot be " ++ type ++ "."
  | .sharedRoot type operations =>
    "All root types must be different, '" ++ type ++ "' type is used as "
      ++ joinAlternatives "and" (operations.map Operation.word) ++ " root types."
  | .reservedName name =>
    "Name '" ++ name ++ "' must not begin with '__', which is reserved by GraphQL introspection."
  | .notInput place type => "The type of " ++ place ++ " must be Input Type but got: " ++ type ++ "."
  | .notOutput place type => "The type of " ++ place ++ " must be Output Type but got: " ++ type ++ "."
  | .deprecatedArgument place => "Required argument " ++ place ++ " cannot be deprecated."
  | .deprecatedInput place => "Required input field " ++ place ++ " cannot be deprecated."
  | .noFields type => "Type " ++ type ++ " must define one or more fields."
  | .noMembers union => "Union type " ++ union ++ " must define one or more member types."
  | .noValues enum => "Enum type " ++ enum ++ " must define one or more values."
  | .noInputs input => "Input Object type " ++ input ++ " must define one or more fields."
  | .notInterface type other =>
    "Type " ++ type ++ " must only implement Interface types, it cannot implement " ++ other ++ "."
  | .implementsItself type =>
    "Type " ++ type ++ " cannot implement itself because it would create a circular reference."
  | .implementsTwice type interface => "Type " ++ type ++ " can only implement " ++ interface ++ " once."
  | .circularInterface type interface =>
    "Type " ++ type ++ " cannot implement " ++ interface
      ++ " because it would create a circular reference."
  | .missingAncestor type ancestor interface =>
    "Type " ++ type ++ " must implement " ++ ancestor ++ " because it is implemented by " ++ interface ++ "."
  | .missingField place type =>
    "Interface field " ++ place ++ " expected but " ++ type ++ " does not provide it."
  | .fieldType place type otherPlace otherType =>
    "Interface field " ++ place ++ " expects type " ++ type ++ " but " ++ otherPlace ++ " is type "
      ++ otherType ++ "."
  | .missingArgument place otherPlace =>
    "Interface field argument " ++ place ++ " expected but " ++ otherPlace ++ " does not provide it."
  | .argumentType place type otherPlace otherType =>
    "Interface field argument " ++ place ++ " expects type " ++ type ++ " but " ++ otherPlace
      ++ " is type " ++ otherType ++ "."
  | .extraArgument place type interfacePlace =>
    "Argument '" ++ place ++ "' must not be required type '" ++ type
      ++ "' if not provided by the Interface field '" ++ interfacePlace ++ "'."
  | .deprecatedImplementation place interfacePlace =>
    "Interface field " ++ interfacePlace ++ " is not deprecated, so implementation field " ++ place
      ++ " must not be deprecated."
  | .repeatedMember union member =>
    "Union type " ++ union ++ " can only include type " ++ member ++ " once."
  | .memberNotObject union member =>
    "Union type " ++ union ++ " can only include Object types, it cannot include " ++ member ++ "."
  | .choiceNotNullable place => "OneOf input field " ++ place ++ " must be nullable."
  | .choiceWithDefault place => "OneOf input field " ++ place ++ " cannot have a default value."
  | .badDefault place misfit =>
    place ++ " has invalid default value" ++ misfit.place ++ ": " ++ misfit.why.message
  | .circularDefault place others =>
    "Invalid circular reference. The default value of Input Object field " ++ place ++ " references itself"
      ++ (if others.isEmpty then "" else " via the default values of: " ++ ", ".intercalate others) ++ "."
  | .endlessInput type fields =>
    "Input Object " ++ type
      ++ " cannot be provided a finite value because it references itself through fields: "
      ++ ", ".intercalate fields ++ "."

/-- What ends the check of a type system at once: a default value for what takes no values, or a value of an
    enumeration whose reason is no text. -/
inductive Obstacle where
  | noLeaf (type : String)
  | reason (fault : ArgumentFault)
deriving DecidableEq, Repr

/-- The words for an obstacle, before its place is shown. -/
def Obstacle.message : Obstacle → String
  | .noLeaf type => (Misfit.notLeaf type).message
  | .reason fault => fault.message

namespace TypeSystem

/-! ## Kinds -/

/-- Whether a named type is an object. -/
def isObject (s : TypeSystem) (name : String) : Bool :=
  match s.contentOf? name with
  | some (.object _ _) => true
  | _ => false

/-- Whether a named type is an interface. -/
def isInterface (s : TypeSystem) (name : String) : Bool :=
  match s.contentOf? name with
  | some (.interface _ _) => true
  | _ => false

/-- Whether a type can be taken as input. -/
def isInput (s : TypeSystem) (type : TypeExpr) : Bool :=
  match s.contentOf? type.baseName with
  | some .scalar => true
  | some (.enum _) => true
  | some (.input _) => true
  | _ => false

/-- Whether a type can be given out. -/
def isOutput (s : TypeSystem) (type : TypeExpr) : Bool :=
  match s.contentOf? type.baseName with
  | some (.input _) => false
  | some _ => true
  | none => false

/-- Whether `member` is a member of the union `abstract`, or implements the interface `abstract`. -/
def isMember (s : TypeSystem) (member abstract : String) : Bool :=
  match s.contentOf? abstract with
  | some (.union members) => members.contains member
  | some (.interface _ _) => ((s.contentOf? member).map interfacesOf).any (·.contains abstract)
  | _ => false

/-- Whether every value of a type is one of the other. -/
def isSubtype (s : TypeSystem) : TypeExpr → TypeExpr → Bool
  | .nonNull a, .nonNull b => s.isSubtype a b
  | .nonNull a, b => s.isSubtype a b
  | .listOf a, .listOf b => s.isSubtype a b
  | .named a, .named b => a = b || s.isMember a b
  | _, _ => false

/-! ## Roots -/

/-- The root type of an operation. -/
def root (s : TypeSystem) : Operation → Option String
  | .query => s.query
  | .mutation => s.mutation
  | .subscription => s.subscription

/-- The faults of the root types. -/
def rootFaults (s : TypeSystem) : List ValidityFault :=
  let missing := if s.query.isNone then [.noQueryRoot] else []
  let given := Operation.all.filterMap fun o => (s.root o).map fun type => (o, type)
  let wrong := (given.filter fun g => !s.isObject g.2).map fun g => .rootNotObject g.1 g.2
  let objects := given.filter fun g => s.isObject g.2
  let shared := ((objects.map (·.2)).eraseDups).filterMap fun type =>
    let operations := (objects.filter (·.2 = type)).map (·.1)
    if 1 < operations.length then some (.sharedRoot type operations) else none
  missing ++ wrong ++ shared

/-! ## Names and arguments -/

/-- The fault of a name. -/
def nameFaults (name : String) : List ValidityFault :=
  if "__".toList.isPrefixOf name.toList then [.reservedName name] else []

/-- The faults of the default value of an argument or an input field at a place. -/
def defaultFaults (s : TypeSystem) (place : String) (i : InputDefinition) : List ValidityFault :=
  (s.defaultMisfits i).map (.badDefault place)

/-- The faults of the arguments of an owner. -/
def argumentFaults (s : TypeSystem) (owner : String) (inputs : List InputDefinition) : List ValidityFault :=
  inputs.flatMap fun i =>
    nameFaults i.name
      ++ (if s.isInput i.type then [] else [.notInput (argumentPlace owner i.name) i.type.spelling])
      ++ (if i.isRequired && isDeprecated i.directives
          then [.deprecatedArgument (argumentPlace owner i.name)] else [])
      ++ s.defaultFaults (argumentPlace owner i.name) i

/-- The faults of the directives. -/
def directiveFaults (s : TypeSystem) : List ValidityFault :=
  s.directives.flatMap fun d => nameFaults d.name ++ s.argumentFaults ("@" ++ d.name) d.arguments

/-! ## Objects and interfaces -/

/-- The fields of an object or an interface. -/
def fieldsOf : Content → List FieldDefinition
  | .object _ fields => fields
  | .interface _ fields => fields
  | _ => []

/-- The faults of the fields of a type. -/
def fieldFaults (s : TypeSystem) (type : String) (fields : List FieldDefinition) : List ValidityFault :=
  (if fields.isEmpty then [.noFields type] else [])
    ++ fields.flatMap fun f =>
      nameFaults f.name
        ++ (if s.isOutput f.type then [] else [.notOutput (fieldPlace type f.name) f.type.spelling])
        ++ s.argumentFaults (fieldPlace type f.name) f.arguments

/-- The faults of a field against the one of an interface that it implements. -/
def implementedFieldFaults (s : TypeSystem) (type interface : String) (f wanted : FieldDefinition) :
    List ValidityFault :=
  let place := fieldPlace interface wanted.name
  let own := fieldPlace type f.name
  (if s.isSubtype f.type wanted.type then []
    else [.fieldType place wanted.type.spelling own f.type.spelling])
    ++ (wanted.arguments.flatMap fun w =>
      match f.arguments.find? (·.name = w.name) with
      | none => [.missingArgument (argumentPlace place w.name) own]
      | some i =>
        if i.type = w.type then []
        else [.argumentType (argumentPlace place w.name) w.type.spelling (argumentPlace own w.name)
          i.type.spelling])
    ++ (f.arguments.flatMap fun i =>
      if i.isRequired && !wanted.arguments.any (·.name = i.name) then
        [.extraArgument (argumentPlace own i.name) i.type.spelling place]
      else [])
    ++ if isDeprecated f.directives && !isDeprecated wanted.directives then
        [.deprecatedImplementation own place]
      else []

/-- The faults of a type against an interface that it implements: first the interfaces of the interface,
    then its fields. -/
def implementationFaults (s : TypeSystem) (d : Declaration) (interface : String) : List ValidityFault :=
  match s.contentOf? interface with
  | none => []
  | some content =>
    ((interfacesOf content).flatMap fun ancestor =>
      if (interfacesOf d.content).contains ancestor then []
      else if ancestor = d.name then [.circularInterface d.name interface]
      else [.missingAncestor d.name ancestor interface])
      ++ (fieldsOf content).flatMap fun wanted =>
        match (fieldsOf d.content).find? (·.name = wanted.name) with
        | none => [.missingField (fieldPlace interface wanted.name) d.name]
        | some f => s.implementedFieldFaults d.name interface f wanted

/-- The faults of the interfaces that a type implements; `known` are those before. -/
def interfaceFaults (s : TypeSystem) (d : Declaration) (known : List String) : List String → List ValidityFault
  | [] => []
  | interface :: rest =>
    if !s.isInterface interface then
      .notInterface d.name interface :: s.interfaceFaults d known rest
    else if interface = d.name then .implementsItself d.name :: s.interfaceFaults d known rest
    else if known.contains interface then
      .implementsTwice d.name interface :: s.interfaceFaults d known rest
    else s.implementationFaults d interface ++ s.interfaceFaults d (interface :: known) rest

/-! ## Unions and input objects -/

/-- The faults of the members of a union; `known` are those before. -/
def memberFaults (s : TypeSystem) (union : String) (known : List String) : List String → List ValidityFault
  | [] => []
  | member :: rest =>
    if !s.isObject member then .memberNotObject union member :: s.memberFaults union known rest
    else if known.contains member then .repeatedMember union member :: s.memberFaults union known rest
    else s.memberFaults union (member :: known) rest

/-- The faults of the fields of an input object. -/
def inputFaults (s : TypeSystem) (d : Declaration) (fields : List InputDefinition) : List ValidityFault :=
  (if fields.isEmpty then [.noInputs d.name] else [])
    ++ fields.flatMap fun i =>
      let place := fieldPlace d.name i.name
      nameFaults i.name
        ++ (if s.isInput i.type then [] else [.notInput place i.type.spelling])
        ++ (if i.isRequired && isDeprecated i.directives then [.deprecatedInput place] else [])
        ++ s.defaultFaults place i
        ++ (if d.isChoice then
            (if i.type.isNonNull then [.choiceNotNullable place] else [])
              ++ (if i.default.isSome then [.choiceWithDefault place] else [])
          else [])

/-! ## All faults -/

/-- The faults of a type, except that its inputs require themselves. -/
def ownFaults (s : TypeSystem) (d : Declaration) : List ValidityFault :=
  nameFaults d.name ++
    match d.content with
    | .scalar => []
    | .object interfaces fields => s.fieldFaults d.name fields ++ s.interfaceFaults d [] interfaces
    | .interface interfaces fields => s.fieldFaults d.name fields ++ s.interfaceFaults d [] interfaces
    | .union members => (if members.isEmpty then [.noMembers d.name] else []) ++ s.memberFaults d.name [] members
    | .enum values =>
      (if values.isEmpty then [.noValues d.name] else []) ++ values.flatMap fun v => nameFaults v.name
    | .input fields => s.inputFaults d fields

/-- What was found in input objects so far: by following default values, and by following what they hold. -/
structure InputSearches where
  defaults : CycleSearch FieldKey
  binding : CycleSearch String

/-- The searches from an input object on, which find only what was not found before. -/
def InputSearches.from (s : TypeSystem) (searches : InputSearches) (type : String) : InputSearches where
  defaults := s.searchDefaults type ⟨searches.defaults.visited, []⟩
  binding := s.searchBinding type ⟨searches.binding.visited, []⟩

/-- The faults that searches found: first those of default values. -/
def InputSearches.faults (searches : InputSearches) : List ValidityFault :=
  (searches.defaults.found.map fun c =>
      .circularDefault (fieldPlace c.vertex.1 c.vertex.2) c.labels.dropLast)
    ++ searches.binding.found.map fun c => .endlessInput c.vertex c.labels

/-- The faults of the types, behind those of which the inputs were searched. -/
def typeFaults (s : TypeSystem) (searches : InputSearches) : List Declaration → List ValidityFault
  | [] => []
  | d :: rest =>
    match d.content with
    | .input _ =>
      let searches := searches.from s d.name
      s.ownFaults d ++ searches.faults ++ s.typeFaults searches rest
    | _ => s.ownFaults d ++ s.typeFaults searches rest

/-- The faults of a type system; it is valid if there are none. -/
def faults (s : TypeSystem) : List ValidityFault :=
  s.rootFaults ++ s.directiveFaults ++ s.typeFaults ⟨.start, .start⟩ s.types

/-! ## Obstacles -/

/-- The obstacles in the default values of arguments or input fields. -/
def defaultObstacles (s : TypeSystem) (inputs : List InputDefinition) : List Obstacle :=
  (inputs.flatMap s.defaultMisfits).filterMap fun m =>
    match m.why with
    | .notLeaf type => some (.noLeaf type)
    | _ => none

/-- The obstacles in a type. -/
def typeObstacles (s : TypeSystem) (d : Declaration) : List Obstacle :=
  match d.content with
  | .enum _ => (valueReasonFaults d).map .reason
  | .input fields => s.defaultObstacles fields
  | content => s.defaultObstacles ((fieldsOf content).flatMap (·.arguments))

/-- The first obstacle to the check of a type system. -/
def obstacle? (s : TypeSystem) : Option Obstacle :=
  (s.defaultObstacles (s.directives.flatMap (·.arguments)) ++ s.types.flatMap s.typeObstacles).head?

end TypeSystem

end GraphQLCache.Sdl
