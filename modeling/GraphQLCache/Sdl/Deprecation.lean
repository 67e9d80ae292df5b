import GraphQLCache.Sdl.Coercion

/-!
# Deprecation — reasons, and arguments of standard directives that have no text

What a `@deprecated` directive stands at is deprecated, with a reason that is given or the customary one. A
reason or a scalar's address that is no text is a fault, found when the schema is built: scalars are built
first, then the directives, then the fields of each type. The reasons of the values of enumerations are
looked at later, when the values are first needed.
-/

namespace GraphQLCache.Sdl

/-! ## Faults -/

/-- Why an argument of a standard directive has no value. -/
inductive ArgumentCause where
  | missing
  | misfit (why : Misfit)
deriving DecidableEq, Repr

/-- An argument of a standard directive without a value: the type whose fields are being built, if any, and
    the number of characters left where the fault is shown. -/
structure ArgumentFault where
  owner : Option String
  argument : String
  cause : ArgumentCause
  left : Option Nat
deriving DecidableEq, Repr

/-- The words for a fault, before its place is shown. -/
def ArgumentFault.message (f : ArgumentFault) : String :=
  let prelude :=
    match f.owner with
    | some type => type ++ " fields cannot be resolved. "
    | none => ""
  prelude ++ "Argument '" ++ f.argument ++
    match f.cause with
    | .missing => "' of required type 'String!' was not provided."
    | .misfit why => "' has invalid value: " ++ why.message

/-! ## Arguments of directives -/

/-- The directive of that name among those applied. -/
def applied? (directives : List Directive) (name : String) : Option Directive :=
  directives.find? (·.name = name)

/-- The argument of that name of an applied directive. -/
def Directive.argument? (d : Directive) (name : String) : Option Argument :=
  d.arguments.reverse.find? (·.name = name)

/-- Whether the directives deprecate what they stand at. -/
def isDeprecated (directives : List Directive) : Bool := (applied? directives "deprecated").isSome

/-- Where the value of an argument is shown. Lists and objects are shown nowhere. -/
def Argument.shownAt (a : Argument) : Option Nat :=
  match a.value with
  | .list _ => none
  | .object _ => none
  | _ => some a.left

/-- The fault of an argument that must be a text; one that is not required may be left out. -/
def textFault (owner : Option String) (required : Bool) (name : String) (d : Directive) :
    Option ArgumentFault :=
  match d.argument? name with
  | none => if required then some ⟨owner, name, .missing, some d.left⟩ else none
  | some a => (textMisfit? a.value).map fun why => ⟨owner, name, .misfit why, a.shownAt⟩

/-- The fault of a reason. -/
def reasonFault (owner : Option String) (directives : List Directive) : Option ArgumentFault :=
  (applied? directives "deprecated").bind (textFault owner false "reason")

/-- The fault of a scalar's address. -/
def addressFault (directives : List Directive) : Option ArgumentFault :=
  (applied? directives "specifiedBy").bind (textFault none true "url")

/-! ## Faults of a schema -/

/-- The reasons of argument definitions or input fields. -/
def inputReasonFaults (owner : Option String) (inputs : List InputDefinition) : List ArgumentFault :=
  inputs.filterMap fun i => reasonFault owner i.directives

/-- What is found when the type itself is built. -/
def typeReasonFaults (d : Declaration) : List ArgumentFault :=
  match d.content with
  | .scalar => (addressFault d.directives).toList
  | _ => []

/-- What is found when a directive is built. -/
def directiveReasonFaults (d : DirectiveDefinition) : List ArgumentFault :=
  inputReasonFaults none d.arguments ++ (reasonFault none d.directives).toList

/-- What is found when the fields of a type are built. -/
def fieldReasonFaults (d : Declaration) : List ArgumentFault :=
  let ofFields (fields : List FieldDefinition) :=
    fields.flatMap fun f =>
      inputReasonFaults (some d.name) f.arguments ++ (reasonFault (some d.name) f.directives).toList
  match d.content with
  | .object _ fields => ofFields fields
  | .interface _ fields => ofFields fields
  | .input fields => inputReasonFaults (some d.name) fields
  | _ => []

/-- What is found when the values of an enumeration are first needed. -/
def valueReasonFaults (d : Declaration) : List ArgumentFault :=
  match d.content with
  | .enum values => values.filterMap fun v => reasonFault none v.directives
  | _ => []

/-- The first fault that is found when types and directives are built. -/
def reasonFault? (types : List Declaration) (directives : List DirectiveDefinition) : Option ArgumentFault :=
  (types.flatMap typeReasonFaults ++ directives.flatMap directiveReasonFaults
    ++ types.flatMap fieldReasonFaults).head?

end GraphQLCache.Sdl
