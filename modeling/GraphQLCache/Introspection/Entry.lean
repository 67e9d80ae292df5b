import GraphQLCache.Introspection.Checked
import GraphQLCache.Json.Basic
import GraphQLCache.Schema.Basic

/-!
# Introspection entries — one type as a service reports it

`readEntry` reads one element of the `types` array. Unknown keys are ignored. A key is sought in its camel
case spelling and, only if that is absent, in its snake case spelling. Everything that an entry may hold is
read whatever its kind, and every wrong or missing part is one fault; inside a part that is wrong itself
nothing more is counted.
-/

namespace GraphQLCache

/-- The parts of an entry, before its kind is looked at. -/
structure Entry where
  kind : String
  name : String
  description : Option String
  fields : List Field
  inputFields : List Field
  enumValues : List EnumValue
  interfaces : List String
  possibleTypes : List String
deriving DecidableEq, Repr

namespace Entry

/-! ## Parts -/

/-- The value under a key or, if the key is absent, under its other spelling. -/
def member? (entries : Entries) (key other : String) : Option Json :=
  match Entries.get? entries key with
  | some j => some j
  | none => Entries.get? entries other

/-- A part that must be there. -/
def required {α : Type} (read : Json → Checked α) : Option Json → Checked α
  | none => .fault
  | some j => read j

/-- A part that may be absent or null. -/
def optional {α : Type} (read : Json → Checked α) : Option Json → Checked (Option α)
  | none => .valid none
  | some .null => .valid none
  | some j => (read j).map some

/-- A string. -/
def readText : Json → Checked String
  | .str s => .valid s
  | _ => .fault

/-- An array, its items read one by one. -/
def readList {α : Type} (read : Json → Checked α) : Json → Checked (List α)
  | .arr items => .all (items.map read)
  | _ => .fault

/-- An array that may be absent or null and then counts as empty. -/
def optionalList {α : Type} (read : Json → Checked α) (part : Option Json) : Checked (List α) :=
  (optional (readList read) part).map (·.getD [])

/-- The words for false. -/
def falseWords : List String := ["0", "off", "f", "false", "n", "no"]

/-- The words for true. -/
def trueWords : List String := ["1", "on", "t", "true", "y", "yes"]

/-- A flag: a truth value, zero or one, or a word for it in ASCII letters of either case. -/
def readFlag : Json → Checked Bool
  | .bool b => .valid b
  | .int n => if n = 0 then .valid false else if n = 1 then .valid true else .fault
  | .float x => if x == 0.0 then .valid false else if x == 1.0 then .valid true else .fault
  | .str s =>
    let word := String.ofList (s.toList.map Char.toLower)
    if falseWords.contains word then .valid false
    else if trueWords.contains word then .valid true
    else .fault
  | _ => .fault

/-- A flag that may be absent or null and then counts as false. -/
def optionalFlag (part : Option Json) : Checked Bool := (optional readFlag part).map (·.getD false)

/-! ## Named references and type references -/

/-- The `name` of an object. -/
def readNamed : Json → Checked String
  | .obj entries => required readText (Entries.get? entries "name")
  | _ => .fault

/-- The most wrappers that a type reference may have. -/
def maxWrappers : Nat := 252

/-- A reference with that name and perhaps something inside. -/
def makeRef (kind : String) (name : Option String) (inner : Option TypeRef) : TypeRef :=
  match inner with
  | none => .leaf (.ofWord kind) name
  | some inner => .wrap (.ofWord kind) name inner

/-- A type reference of at most `wrappers` wrappers; one wrapper too many is a single fault. -/
def readRef : (wrappers : Nat) → Json → Checked TypeRef
  | wrappers, .obj entries =>
    makeRef <$> required readText (Entries.get? entries "kind")
      <*> optional readText (Entries.get? entries "name")
      <*> match wrappers with
        | 0 => optional (fun _ => .fault) (member? entries "ofType" "of_type")
        | wrappers + 1 => optional (readRef wrappers) (member? entries "ofType" "of_type")
  | _, _ => .fault

/-! ## Entries -/

/-- A field or an input field. -/
def readField : Json → Checked Field
  | .obj entries =>
    Field.mk <$> required readText (Entries.get? entries "name")
      <*> required (readRef maxWrappers) (Entries.get? entries "type")
      <*> optional readText (Entries.get? entries "description")
      <*> optionalFlag (member? entries "isDeprecated" "is_deprecated")
  | _ => .fault

/-- A value of an enumeration. -/
def readEnumValue : Json → Checked EnumValue
  | .obj entries =>
    EnumValue.mk <$> required readText (Entries.get? entries "name")
      <*> optional readText (Entries.get? entries "description")
      <*> optionalFlag (member? entries "isDeprecated" "is_deprecated")
  | _ => .fault

end Entry

open Entry in
/-- One element of the `types` array. -/
def readEntry : Json → Checked Entry
  | .obj entries =>
    Entry.mk <$> required readText (Entries.get? entries "kind")
      <*> required readText (Entries.get? entries "name")
      <*> optional readText (Entries.get? entries "description")
      <*> optionalList readField (Entries.get? entries "fields")
      <*> optionalList readField (member? entries "inputFields" "input_fields")
      <*> optionalList readEnumValue (member? entries "enumValues" "enum_values")
      <*> optionalList readNamed (Entries.get? entries "interfaces")
      <*> optionalList readNamed (member? entries "possibleTypes" "possible_types")
  | _ => .fault

/-- The type that an entry describes; none if its kind is no kind of named types. -/
def Entry.toType? (e : Entry) : Option NamedType :=
  (TypeKind.ofWord? e.kind).map fun kind =>
    { name := e.name
      description := e.description
      body :=
        match kind with
        | .scalar => .scalar
        | .enum => .enum e.enumValues
        | .object => .object e.fields e.interfaces
        | .interface => .interface e.fields e.possibleTypes
        | .union => .union e.possibleTypes
        | .inputObject => .inputObject e.inputFields }

end GraphQLCache
