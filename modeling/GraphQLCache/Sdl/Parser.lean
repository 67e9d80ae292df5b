import GraphQLCache.Sdl.Cursor
import GraphQLCache.Sdl.Standard

/-!
# Parser — documents from tokens

One reader for each part of the grammar. Values, selections and wrapped types nest, up to `maxDepth`; their
readers take the number of levels that are left. `parseDocument` reads a whole text and gives the offset of
the first fault.
-/

namespace GraphQLCache.Sdl

/-- The most levels to which values, selections or the wrappers of a type nest. -/
def maxDepth : Nat := 200

namespace Reader

/-! ## Descriptions, values and directives -/

/-- Whether the cursor is on a quoted text. -/
def atText? : Reader Bool := do
  match ← lexeme with
  | .text _ => return true
  | .blockText _ => return true
  | _ => return false

/-- A description, if there is one. -/
def description : Reader (Option String) := do
  match ← lexeme with
  | .text value =>
    advance
    return some value
  | .blockText value =>
    advance
    return some value
  | _ => return none

/-- The value that a bare word stands for. -/
def wordValue (word : String) : Literal :=
  if word = "true" then .bool true
  else if word = "false" then .bool false
  else if word = "null" then .null
  else .enum word

/-- A variable behind its mark; a constant value admits none. -/
def parameter (constant : Bool) : Reader Literal := do
  let mark ← current
  advance
  if constant then
    match ← lexeme with
    | .name word => stopAt mark (.variableInConstant word)
    | _ => unexpected mark
  else
    return .parameter (← name)

/-- A value that opens no further level. -/
def flatValue (constant : Bool) : Reader Literal := do
  match ← lexeme with
  | .punctuator .bracketOpen => tooDeepHere
  | .punctuator .braceOpen => tooDeepHere
  | .punctuator .dollar => parameter constant
  | .int digits =>
    advance
    return .int digits
  | .float digits =>
    advance
    return .float digits
  | .text value =>
    advance
    return .text value
  | .blockText value =>
    advance
    return .blockText value
  | .name word =>
    advance
    return wordValue word
  | _ => unexpectedHere

/-- A value of as many levels at most. -/
def value (constant : Bool) : (levels : Nat) → Reader Literal
  | 0 => flatValue constant
  | levels + 1 => do
    match ← lexeme with
    | .punctuator .bracketOpen =>
      return .list (← anyNumber .bracketOpen .bracketClose (value constant levels))
    | .punctuator .braceOpen =>
      let field : Reader (String × Literal) := do
        let key ← name
        expect .colon
        return (key, ← value constant levels)
      return .object (← anyNumber .braceOpen .braceClose field)
    | _ => flatValue constant

/-- An argument with its value. -/
def argument (constant : Bool) (levels : Nat) : Reader Argument := do
  let key ← name
  expect .colon
  let left := (← current).left
  return ⟨key, ← value constant levels, left⟩

/-- Arguments in parentheses, if there are any. -/
def arguments (constant : Bool) (levels : Nat) : Reader (List Argument) :=
  optionalMany .parenOpen .parenClose (argument constant levels)

/-- The directives that come next. -/
def directivesFrom (constant : Bool) (levels : Nat) : (fuel : Nat) → Reader (List Directive)
  | 0 => return []
  | fuel + 1 => do
    let left := (← current).left
    if ← skip? .atSign then
      let directive : Directive := ⟨← name, ← arguments constant levels, left⟩
      let rest ← directivesFrom constant levels fuel
      return directive :: rest
    return []

/-- The directives that come next, inside an operation. -/
def appliedDirectives (levels : Nat) : Reader (List Directive) := do
  directivesFrom false levels (← room)

/-- The directives that come next, of which the arguments are constant. -/
def directives : Reader (List Directive) := do
  directivesFrom true maxDepth (← room)

/-- A constant value behind an equals sign, if there is one. -/
def defaultValue : Reader (Option Literal) := do
  if ← skip? .equals then return some (← value true maxDepth)
  return none

/-! ## Types -/

/-- A type whose brackets hold what `element` reads. -/
def typeAround (element : Reader TypeExpr) : Reader TypeExpr := do
  let inner ←
    if ← skip? .bracketOpen then
      let element ← element
      expect .bracketClose
      pure (TypeExpr.listOf element)
    else
      pure (TypeExpr.named (← name))
  if ← skip? .bang then
    return .nonNull inner
  return inner

/-- A type of as many brackets at most. -/
def typeExprFrom : (levels : Nat) → Reader TypeExpr
  | 0 => typeAround tooDeepHere
  | levels + 1 => typeAround (typeExprFrom levels)

/-- A type with its wrappers. -/
def typeExpr : Reader TypeExpr := typeExprFrom maxDepth

/-- An argument of a field or a directive, or a field of an input object. -/
def inputDefinition : Reader InputDefinition := do
  let description ← description
  let name ← name
  expect .colon
  let type ← typeExpr
  let default ← defaultValue
  let directives ← directives
  return ⟨description, name, type, default, directives⟩

/-- Argument definitions in parentheses, if there are any. -/
def argumentDefinitions : Reader (List InputDefinition) :=
  optionalMany .parenOpen .parenClose inputDefinition

/-- A field of an object or an interface. -/
def fieldDefinition : Reader FieldDefinition := do
  let description ← description
  let name ← name
  let arguments ← argumentDefinitions
  expect .colon
  let type ← typeExpr
  let directives ← directives
  return ⟨description, name, arguments, type, directives⟩

/-- The words that name no enumeration value. -/
def reservedValues : List String := ["true", "false", "null"]

/-- A value of an enumeration. -/
def enumValueDefinition : Reader EnumValueDefinition := do
  let description ← description
  let token ← current
  match token.lexeme.value? with
  | some word => if reservedValues.contains word then stopAt token (.reservedEnumValue word)
  | none => pure ()
  let name ← name
  let directives ← directives
  return ⟨description, name, directives⟩

/-- The interfaces that a type implements. -/
def interfaces : Reader (List String) := do
  if ← skipWord? "implements" then delimited .amp name else return []

/-- The fields of an object or an interface. -/
def fields : Reader (List FieldDefinition) := optionalMany .braceOpen .braceClose fieldDefinition

/-- The interfaces, the directives and the fields of an object or an interface. -/
def fielded (make : List String → List FieldDefinition → Content) : Reader (List Directive × Content) := do
  let interfaces ← interfaces
  let directives ← directives
  return (directives, make interfaces (← fields))

/-- The keywords of the kinds of types. -/
def typeWords : List String := ["scalar", "type", "interface", "union", "enum", "input"]

/-- What follows the name of a type, by its keyword. -/
def typeBody (word : String) : Reader (List Directive × Content) := do
  if word = "type" then fielded .object
  else if word = "interface" then fielded .interface
  else
    let directives ← directives
    if word = "union" then
      let members ← if ← skip? .equals then delimited .pipe name else pure []
      return (directives, .union members)
    else if word = "enum" then
      return (directives, .enum (← optionalMany .braceOpen .braceClose enumValueDefinition))
    else if word = "input" then
      return (directives, .input (← optionalMany .braceOpen .braceClose inputDefinition))
    else
      return (directives, .scalar)

/-- The definition of a type behind its description. -/
def declaration (description : Option String) (word : String) : Reader Declaration := do
  expectWord word
  let name ← name
  let (directives, content) ← typeBody word
  return ⟨description, name, directives, content⟩

/-! ## Schemas and directives -/

/-- The operation that a keyword names. -/
def operationWord : Reader Operation := do
  let token ← current
  let word ← name
  match Operation.ofWord? word with
  | some operation => return operation
  | none => unexpected token

/-- The root type of an operation. -/
def rootDeclaration : Reader RootDeclaration := do
  let operation ← operationWord
  expect .colon
  return (operation, ← name)

/-- The definition of a schema behind its description. -/
def schemaDefinition : Reader Definition := do
  expectWord "schema"
  let directives ← directives
  return .schema directives (← many .braceOpen .braceClose rootDeclaration)

/-- A place where a directive may stand. -/
def directiveLocation : Reader String := do
  let token ← current
  let word ← name
  if directiveLocations.contains word then return word
  unexpected token

/-- The definition of a directive behind its description. -/
def directiveDefinition (description : Option String) : Reader Definition := do
  expectWord "directive"
  expect .atSign
  let name ← name
  let arguments ← argumentDefinitions
  let directives ← directives
  let repeatable ← skipWord? "repeatable"
  expectWord "on"
  let locations ← delimited .pipe directiveLocation
  return .directive ⟨description, name, arguments, directives, repeatable, locations⟩

/-! ## Extensions -/

/-- Whether an extension adds nothing to a type. -/
def addsNothing (directives : List Directive) : Content → Bool
  | .scalar => directives.isEmpty
  | .object interfaces fields => interfaces.isEmpty && directives.isEmpty && fields.isEmpty
  | .interface interfaces fields => interfaces.isEmpty && directives.isEmpty && fields.isEmpty
  | .union members => directives.isEmpty && members.isEmpty
  | .enum values => directives.isEmpty && values.isEmpty
  | .input fields => directives.isEmpty && fields.isEmpty

/-- An extension of the schema, of a type or of a directive; one that adds nothing is cut off where it
    ends. -/
def extension : Reader Definition := do
  let token ← lookAhead
  match token.lexeme with
  | .name word =>
    if word = "schema" then
      advance
      expectWord word
      let directives ← directives
      let roots ← optionalMany .braceOpen .braceClose rootDeclaration
      if directives.isEmpty && roots.isEmpty then unexpectedHere
      return .extendSchema directives roots
    else if typeWords.contains word then
      advance
      let declaration ← declaration none word
      if addsNothing declaration.directives declaration.content then unexpectedHere
      return .extendType declaration
    else if word = "directive" then
      advance
      expectWord word
      expect .atSign
      let name ← name
      let directives ← directives
      if directives.isEmpty then unexpectedHere
      return .extendDirective name directives
    else unexpected token
  | _ => unexpected token

/-! ## Operations and fragments -/

/-- The name of a fragment, which is not the keyword `on`. -/
def fragmentName : Reader String := do
  if (← lexeme).value? = some "on" then unexpectedHere
  name

/-- A selection inside which values nest as many levels at most and `below` reads selections. -/
def selection (levels : Nat) (below : Reader (List OperationSelection)) : Reader OperationSelection := do
  if ← skip? .spread then
    let conditioned ← skipWord? "on"
    match conditioned, ← lexeme with
    | false, .name _ =>
      let fragment ← fragmentName
      return .spread fragment (← appliedDirectives levels)
    | _, _ =>
      let type ← if conditioned then some <$> name else pure none
      let directives ← appliedDirectives levels
      return .inlineOn type directives (← below)
  else
    let first ← name
    let (shown, field) ← if ← skip? .colon then pure (some first, ← name) else pure (none, first)
    let arguments ← arguments false levels
    let directives ← appliedDirectives levels
    let selections ← if ← at? .braceOpen then below else pure []
    return .field shown field arguments directives selections

/-- Selections in braces, perhaps none, of as many levels at most. -/
def selectionsFrom : (levels : Nat) → Reader (List OperationSelection)
  | 0 => tooDeepHere
  | levels + 1 => anyNumber .braceOpen .braceClose (selection levels (selectionsFrom levels))

/-- A selection set. -/
def selectionSet : Reader (List OperationSelection) := selectionsFrom maxDepth

/-- A variable of an operation. -/
def parameterDefinition : Reader ParameterDefinition := do
  let _ ← description
  expect .dollar
  let name ← name
  expect .colon
  let type ← typeExpr
  let default ← defaultValue
  let directives ← directives
  return ⟨name, type, default, directives⟩

/-- An operation with its keyword. -/
def operationDefinition : Reader Definition := do
  let operation ← operationWord
  match ← lexeme with
  | .name _ => advance
  | _ => pure ()
  let parameters ← optionalMany .parenOpen .parenClose parameterDefinition
  let directives ← appliedDirectives maxDepth
  return .operation operation parameters directives (← selectionSet)

/-- A fragment. -/
def fragmentDefinition : Reader Definition := do
  expectWord "fragment"
  let fragment ← fragmentName
  expectWord "on"
  let type ← name
  let directives ← appliedDirectives maxDepth
  return .fragment fragment type directives (← selectionSet)

/-! ## Documents -/

/-- A definition that begins, behind a description, with a keyword. -/
def keywordDefinition (described : Bool) (keyword : Token) (word : String) : Reader Definition := do
  let start ← current
  if word = "schema" then
    let _ ← description
    schemaDefinition
  else if typeWords.contains word then
    let description ← description
    return .type (← declaration description word)
  else if word = "directive" then
    let description ← description
    directiveDefinition description
  else if (Operation.ofWord? word).isSome then
    let _ ← description
    operationDefinition
  else if word = "fragment" then
    let _ ← description
    fragmentDefinition
  else if described then stopAt start .misplacedDescription
  else if word = "extend" then extension
  else unexpected keyword

/-- A definition. -/
def definition : Reader Definition := do
  let described ← atText?
  let keyword ← if described then lookAhead else current
  match keyword.lexeme with
  | .punctuator .braceOpen =>
    if described then stopAt (← current) .describedShorthand
    return .operation .query [] [] (← selectionSet)
  | .name word => keywordDefinition described keyword word
  | _ => unexpected keyword

/-- Definitions up to the end of the text, at least one. -/
def definitions : (fuel : Nat) → Reader Document
  | 0 => unexpectedHere
  | fuel + 1 => do
    let first ← definition
    if (← lexeme) = .ending then return [first]
    return first :: (← definitions fuel)

end Reader

/-- The first cursor of a text. -/
def Cursor.ofTokens : List Token → Except SyntaxStop Cursor
  | [] => .ok ⟨endToken, []⟩
  | ⟨.broken fault, left⟩ :: _ => .error ⟨.lexical fault, left⟩
  | token :: ahead => .ok ⟨token, ahead⟩

/-- The document that a text spells. -/
def parseDocument (cs : List Char) : Except SyntaxStop Document := do
  let start ← Cursor.ofTokens (tokens cs)
  let (document, _) ← (do Reader.definitions (← Reader.room) : Reader Document) start
  return document

end GraphQLCache.Sdl
