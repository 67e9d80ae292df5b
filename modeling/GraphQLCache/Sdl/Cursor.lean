import GraphQLCache.Sdl.Lexer

/-!
# Cursors — reading a text token by token

A cursor stands on a token. A `Reader` looks at that token and moves on, and stops with a `SyntaxFault` and
the place of the token at fault. A lexical fault stops a reader when it moves onto it, or looks ahead to it.
-/

namespace GraphQLCache.Sdl

/-! ## Faults -/

/-- What a reader expects. -/
inductive Wanted where
  | name
  | punctuator (mark : Punctuator)
  | keyword (word : String)
deriving DecidableEq, Repr

/-- What is expected, as messages show it. -/
def Wanted.describe : Wanted → String
  | .name => "Name"
  | .punctuator mark => "'" ++ mark.text ++ "'"
  | .keyword word => "'" ++ word ++ "'"

/-- What a reader may find wrong. -/
inductive SyntaxFault where
  | lexical (fault : LexicalFault)
  | unexpected (found : Lexeme)
  | expected (wanted : Wanted) (found : Lexeme)
  | reservedEnumValue (name : String)
  | variableInConstant (name : String)
  | describedShorthand
  | misplacedDescription
  | nestedTooDeeply
deriving DecidableEq, Repr

/-- The words for a fault. -/
def SyntaxFault.message : SyntaxFault → String
  | .lexical fault => fault.message
  | .unexpected found => "Unexpected " ++ found.describe ++ "."
  | .expected wanted found => "Expected " ++ wanted.describe ++ ", found " ++ found.describe ++ "."
  | .reservedEnumValue name =>
    "Name '" ++ name ++ "' is reserved and cannot be used for an enum value."
  | .variableInConstant name => "Unexpected variable '$" ++ name ++ "' in constant value."
  | .describedShorthand =>
    "Unexpected description, descriptions are not supported on shorthand queries."
  | .misplacedDescription =>
    "Unexpected description, only GraphQL definitions support descriptions."
  | .nestedTooDeeply => "Document is nested too deeply. Parsing aborted."

/-- A fault and the number of characters left where it lies. -/
structure SyntaxStop where
  fault : SyntaxFault
  left : Nat
deriving DecidableEq, Repr

/-! ## Cursors -/

/-- A token and the tokens behind it. -/
structure Cursor where
  token : Token
  ahead : List Token
deriving Repr

/-- The token at the end of the text. -/
def endToken : Token := ⟨.ending, 0⟩

/-- A reader of a part of a document. -/
abbrev Reader (α : Type) := StateT Cursor (Except SyntaxStop) α

namespace Reader

/-- Stop at a token. -/
def stopAt {α : Type} (token : Token) (fault : SyntaxFault) : Reader α :=
  fun _ => .error ⟨fault, token.left⟩

/-- The token under the cursor. -/
def current : Reader Token := fun c => .ok (c.token, c)

/-- Its lexeme. -/
def lexeme : Reader Lexeme := fun c => .ok (c.token.lexeme, c)

/-- The number of tokens that a loop from here may read, with one to spare. -/
def room : Reader Nat := fun c => .ok (c.ahead.length + 2, c)

/-- The next token; the end of the text is followed by itself. -/
def lookAhead : Reader Token := fun c =>
  match c.ahead with
  | [] => .ok (endToken, c)
  | next :: _ =>
    match next.lexeme with
    | .broken fault => .error ⟨.lexical fault, next.left⟩
    | _ => .ok (next, c)

/-- Move to the next token. -/
def advance : Reader Unit := fun c =>
  match c.ahead with
  | [] => .ok ((), ⟨endToken, []⟩)
  | next :: rest =>
    match next.lexeme with
    | .broken fault => .error ⟨.lexical fault, next.left⟩
    | _ => .ok ((), ⟨next, rest⟩)

/-- Stop at a token that fits nowhere. -/
def unexpected {α : Type} (token : Token) : Reader α := stopAt token (.unexpected token.lexeme)

/-- Stop at the current token, which fits nowhere. -/
def unexpectedHere {α : Type} : Reader α := do unexpected (← current)

/-- Stop at the current token, behind which nothing may nest any more. -/
def tooDeepHere {α : Type} : Reader α := do stopAt (← current) .nestedTooDeeply

/-! ## Punctuators, keywords and names -/

/-- Whether the cursor is on a punctuator. -/
def at? (mark : Punctuator) : Reader Bool := do
  return (← lexeme) = .punctuator mark

/-- Whether the cursor was on a punctuator, which is passed. -/
def skip? (mark : Punctuator) : Reader Bool := do
  if ← at? mark then
    advance
    return true
  return false

/-- Pass a punctuator. -/
def expect (mark : Punctuator) : Reader Unit := do
  unless ← skip? mark do
    let token ← current
    stopAt token (.expected (.punctuator mark) token.lexeme)

/-- Whether the cursor was on a keyword, which is passed. -/
def skipWord? (word : String) : Reader Bool := do
  if (← lexeme) = .name word then
    advance
    return true
  return false

/-- Pass a keyword. -/
def expectWord (word : String) : Reader Unit := do
  unless ← skipWord? word do
    let token ← current
    stopAt token (.expected (.keyword word) token.lexeme)

/-- A name. -/
def name : Reader String := do
  let token ← current
  match token.lexeme with
  | .name word =>
    advance
    return word
  | found => stopAt token (.expected .name found)

/-! ## Lists -/

/-- Items up to a closing punctuator, at least one. -/
def itemsUntil {α : Type} (close : Punctuator) (item : Reader α) : (fuel : Nat) → Reader (List α)
  | 0 => unexpectedHere
  | fuel + 1 => do
    let first ← item
    if ← skip? close then
      return [first]
    let rest ← itemsUntil close item fuel
    return first :: rest

/-- At least one item between punctuators. -/
def many {α : Type} (opening close : Punctuator) (item : Reader α) : Reader (List α) := do
  expect opening
  itemsUntil close item (← room)

/-- At least one item between punctuators, or nothing at all. -/
def optionalMany {α : Type} (opening close : Punctuator) (item : Reader α) : Reader (List α) := do
  if ← skip? opening then
    itemsUntil close item (← room)
  else
    return []

/-- Any number of items between punctuators. -/
def anyNumber {α : Type} (opening close : Punctuator) (item : Reader α) : Reader (List α) := do
  expect opening
  if ← skip? close then
    return []
  else
    itemsUntil close item (← room)

/-- Items with a punctuator between each two. -/
def itemsBetween {α : Type} (mark : Punctuator) (item : Reader α) : (fuel : Nat) → Reader (List α)
  | 0 => unexpectedHere
  | fuel + 1 => do
    let first ← item
    if ← skip? mark then
      let rest ← itemsBetween mark item fuel
      return first :: rest
    return [first]

/-- At least one item, a punctuator between each two and perhaps before the first. -/
def delimited {α : Type} (mark : Punctuator) (item : Reader α) : Reader (List α) := do
  let _ ← skip? mark
  itemsBetween mark item (← room)

end Reader

end GraphQLCache.Sdl
