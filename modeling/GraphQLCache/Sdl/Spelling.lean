import GraphQLCache.Sdl.Document
import GraphQLCache.Sdl.Token
import GraphQLCache.Text.Lines

/-!
# Spelling — literals as text

Faults quote the literals that they are about. A list or an object that does not fit one line has an item or
a field on each line, and a block text stands between three quotes with its own lines.
-/

namespace GraphQLCache.Sdl

namespace Spelling

/-! ## Quoted texts -/

/-- A character inside a quoted text. -/
def quoteChar (c : Char) : List Char :=
  if c = '"' then ['\\', '"']
  else if c = '\\' then ['\\', '\\']
  else if c = '\x08' then ['\\', 'b']
  else if c = '\t' then ['\\', 't']
  else if c = '\n' then ['\\', 'n']
  else if c = '\x0c' then ['\\', 'f']
  else if c = '\r' then ['\\', 'r']
  else if c.toNat < 0x20 ∨ (0x7F ≤ c.toNat ∧ c.toNat < 0xA0) then '\\' :: 'u' :: (hexCode c.toNat).toList
  else [c]

/-- A text in quotes. -/
def quoted (value : List Char) : List Char := '"' :: value.flatMap quoteChar ++ ['"']

/-! ## Block texts -/

/-- The three quotes around a block text. -/
def blockQuotes : List Char := ['"', '"', '"']

/-- A text with a backslash in front of every three quotes. -/
def escapeQuotes : List Char → List Char
  | [] => []
  | '"' :: '"' :: '"' :: rest => '\\' :: '"' :: '"' :: '"' :: escapeQuotes rest
  | c :: rest => c :: escapeQuotes rest

/-- Whether a line begins with a blank. -/
def beginsBlank (line : List Char) : Bool := line.head? = some ' ' || line.head? = some '\t'

/-- The longest block text that stands on the line of its quotes. -/
def maxInline : Nat := 70

/-- A block text in its quotes, on lines of its own where it has several, is long, or ends in a way that the
    closing quotes would make unclear. -/
def blockQuoted (value : List Char) : List Char :=
  let escaped := escapeQuotes value
  let lines := Text.lines escaped
  let isSingle := lines.length = 1
  let leads := !isSingle && (lines.drop 1).all fun line => line.isEmpty || beginsBlank line
  let endsInQuotes := ('\\' :: blockQuotes).isSuffixOf escaped
  let trails := (value.getLast? = some '"' && !endsInQuotes) || value.getLast? = some '\\'
  let spreads := !isSingle || maxInline < value.length || trails || leads || endsInQuotes
  let front := if leads || (spreads && !(isSingle && beginsBlank value)) then ['\n'] else []
  let back := if spreads then ['\n'] else []
  blockQuotes ++ front ++ escaped ++ back ++ blockQuotes

/-! ## Lists and objects -/

/-- The longest list or object that stands on one line. -/
def maxLine : Nat := 80

/-- A text on lines that begin two columns further in. -/
def indented (cs : List Char) : List Char :=
  ' ' :: ' ' :: cs.flatMap fun c => if c = '\n' then ['\n', ' ', ' '] else [c]

/-- Parts in brackets, `padding` inside the brackets where all stand on one line. -/
def bracketed (opening closing : Char) (padding : List Char) (parts : List (List Char)) : List Char :=
  let line := opening :: padding ++ [',', ' '].intercalate parts ++ padding ++ [closing]
  if line.length ≤ maxLine then line
  else opening :: '\n' :: indented (['\n'].intercalate parts) ++ ['\n', closing]

mutual

/-- The characters of a literal. -/
def chars : Literal → List Char
  | .parameter name => '$' :: name.toList
  | .int digits => digits.toList
  | .float digits => digits.toList
  | .text value => quoted value.toList
  | .blockText value => blockQuoted value.toList
  | .bool value => (if value then "true" else "false").toList
  | .null => "null".toList
  | .enum name => name.toList
  | .list items => bracketed '[' ']' [] (itemChars items)
  | .object fields => bracketed '\x7b' '\x7d' [' '] (fieldChars fields)

/-- The characters of each item. -/
def itemChars : List Literal → List (List Char)
  | [] => []
  | item :: rest => chars item :: itemChars rest

/-- The characters of each field. -/
def fieldChars : List (String × Literal) → List (List Char)
  | [] => []
  | (key, value) :: rest => (key.toList ++ ':' :: ' ' :: chars value) :: fieldChars rest

end

end Spelling

/-- The spelling of a literal. -/
def Literal.spelling (literal : Literal) : String := String.ofList (Spelling.chars literal)

end GraphQLCache.Sdl
