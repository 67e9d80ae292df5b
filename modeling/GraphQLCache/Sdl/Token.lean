/-!
# Tokens — the words of the schema definition language

A token is a punctuator, a name, a number or a quoted text, or the end of the text. Numbers keep the
characters they were written with. Where no token can be read, a `LexicalFault` stands in its place, so a
fault behind the point where reading stops is never reported.
-/

namespace GraphQLCache.Sdl

/-! ## Punctuators -/

/-- The punctuators. -/
inductive Punctuator where
  | bang
  | dollar
  | amp
  | parenOpen
  | parenClose
  | spread
  | colon
  | equals
  | atSign
  | bracketOpen
  | bracketClose
  | braceOpen
  | pipe
  | braceClose
deriving DecidableEq, Repr

namespace Punctuator

/-- The characters of a punctuator. -/
def text : Punctuator → String
  | .bang => "!"
  | .dollar => "$"
  | .amp => "&"
  | .parenOpen => "("
  | .parenClose => ")"
  | .spread => "..."
  | .colon => ":"
  | .equals => "="
  | .atSign => "@"
  | .bracketOpen => "["
  | .bracketClose => "]"
  | .braceOpen => "\x7b"
  | .pipe => "|"
  | .braceClose => "\x7d"

/-- The punctuators of one character. -/
def singles : List (Char × Punctuator) :=
  [('!', .bang), ('$', .dollar), ('&', .amp), ('(', .parenOpen), (')', .parenClose), (':', .colon),
   ('=', .equals), ('@', .atSign), ('[', .bracketOpen), (']', .bracketClose), ('\x7b', .braceOpen),
   ('|', .pipe), ('\x7d', .braceClose)]

/-- The punctuator of one character. -/
def ofChar? (c : Char) : Option Punctuator := singles.lookup c

end Punctuator

/-! ## Lexical faults -/

/-- Why no token can be read. -/
inductive LexicalFault where
  | unexpectedCharacter (found : Char)
  | shortSpread
  | digitsAfterPoint (digits : String)
  | singleQuote
  | digitAfterZero (found : Option Char)
  | digitExpected (found : Option Char)
  | unterminatedText
  | characterEscape (escape : String)
  | unicodeEscape (escape : String)
deriving DecidableEq, Repr

/-- At least four upper-case hexadecimal digits. -/
def hexCode (code : Nat) : String :=
  let ds := (Nat.toDigits 16 code).map Char.toUpper
  String.ofList (List.replicate (4 - ds.length) '0' ++ ds)

/-- A character as messages show it: quoted if it is printable ASCII, else by its code point. -/
def showChar (c : Char) : String :=
  if c = '"' then "'\"'"
  else if ' ' ≤ c ∧ c ≤ '~' then "'" ++ String.singleton c ++ "'"
  else "U+" ++ hexCode c.toNat

/-- The word for the end of the text. -/
def endWord : String := "<EOF>"

/-- The next character, or the end of the text. -/
def showNext : Option Char → String
  | some c => showChar c
  | none => endWord

/-- The words for a lexical fault. -/
def LexicalFault.message : LexicalFault → String
  | .unexpectedCharacter c => "Unexpected character: " ++ showChar c ++ "."
  | .shortSpread => "Unexpected '..', did you mean '...'?"
  | .digitsAfterPoint digits =>
    "Invalid number, expected digit before '.', did you mean '0." ++ digits ++ "'?"
  | .singleQuote => "Unexpected single quote character ('), did you mean to use a double quote (\")?"
  | .digitAfterZero found => "Invalid number, unexpected digit after 0: " ++ showNext found ++ "."
  | .digitExpected found => "Invalid number, expected digit but got: " ++ showNext found ++ "."
  | .unterminatedText => "Unterminated string."
  | .characterEscape escape => "Invalid character escape sequence: '" ++ escape ++ "'."
  | .unicodeEscape escape => "Invalid Unicode escape sequence: '" ++ escape ++ "'."

/-! ## Tokens -/

/-- What a token is. -/
inductive Lexeme where
  | punctuator (mark : Punctuator)
  | name (word : String)
  | int (digits : String)
  | float (digits : String)
  | text (value : String)
  | blockText (value : String)
  | ending
  | broken (fault : LexicalFault)
deriving DecidableEq, Repr

/-- The name of a class of lexemes in messages. -/
def Lexeme.className : Lexeme → String
  | .punctuator mark => "'" ++ mark.text ++ "'"
  | .name _ => "Name"
  | .int _ => "Int"
  | .float _ => "Float"
  | .text _ => "String"
  | .blockText _ => "BlockString"
  | .ending => endWord
  | .broken _ => endWord

/-- The word that a lexeme carries. -/
def Lexeme.value? : Lexeme → Option String
  | .name word => some word
  | .int digits => some digits
  | .float digits => some digits
  | .text value => some value
  | .blockText value => some value
  | _ => none

/-- A lexeme as messages show it. -/
def Lexeme.describe (l : Lexeme) : String :=
  match l.value? with
  | some value => l.className ++ " '" ++ value ++ "'"
  | none => l.className

/-- A lexeme and the number of characters left where it begins or, for a fault, where it is seen. -/
structure Token where
  lexeme : Lexeme
  left : Nat
deriving DecidableEq, Repr

end GraphQLCache.Sdl
