import GraphQLCache.Name
import GraphQLCache.Sdl.BlockText
import GraphQLCache.Sdl.Token
import GraphQLCache.Text.Unit16

/-!
# Lexer — the tokens of a text

`tokens` reads a text as tokens, the end of the text or the first lexical fault being the last one. Blanks,
commas, byte order marks and comments separate tokens.
-/

namespace GraphQLCache.Sdl

open Text (hexValue? unitValue? isHighUnit isLowUnit charOfPair)

/-- A lexical fault and the characters from where it is seen. -/
structure LexStop where
  fault : LexicalFault
  seen : List Char
deriving DecidableEq, Repr

/-- What is read, and the characters behind it. -/
abbrev LexStep (α : Type) := Except LexStop (α × List Char)

/-- A fault seen at the beginning of `cs`. -/
def lexFault {α : Type} (fault : LexicalFault) (cs : List Char) : LexStep α := .error ⟨fault, cs⟩

/-! ## Separators -/

/-- A character that ends a line. -/
def isLineEnd (c : Char) : Bool := c = '\n' || c = '\r'

/-- A character that only separates tokens. -/
def isSeparator (c : Char) : Bool := isLineEnd c || c = ' ' || c = '\t' || c = ',' || c = '\ufeff'

/-- `cs` from its first character that belongs to a token; `inComment` says that `cs` begins inside a
    comment, which ends with the line. -/
def skipSeparators (inComment : Bool) : List Char → List Char
  | [] => []
  | c :: rest =>
    if inComment then skipSeparators (!isLineEnd c) rest
    else if c = '#' then skipSeparators true rest
    else if isSeparator c then skipSeparators false rest
    else c :: rest

/-! ## Numbers -/

/-- At least one digit. -/
def readDigits (cs : List Char) : LexStep (List Char) :=
  let ds := cs.takeWhile Char.isDigit
  if ds.isEmpty then lexFault (.digitExpected cs.head?) cs else .ok (ds, cs.dropWhile Char.isDigit)

/-- The digits before the point: a lone zero, or digits that begin with another one. -/
def readWhole (cs : List Char) : LexStep (List Char) :=
  match cs with
  | '0' :: rest =>
    match rest with
    | c :: _ => if c.isDigit then lexFault (.digitAfterZero (some c)) rest else .ok (['0'], rest)
    | [] => .ok (['0'], rest)
  | _ => readDigits cs

/-- A point with digits behind it, if there is a point. -/
def readFraction (cs : List Char) : LexStep (List Char) :=
  match cs with
  | '.' :: rest => (readDigits rest).map fun r => ('.' :: r.1, r.2)
  | _ => .ok ([], cs)

/-- An exponent mark with a sign and digits behind it, if there is a mark. -/
def readExponent (cs : List Char) : LexStep (List Char) :=
  match cs with
  | [] => .ok ([], cs)
  | mark :: rest =>
    if mark = 'e' ∨ mark = 'E' then
      match rest with
      | sign :: digits =>
        if sign = '+' ∨ sign = '-' then (readDigits digits).map fun r => (mark :: sign :: r.1, r.2)
        else (readDigits rest).map fun r => (mark :: r.1, r.2)
      | [] => (readDigits rest).map fun r => (mark :: r.1, r.2)
    else .ok ([], cs)

/-- A number, which no name and no point may follow directly. -/
def readNumberToken (cs : List Char) : Except LexStop (Lexeme × List Char) := do
  let (sign, body) :=
    match cs with
    | '-' :: rest => (['-'], rest)
    | _ => ([], cs)
  let (whole, rest) ← readWhole body
  let (fraction, rest) ← readFraction rest
  let (exponent, rest) ← readExponent rest
  let digits := String.ofList (sign ++ whole ++ fraction ++ exponent)
  let lexeme := if fraction.isEmpty && exponent.isEmpty then Lexeme.int digits else Lexeme.float digits
  match rest with
  | c :: _ =>
    if c = '.' || isNameStart c then lexFault (.digitExpected (some c)) rest else .ok (lexeme, rest)
  | [] => .ok (lexeme, rest)

/-! ## Quoted texts -/

/-- The character that a two-character escape stands for. -/
def escapedChar? (c : Char) : Option Char :=
  if c = '"' ∨ c = '\\' ∨ c = '/' then some c
  else if c = 'b' then some '\x08'
  else if c = 'f' then some '\x0c'
  else if c = 'n' then some '\n'
  else if c = 'r' then some '\r'
  else if c = 't' then some '\t'
  else none

/-- The rest of an escape in braces, of at most `room` more characters. `taken` characters were read since
    the backslash and spell `code` so far. A failure tells how many characters the escape was read to. -/
def readBracedCode (taken code : Nat) : (room : Nat) → List Char → Except Nat (Char × List Char)
  | 0, _ => .error taken
  | _ + 1, [] => .error taken
  | room + 1, c :: rest =>
    if c = '\x7d' then
      if taken = 3 ∨ ¬ code.isValidChar then .error (taken + 1) else .ok (Char.ofNat code, rest)
    else
      match hexValue? c with
      | none => .error (taken + 1)
      | some digit => readBracedCode (taken + 1) (16 * code + digit) room rest

/-- The unit that the first four characters spell in hexadecimal digits, and the characters behind them. -/
def readUnit? : List Char → Option (Nat × List Char)
  | a :: b :: c :: d :: rest => (unitValue? a b c d).map fun unit => (unit, rest)
  | _ => none

/-- The low unit of a pair that an escape at the beginning of `cs` spells, and the characters behind it. -/
def readLowUnit? (cs : List Char) : Option (Nat × List Char) :=
  match cs with
  | '\\' :: 'u' :: rest => (readUnit? rest).filter fun r => isLowUnit r.1
  | _ => none

/-- The character that four digits stand for, or two times four digits that make a pair. -/
def readUnits? (cs : List Char) : Option (Char × List Char) :=
  (readUnit? cs).bind fun (unit, rest) =>
    if unit.isValidChar then some (Char.ofNat unit, rest)
    else if isHighUnit unit then
      (readLowUnit? rest).map fun (low, rest) => (charOfPair unit low, rest)
    else none

/-- An escape at the beginning of `cs`, which is its backslash: a character by its code point in braces, by
    four digits, by two times four digits that make a pair, or by a letter. A fault shows the escape as far
    as the text goes, and of a pair the first half. -/
def readEscape (cs : List Char) : LexStep Char :=
  match cs with
  | '\\' :: 'u' :: '\x7b' :: rest =>
    match readBracedCode 3 0 9 rest with
    | .ok r => .ok r
    | .error size => lexFault (.unicodeEscape (String.ofList (cs.take size))) cs
  | '\\' :: 'u' :: rest =>
    match readUnits? rest with
    | some r => .ok r
    | none => lexFault (.unicodeEscape (String.ofList (cs.take 6))) cs
  | _ :: c :: rest =>
    match escapedChar? c with
    | some e => .ok (e, rest)
    | none => lexFault (.characterEscape (String.ofList (cs.take 2))) cs
  | _ => lexFault (.characterEscape (String.ofList cs)) cs

/-- A quoted text up to its closing quote. Every character costs one unit of fuel at most. -/
def readQuoted : (fuel : Nat) → List Char → Except LexStop (List Char × List Char)
  | 0, cs => lexFault .unterminatedText cs
  | fuel + 1, cs =>
    match cs with
    | [] => lexFault .unterminatedText cs
    | '"' :: rest => .ok ([], rest)
    | '\\' :: _ => do
      let (c, rest) ← readEscape cs
      (readQuoted fuel rest).map fun r => (c :: r.1, r.2)
    | c :: rest =>
      if isLineEnd c then lexFault .unterminatedText cs
      else (readQuoted fuel rest).map fun r => (c :: r.1, r.2)

/-- The lines of a block text up to its closing quotes; `current` is the line being read, last character
    first. Three quotes behind a backslash stand for themselves. -/
def readBlockLines (current : List Char) : List Char → LexStep (List (List Char))
  | [] => lexFault .unterminatedText []
  | '"' :: '"' :: '"' :: rest => .ok ([current.reverse], rest)
  | '\\' :: '"' :: '"' :: '"' :: rest => readBlockLines ('"' :: '"' :: '"' :: current) rest
  | '\r' :: '\n' :: rest => (readBlockLines [] rest).map fun r => (current.reverse :: r.1, r.2)
  | c :: rest =>
    if isLineEnd c then (readBlockLines [] rest).map fun r => (current.reverse :: r.1, r.2)
    else readBlockLines (c :: current) rest

/-! ## Tokens -/

/-- Three points at the beginning of `cs`, of which `behind` is what follows the first one. Two points and a
    point in front of digits are faults that name what may be meant. -/
def readPoints (behind cs : List Char) : LexStep Lexeme :=
  match behind with
  | '.' :: '.' :: rest => .ok (.punctuator .spread, rest)
  | '.' :: _ => lexFault .shortSpread cs
  | _ =>
    let digits := behind.takeWhile Char.isDigit
    if digits.isEmpty then lexFault (.unexpectedCharacter '.') cs
    else lexFault (.digitsAfterPoint (String.ofList digits)) cs

/-- The token at the beginning of `cs`, which is no separator. -/
def readLexeme (cs : List Char) : LexStep Lexeme :=
  match cs with
  | [] => .ok (.ending, [])
  | '"' :: '"' :: '"' :: rest =>
    (readBlockLines [] rest).map fun r =>
      (.blockText (String.ofList (BlockText.joinLines (BlockText.dedent r.1))), r.2)
  | '"' :: rest => (readQuoted (rest.length + 1) rest).map fun r => (.text (String.ofList r.1), r.2)
  | '.' :: rest => readPoints rest cs
  | c :: rest =>
    match Punctuator.ofChar? c with
    | some mark => .ok (.punctuator mark, rest)
    | none =>
      if c.isDigit || c = '-' then readNumberToken cs
      else if isNameStart c then
        .ok (.name (String.ofList (cs.takeWhile isNameRest)), cs.dropWhile isNameRest)
      else if c = '\'' then lexFault .singleQuote cs
      else lexFault (.unexpectedCharacter c) cs

/-- The tokens of `cs`. Every token is longer than nothing, so fuel beyond the length never runs out. -/
def tokensFrom : (fuel : Nat) → List Char → List Token
  | 0, _ => []
  | fuel + 1, cs =>
    let cs := skipSeparators false cs
    match readLexeme cs with
    | .error stop => [⟨.broken stop.fault, stop.seen.length⟩]
    | .ok (.ending, _) => [⟨.ending, 0⟩]
    | .ok (lexeme, rest) => ⟨lexeme, cs.length⟩ :: tokensFrom fuel rest

/-- The tokens of a text. -/
def tokens (cs : List Char) : List Token := tokensFrom (cs.length + 1) cs

end GraphQLCache.Sdl
