import GraphQLCache.Json.Basic
import GraphQLCache.Json.Number
import GraphQLCache.Text.Lines
import GraphQLCache.Text.Unit16

/-!
# JSON reader — text to values, with the place of the first fault

A recursive reader over the characters that are left. A fault carries how many characters were left where
it was seen, which `readJson` turns into an offset, a line and a column. `NaN`, `Infinity` and `-Infinity`
are read as doubles; a repeated key keeps its first place and its last value; an integer may have at most
4300 digits.
-/

namespace GraphQLCache

open Text (unitValue? isHighUnit isLowUnit charOfUnit charOfPair)

/-! ## Faults -/

/-- What a reader may find wrong with a text. -/
inductive JsonFault where
  | value
  | propertyName
  | colon
  | comma
  | extraData
  | unterminatedString
  | controlCharacter
  | escape
  | unicodeEscape
  | byteOrderMark
deriving DecidableEq, Repr

/-- The words for a fault. -/
def JsonFault.message : JsonFault → String
  | .value => "Expecting value"
  | .propertyName => "Expecting property name enclosed in double quotes"
  | .colon => "Expecting ':' delimiter"
  | .comma => "Expecting ',' delimiter"
  | .extraData => "Extra data"
  | .unterminatedString => "Unterminated string starting at"
  | .controlCharacter => "Invalid control character at"
  | .escape => "Invalid \\escape"
  | .unicodeEscape => "Invalid \\uXXXX escape"
  | .byteOrderMark => "Unexpected UTF-8 BOM (decode using utf-8-sig)"

/-- Why reading stopped: a fault with the number of characters left there, or an integer too long. -/
inductive JsonStop where
  | fault (fault : JsonFault) (left : Nat)
  | tooManyDigits (count : Nat)
deriving DecidableEq, Repr

/-- Why a text is not read as a value. -/
inductive JsonError where
  | malformed (fault : JsonFault) (offset : Nat) (position : Text.Position)
  | tooManyDigits (count : Nat)
deriving DecidableEq, Repr

/-- The words for an error, with its place. -/
def JsonError.message : JsonError → String
  | .malformed fault offset position =>
    fault.message ++ ": line " ++ toString position.line ++ " column " ++ toString position.column
      ++ " (char " ++ toString offset ++ ")"
  | .tooManyDigits count =>
    "Exceeds the limit (4300 digits) for integer string conversion: value has " ++ toString count
      ++ " digits; use sys.set_int_max_str_digits() to increase the limit"

/-- A part of a reader: what is read and the characters left after it. -/
abbrev JsonStep (α : Type) := Except JsonStop (α × List Char)

/-- A fault at the beginning of `cs`. -/
def faultAt {α : Type} (fault : JsonFault) (cs : List Char) : JsonStep α :=
  .error (.fault fault cs.length)

/-! ## Blanks, digits and numbers -/

/-- The blanks that may stand between tokens. -/
def isJsonBlank (c : Char) : Bool := c = ' ' || c = '\t' || c = '\n' || c = '\r'

/-- `cs` from its first character that is no blank. -/
def skipBlanks (cs : List Char) : List Char := cs.dropWhile isJsonBlank

/-- A digit from zero to nine. -/
def isDigit (c : Char) : Bool := '0' ≤ c && c ≤ '9'

/-- The number that ASCII digits spell. -/
def asciiToNat (ds : List Char) : Nat := ds.foldl (fun n d => 10 * n + (d.toNat - 0x30)) 0

/-- The digits before the point: a lone zero, or digits that begin with another one. -/
def wholeDigits? : List Char → Option (List Char × List Char)
  | '0' :: rest => some (['0'], rest)
  | cs =>
    let ds := cs.takeWhile isDigit
    if ds.isEmpty then none else some (ds, cs.dropWhile isDigit)

/-- The digits after the point, if a point with a digit behind it comes next. -/
def fractionDigits? : List Char → Option (List Char × List Char)
  | '.' :: rest =>
    let ds := rest.takeWhile isDigit
    if ds.isEmpty then none else some (ds, rest.dropWhile isDigit)
  | _ => none

/-- The sign and the rest of what follows an exponent mark. -/
def exponentSign : List Char → Bool × List Char
  | '-' :: rest => (true, rest)
  | '+' :: rest => (false, rest)
  | cs => (false, cs)

/-- The exponent, if a mark with digits behind it comes next. -/
def exponent? : List Char → Option (Int × List Char)
  | c :: rest =>
    if c = 'e' ∨ c = 'E' then
      let (negative, body) := exponentSign rest
      let ds := body.takeWhile isDigit
      if ds.isEmpty then none
      else
        let n : Int := asciiToNat ds
        some (if negative then -n else n, body.dropWhile isDigit)
    else none
  | [] => none

/-- The most digits an integer may have. -/
def maxJsonDigits : Nat := 4300

/-- A number; what is no number is a missing value. -/
def readNumber (cs : List Char) : JsonStep Json :=
  let (negative, body) :=
    match cs with
    | '-' :: rest => (true, rest)
    | _ => (false, cs)
  match wholeDigits? body with
  | none => faultAt .value cs
  | some (whole, rest) =>
    let fraction? := fractionDigits? rest
    let rest := (fraction?.map (·.2)).getD rest
    let exponent? := exponent? rest
    let rest := (exponent?.map (·.2)).getD rest
    if fraction?.isNone && exponent?.isNone then
      if maxJsonDigits < whole.length then .error (.tooManyDigits whole.length)
      else
        let n : Int := asciiToNat whole
        .ok (.int (if negative then -n else n), rest)
    else
      let fraction := (fraction?.map (·.1)).getD []
      let exponent := (exponent?.map (·.1)).getD 0
      .ok (.float (readFloat negative (asciiToNat (whole ++ fraction)) (exponent - fraction.length)), rest)

/-! ## Strings -/

/-- The character that a two-character escape stands for. -/
def unescape? (c : Char) : Option Char :=
  if c = '"' then some '"'
  else if c = '\\' then some '\\'
  else if c = '/' then some '/'
  else if c = 'b' then some '\x08'
  else if c = 'f' then some '\x0c'
  else if c = 'n' then some '\n'
  else if c = 'r' then some '\r'
  else if c = 't' then some '\t'
  else none

/-- The characters that units and code points spell: an escaped pair is one character. -/
def joinPairs : List Nat → List Char
  | [] => []
  | [unit] => [charOfUnit unit]
  | unit :: next :: rest =>
    if isHighUnit unit && isLowUnit next then charOfPair unit next :: joinPairs rest
    else charOfUnit unit :: joinPairs (next :: rest)

/-- `code` in front of what a step reads. -/
def consStep (code : Nat) (step : JsonStep (List Nat)) : JsonStep (List Nat) :=
  step.map fun r => (code :: r.1, r.2)

/-- The code points and escaped units of a string up to its closing quote; `opening` characters were left
    at its first. An escape of a unit must be followed by one more character. -/
def readUnits (opening : Nat) : List Char → JsonStep (List Nat)
  | [] => .error (.fault .unterminatedString opening)
  | '"' :: rest => .ok ([], rest)
  | ['\\'] => .error (.fault .unterminatedString opening)
  | '\\' :: 'u' :: a :: b :: c :: d :: next :: rest =>
    match unitValue? a b c d with
    | none => faultAt .unicodeEscape ('u' :: a :: b :: c :: d :: next :: rest)
    | some unit => consStep unit (readUnits opening (next :: rest))
  | '\\' :: 'u' :: rest => faultAt .unicodeEscape ('u' :: rest)
  | '\\' :: c :: rest =>
    match unescape? c with
    | none => faultAt .escape ('\\' :: c :: rest)
    | some e => consStep e.toNat (readUnits opening rest)
  | c :: rest =>
    if c.toNat < 0x20 then faultAt .controlCharacter (c :: rest)
    else consStep c.toNat (readUnits opening rest)

/-- A string behind its opening quote. -/
def readString (cs : List Char) : JsonStep String :=
  (readUnits (cs.length + 1) cs).map fun r => (String.ofList (joinPairs r.1), r.2)

/-! ## Values -/

mutual

/-- A value at the beginning of `cs`. Every character read pays for two steps at most, so fuel of twice
    the length never runs out. -/
def readValue : (fuel : Nat) → List Char → JsonStep Json
  | 0, cs => faultAt .value cs
  | fuel + 1, cs =>
    match cs with
    | '"' :: rest => (readString rest).map fun r => (.str r.1, r.2)
    | '\x7b' :: rest =>
      match skipBlanks rest with
      | '\x7d' :: rest => .ok (.obj [], rest)
      | rest => (readEntries fuel rest).map fun r => (.obj (Entries.ofPairs r.1), r.2)
    | '[' :: rest =>
      match skipBlanks rest with
      | ']' :: rest => .ok (.arr [], rest)
      | rest => (readItems fuel rest).map fun r => (.arr r.1, r.2)
    | 'n' :: 'u' :: 'l' :: 'l' :: rest => .ok (.null, rest)
    | 't' :: 'r' :: 'u' :: 'e' :: rest => .ok (.bool true, rest)
    | 'f' :: 'a' :: 'l' :: 's' :: 'e' :: rest => .ok (.bool false, rest)
    | 'N' :: 'a' :: 'N' :: rest => .ok (.float (0.0 / 0.0), rest)
    | 'I' :: 'n' :: 'f' :: 'i' :: 'n' :: 'i' :: 't' :: 'y' :: rest => .ok (.float (1.0 / 0.0), rest)
    | '-' :: 'I' :: 'n' :: 'f' :: 'i' :: 'n' :: 'i' :: 't' :: 'y' :: rest =>
      .ok (.float (-(1.0 / 0.0)), rest)
    | _ => readNumber cs

/-- The items of an array up to its closing bracket. -/
def readItems : (fuel : Nat) → List Char → Except JsonStop (List Json × List Char)
  | 0, cs => faultAt .value cs
  | fuel + 1, cs => do
    let (item, rest) ← readValue fuel cs
    match skipBlanks rest with
    | ']' :: rest => .ok ([item], rest)
    | ',' :: rest => (readItems fuel (skipBlanks rest)).map fun r => (item :: r.1, r.2)
    | rest => faultAt .comma rest

/-- The entries of an object up to its closing brace, repeated keys included. -/
def readEntries : (fuel : Nat) → List Char → Except JsonStop (List (String × Json) × List Char)
  | 0, cs => faultAt .propertyName cs
  | fuel + 1, cs =>
    match cs with
    | '"' :: rest => do
      let (key, rest) ← readString rest
      match skipBlanks rest with
      | ':' :: rest => do
        let (value, rest) ← readValue fuel (skipBlanks rest)
        match skipBlanks rest with
        | '\x7d' :: rest => .ok ([(key, value)], rest)
        | ',' :: rest => (readEntries fuel (skipBlanks rest)).map fun r => ((key, value) :: r.1, r.2)
        | rest => faultAt .comma rest
      | rest => faultAt .colon rest
    | _ => faultAt .propertyName cs

end

/-- A whole text: one value with blanks around it. -/
def readDocument (cs : List Char) : Except JsonStop Json :=
  match cs with
  | '\ufeff' :: _ => .error (.fault .byteOrderMark cs.length)
  | _ => do
    let (value, rest) ← readValue (2 * cs.length + 2) (skipBlanks cs)
    match skipBlanks rest with
    | [] => .ok value
    | rest => .error (.fault .extraData rest.length)

/-- The value that `cs` spells. -/
def readJson (cs : List Char) : Except JsonError Json :=
  match readDocument cs with
  | .ok value => .ok value
  | .error (.tooManyDigits count) => .error (.tooManyDigits count)
  | .error (.fault fault left) =>
    let offset := cs.length - left
    .error (.malformed fault offset (Text.positionAt cs offset))

end GraphQLCache
