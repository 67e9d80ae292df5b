import GraphQLCache.Json.Basic
import GraphQLCache.Json.Number
import GraphQLCache.Text.Utf8

/-!
# JSON printer — compact and indented text

`Json.dump` writes a value on one line, `Json.pretty` over several lines with two spaces a level. Strings
are written in ASCII: control characters, quotes, backslashes and all beyond the tilde are escaped, those
above the first plane as a pair of sixteen-bit units. `Json.dumpRaw` is `dump` without the escapes that
ASCII forces: only quotes, backslashes and controls below the space are escaped.
-/

namespace GraphQLCache

/-! ## Strings -/

/-- The two-character escapes. -/
def shortEscape? (c : Char) : Option Char :=
  if c = '"' then some '"'
  else if c = '\\' then some '\\'
  else if c = '\n' then some 'n'
  else if c = '\r' then some 'r'
  else if c = '\t' then some 't'
  else if c = '\x08' then some 'b'
  else if c = '\x0c' then some 'f'
  else none

/-- A sixteen-bit unit as an escape. -/
def unitEscape (unit : Nat) : List Char := '\\' :: 'u' :: Text.hexDigits 4 unit

/-- A character inside a string that is written in ASCII. -/
def escapeAscii (c : Char) : List Char :=
  match shortEscape? c with
  | some e => ['\\', e]
  | none =>
    if 0x20 ≤ c.toNat ∧ c.toNat < 0x7F then [c]
    else if c.toNat < 0x10000 then unitEscape c.toNat
    else
      unitEscape (0xD800 + (c.toNat - 0x10000) / 0x400) ++ unitEscape (0xDC00 + (c.toNat - 0x10000) % 0x400)

/-- A character inside a string that may hold any character but controls. -/
def escapeControl (c : Char) : List Char :=
  match shortEscape? c with
  | some e => ['\\', e]
  | none => if c.toNat < 0x20 then unitEscape c.toNat else [c]

/-- A quoted string, its characters written by `escape`. -/
def quoteWith (escape : Char → List Char) (s : String) : List Char :=
  '"' :: s.toList.flatMap escape ++ ['"']

/-- The names of the doubles that have no digits. -/
def jsonSpecialNames : SpecialNames := ⟨"NaN", "Infinity"⟩

/-! ## One line -/

mutual

/-- A value on one line. -/
def Json.compact (escape : Char → List Char) : Json → List Char
  | .null => "null".toList
  | .bool true => "true".toList
  | .bool false => "false".toList
  | .int n => intDigits n
  | .float x => (writeFloat jsonSpecialNames x).toList
  | .str s => quoteWith escape s
  | .arr items => '[' :: compactItems escape items ++ [']']
  | .obj entries => '\x7b' :: compactEntries escape entries ++ ['\x7d']

/-- The items of an array, with a comma and a space between them. -/
def compactItems (escape : Char → List Char) : List Json → List Char
  | [] => []
  | [j] => j.compact escape
  | j :: rest => j.compact escape ++ ',' :: ' ' :: compactItems escape rest

/-- The entries of an object, with a comma and a space between them. -/
def compactEntries (escape : Char → List Char) : List (String × Json) → List Char
  | [] => []
  | [(key, j)] => quoteWith escape key ++ ':' :: ' ' :: j.compact escape
  | (key, j) :: rest =>
    quoteWith escape key ++ ':' :: ' ' :: j.compact escape ++ ',' :: ' ' :: compactEntries escape rest

end

/-- A value on one line, in ASCII. -/
def Json.dump (j : Json) : String := String.ofList (j.compact escapeAscii)

/-- A value on one line, with characters beyond ASCII as they are. -/
def Json.dumpRaw (j : Json) : String := String.ofList (j.compact escapeControl)

/-! ## Several lines -/

/-- A line end and the indentation of a level. -/
def newLine (level : Nat) : List Char := '\n' :: List.replicate (2 * level) ' '

mutual

/-- A value whose lines after the first are indented by `level`. -/
def Json.indented (level : Nat) : Json → List Char
  | .arr [] => ['[', ']']
  | .arr (j :: rest) => '[' :: indentedItems (level + 1) (j :: rest) ++ newLine level ++ [']']
  | .obj [] => ['\x7b', '\x7d']
  | .obj (e :: rest) => '\x7b' :: indentedEntries (level + 1) (e :: rest) ++ newLine level ++ ['\x7d']
  | .null => "null".toList
  | .bool true => "true".toList
  | .bool false => "false".toList
  | .int n => intDigits n
  | .float x => (writeFloat jsonSpecialNames x).toList
  | .str s => quoteWith escapeAscii s

/-- The items of an array, each on a line of its own. -/
def indentedItems (level : Nat) : List Json → List Char
  | [] => []
  | [j] => newLine level ++ j.indented level
  | j :: rest => newLine level ++ j.indented level ++ ',' :: indentedItems level rest

/-- The entries of an object, each on a line of its own. -/
def indentedEntries (level : Nat) : List (String × Json) → List Char
  | [] => []
  | [(key, j)] => newLine level ++ quoteWith escapeAscii key ++ ':' :: ' ' :: j.indented level
  | (key, j) :: rest =>
    newLine level ++ quoteWith escapeAscii key ++ ':' :: ' ' :: j.indented level
      ++ ',' :: indentedEntries level rest

end

/-- A value over several lines, two spaces a level. -/
def Json.pretty (j : Json) : String := String.ofList (j.indented 0)

end GraphQLCache
