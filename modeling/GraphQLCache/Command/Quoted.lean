import GraphQLCache.Text.Printable
import GraphQLCache.Text.Utf8

/-!
# Quoted values — how messages show what was typed

A value stands in single quotes, or in double quotes if it holds single quotes and no double ones. The
quote, the backslash and all that is not printable are escaped: line ends and tabs by a letter, the others by
two, four or eight hexadecimal digits.
-/

namespace GraphQLCache.Command

/-- The quote that a value stands in. -/
def quoteOf (cs : List Char) : Char := if cs.contains '\'' && !cs.contains '"' then '"' else '\''

/-- The escape of a character by its code point. -/
def codeEscape (c : Char) : List Char :=
  if c.toNat < 0x100 then '\\' :: 'x' :: Text.hexDigits 2 c.toNat
  else if c.toNat < 0x10000 then '\\' :: 'u' :: Text.hexDigits 4 c.toNat
  else '\\' :: 'U' :: Text.hexDigits 8 c.toNat

/-- A character inside a quoted value. -/
def quoteChar (quote c : Char) : List Char :=
  if c = quote ∨ c = '\\' then ['\\', c]
  else if c = '\n' then ['\\', 'n']
  else if c = '\r' then ['\\', 'r']
  else if c = '\t' then ['\\', 't']
  else if Text.isPrintable c then [c]
  else codeEscape c

/-- A value in quotes. -/
def quoted (value : String) : String :=
  let cs := value.toList
  let quote := quoteOf cs
  String.ofList (quote :: cs.flatMap (quoteChar quote) ++ [quote])

end GraphQLCache.Command
