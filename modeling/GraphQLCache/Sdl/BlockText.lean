/-!
# Block texts — the lines of a text in triple quotes

The indentation that all lines but the first have in common is removed, and so are blank lines at both
ends. Only spaces and tabs indent, and a line of nothing else is blank.
-/

namespace GraphQLCache.Sdl.BlockText

/-- A character that indents. -/
def isIndent (c : Char) : Bool := c = ' ' || c = '\t'

/-- Whether a line holds nothing but indentation. -/
def isBlankLine (line : List Char) : Bool := line.all isIndent

/-- The indentation of a line. -/
def indentOf (line : List Char) : Nat := (line.takeWhile isIndent).length

/-- The indentation that the lines which are not blank have in common; none if all are blank. -/
def commonIndent? (lines : List (List Char)) : Option Nat :=
  ((lines.filter fun line => !isBlankLine line).map indentOf).min?

/-- A line without the common indentation; with nothing in common every line is blank and loses all. -/
def unindent (common : Option Nat) (line : List Char) : List Char :=
  match common with
  | some n => line.drop n
  | none => []

/-- Lines without the blank ones at both ends, judged by `blank`. -/
def dropBlankEnds (lines : List (List Char × Bool)) : List (List Char) :=
  let core := ((lines.dropWhile (·.2)).reverse.dropWhile (·.2)).reverse
  core.map (·.1)

/-- The lines of a block text without indentation and blank ends. -/
def dedent : List (List Char) → List (List Char)
  | [] => []
  | first :: rest =>
    let common := commonIndent? rest
    dropBlankEnds
      ((first, isBlankLine first) :: rest.map fun line => (unindent common line, isBlankLine line))

/-- Lines joined by line feeds. -/
def joinLines : List (List Char) → List Char
  | [] => []
  | [line] => line
  | line :: rest => line ++ '\n' :: joinLines rest

end GraphQLCache.Sdl.BlockText
