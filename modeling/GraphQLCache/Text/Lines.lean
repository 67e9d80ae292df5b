/-!
# Lines — line ends, and the line and column of an offset

A line ends at a line feed, at a carriage return, or at the two together. Lines and columns are counted from
one, in characters.
-/

namespace GraphQLCache.Text

/-- Every line end as a single line feed. -/
def unifyLineEnds : List Char → List Char
  | [] => []
  | '\r' :: '\n' :: rest => '\n' :: unifyLineEnds rest
  | c :: rest => (if c = '\r' then '\n' else c) :: unifyLineEnds rest

/-- The lines of `current.reverse ++ cs`, where `current` is the line being read, last character first. -/
def linesFrom (current : List Char) : List Char → List (List Char)
  | [] => [current.reverse]
  | '\r' :: '\n' :: rest => current.reverse :: linesFrom [] rest
  | c :: rest =>
    if c = '\n' || c = '\r' then current.reverse :: linesFrom [] rest else linesFrom (c :: current) rest

/-- The lines of a text without their ends; a line end at the very end opens an empty last line. -/
def lines (cs : List Char) : List (List Char) := linesFrom [] cs

/-- A place in a text. -/
structure Position where
  line : Nat
  column : Nat
deriving DecidableEq, Repr

/-- The place `offset` characters further on in `cs`, which begins at `here`. -/
def Position.advance (here : Position) : (offset : Nat) → List Char → Position
  | 0, _ => here
  | n + 2, '\r' :: '\n' :: rest => Position.advance ⟨here.line + 1, 1⟩ n rest
  | n + 1, c :: rest =>
    Position.advance (if c = '\n' || c = '\r' then ⟨here.line + 1, 1⟩ else ⟨here.line, here.column + 1⟩) n rest
  | n + 1, [] => ⟨here.line, here.column + n + 1⟩

/-- The place of the character at `offset` in `cs`. -/
def positionAt (cs : List Char) (offset : Nat) : Position := Position.advance ⟨1, 1⟩ offset cs

end GraphQLCache.Text
