import GraphQLCache.Text.Lines

/-!
# Excerpts — a place in a text shown with its lines

An excerpt names the line and column of a place and shows the line with a caret below the column, between
its two neighbours. A line longer than 120 characters stands alone, in pieces of 80 characters: the pieces
up to the one that the column falls in, the caret, and one piece more. The end of the line belongs to its last
piece, even if that is full.
-/

namespace GraphQLCache.Sdl

open Text (Position positionAt lines)

namespace Excerpt

/-- The longest line that is shown whole. -/
def maxWhole : Nat := 120

/-- The length of a piece of a longer line. -/
def pieceLength : Nat := 80

/-- A text in front of which blanks bring it to a width. -/
def alignRight (width : Nat) (text : List Char) : List Char :=
  List.replicate (width - text.length) ' ' ++ text

/-- A line with the mark in front of it, which is its number or nothing. -/
structure Row where
  mark : List Char
  content : List Char

/-- The row of a numbered line. -/
def Row.numbered (number : Nat) (content : List Char) : Row :=
  ⟨(toString number).toList ++ [' ', '|'], content⟩

/-- The row of a line without a number. -/
def Row.plain (content : List Char) : Row := ⟨['|'], content⟩

/-- The row of the caret below a column. -/
def Row.caret (column : Nat) : Row := .plain (alignRight column ['^'])

/-- A row with its mark aligned to a width; an empty line leaves no blank behind the mark. -/
def Row.print (width : Nat) (row : Row) : List Char :=
  alignRight width row.mark ++ if row.content.isEmpty then [] else ' ' :: row.content

/-- The pieces of a line. Every piece is longer than nothing, so fuel of the length suffices. -/
def piecesFrom : (fuel : Nat) → List Char → List (List Char)
  | 0, _ => []
  | fuel + 1, line =>
    if line.isEmpty then [] else line.take pieceLength :: piecesFrom fuel (line.drop pieceLength)

/-- The pieces of a line. -/
def pieces (line : List Char) : List (List Char) := piecesFrom line.length line

/-- The rows of a long line. -/
def longRows (number column : Nat) (line : List Char) : List Row :=
  match pieces line with
  | [] => []
  | first :: rest =>
    let index := min ((column - 1) / pieceLength) rest.length
    .numbered number first :: (rest.take index).map .plain
      ++ .caret (column - index * pieceLength) :: ((rest.drop index).take 1).map .plain

/-- The rows of a line and its neighbours. -/
def shortRows (position : Position) (all : List (List Char)) (line : List Char) : List Row :=
  let number := position.line
  let before := if number ≤ 1 then [] else ((all.drop (number - 2)).take 1).map (.numbered (number - 1))
  let after := ((all.drop number).take 1).map (.numbered (number + 1))
  before ++ [.numbered number line, .caret position.column] ++ after

/-- The rows that show a place. -/
def rows (position : Position) (all : List (List Char)) : List Row :=
  let line := (all.drop (position.line - 1)).headD []
  if maxWhole < line.length then longRows position.line position.column line
  else shortRows position all line

end Excerpt

open Excerpt in
/-- The place at `offset` of a text, with its lines. -/
def excerpt (cs : List Char) (offset : Nat) : String :=
  let position := positionAt cs offset
  let shown := rows position (lines cs)
  let width := (shown.map (·.mark.length)).foldl Nat.max 0
  "GraphQL request:" ++ toString position.line ++ ":" ++ toString position.column ++ "\n"
    ++ "\n".intercalate (shown.map fun row => String.ofList (row.print width))

end GraphQLCache.Sdl
