import GraphQLCache.Console.Markup
import GraphQLCache.Console.Wrap

/-!
# Tables — titled columns in a frame

A column is as wide as its widest line, tabs not counted, and has one blank on both sides; a cell of several
lines makes its row as high. Where the table would be wider than the console, the widest columns give way. The
title stands in the middle above the frame, the odd column to its right, and is filled up to the width of the
table.
-/

namespace GraphQLCache.Console

open Text (columns)

/-- A column: its header, and whether its cells stand to the right. -/
structure Column where
  header : String
  toRight : Bool

/-- A table of markup texts. -/
structure Table where
  title : String
  columns : List Column
  rows : List (List String)

/-! ## Frame -/

/-- The marks of a horizontal rule: where it begins, its line, where it meets a column's edge, its end. -/
structure RuleMarks where
  first : Char
  line : Char
  between : Char
  last : Char

/-- The rule above the headers. -/
def topMarks : RuleMarks := ⟨'┏', '━', '┳', '┓'⟩

/-- The rule below the headers. -/
def headerMarks : RuleMarks := ⟨'┡', '━', '╇', '┩'⟩

/-- The rule below the rows. -/
def bottomMarks : RuleMarks := ⟨'└', '─', '┴', '┘'⟩

/-- The edge of the columns beside headers. -/
def headerEdge : Char := '┃'

/-- The edge of the columns beside cells. -/
def cellEdge : Char := '│'

/-- Parts with a character between each two. -/
def joinWith (between : Char) : List (List Char) → List Char
  | [] => []
  | [part] => part
  | part :: rest => part ++ between :: joinWith between rest

/-- A horizontal rule over columns of the given widths. -/
def RuleMarks.rule (marks : RuleMarks) (widths : List Nat) : List Char :=
  marks.first :: joinWith marks.between (widths.map fun w => List.replicate (w + 2) marks.line)
    ++ [marks.last]

/-! ## Lines -/

/-- Blanks that bring a line to a width. -/
def fill (width : Nat) (line : List Char) : List Char := List.replicate (width - columns line) ' '

/-- A line in a column. -/
def alignLine (toRight : Bool) (width : Nat) (line : List Char) : List Char :=
  if toRight then
    let bare := Overflow.cut .ellipsis width (Text.trimEnd line)
    fill width bare ++ bare
  else
    let bare := Overflow.cut .ellipsis width line
    bare ++ fill width bare

/-- A text in the middle of a width, the odd column to its right. -/
def centre (width : Nat) (line : List Char) : List Char :=
  let bare := Overflow.cut .fold width (Text.trimEnd line)
  let left := (width - columns bare) / 2
  let shifted := List.replicate left ' ' ++ bare
  shifted ++ fill width shifted

/-! ## Widths -/

/-- Whether a character ends a line of a cell for its width. -/
def endsLine (c : Char) : Bool :=
  c = '\n' || ('\x1c' ≤ c && c ≤ '\x1e') || c = '\u0085' || c = '\u2028' || c = '\u2029'

/-- The width of a rendered cell: that of its widest line. -/
def cellWidth (cell : List Char) : Nat := ((cell.splitOnP endsLine).map columns).foldl Nat.max 0

/-- The width of a column: the widest cell and the blanks beside it. -/
def columnWidth (cells : List (List Char)) : Nat := (cells.map cellWidth).foldl Nat.max 0 + 2

/-- The nearest whole number to a quotient; the even one of two. -/
def nearest (total parts : Nat) : Nat :=
  let below := total / parts
  let twice := 2 * (total % parts)
  if twice < parts ∨ (twice = parts ∧ below % 2 = 0) then below else below + 1

/-- Widths of which every one of the `widest`, `parts` in number, gives its share of `excess` columns, but no
    more than `bound`. -/
def giveWay (widest bound : Nat) : (excess parts : Nat) → List Nat → List Nat
  | _, _, [] => []
  | excess, parts, w :: rest =>
    if w = widest then
      let share := min bound (nearest excess parts)
      (w - share) :: giveWay widest bound (excess - share) (parts - 1) rest
    else w :: giveWay widest bound excess parts rest

/-- Widths whose sum is at most `total`: the widest ones are brought down to the next ones until it is so.
    Every step takes a column, so fuel of the excess suffices. -/
def fitWidths (total : Nat) : (fuel : Nat) → List Nat → List Nat
  | 0, widths => widths
  | fuel + 1, widths =>
    let excess := widths.foldr (· + ·) 0 - total
    if excess = 0 then widths
    else
      let widest := widths.foldl Nat.max 0
      let next := (widths.filter (· ≠ widest)).foldl Nat.max 0
      fitWidths total fuel (giveWay widest (min excess (widest - next)) excess (widths.count widest) widths)

/-! ## Rows -/

/-- One line of a row. -/
def rowLine (edge : Char) (shape : List (Bool × Nat)) (parts : List (List Char)) : List Char :=
  let aligned := (shape.zip parts).map fun (s, part) => ' ' :: alignLine s.1 s.2 part ++ [' ']
  edge :: joinWith edge aligned ++ [edge]

/-- The lines of a row, as many as its highest cell has. -/
def rowLines (edge : Char) (shape : List (Bool × Nat)) (row : List (List Char)) : List (List Char) :=
  let cells := (shape.zip row).map fun (s, cell) => breakLines .ellipsis s.2 cell
  let height := (cells.map List.length).foldl Nat.max 0
  (List.range height).map fun i => rowLine edge shape (cells.map fun lines => lines.getD i [])

/-! ## Tables -/

/-- The cells of a column, its header first, as markup. -/
def Table.columnCells (t : Table) (index : Nat) (column : Column) : List String :=
  column.header :: t.rows.map fun row => row.getD index ""

/-- The columns of a table with their cells rendered, column by column. -/
def Table.renderColumns (t : Table) : Except MarkupFault (List (List (List Char))) :=
  (t.columns.zipIdx).mapM fun (column, index) =>
    (t.columnCells index column).mapM fun cell => render cell.toList

/-- The cells of one row of rendered columns. -/
def rowAt (columns : List (List (List Char))) (index : Nat) : List (List Char) :=
  columns.map fun cells => cells.getD index []

/-- The lines of a table on a console of a width. -/
def Table.print (console : Nat) (t : Table) : Except MarkupFault (List (List Char)) := do
  let columns ← t.renderColumns
  let title ← render t.title.toList
  let edges := columns.length + 1
  let room := console - edges
  let wanted := columns.map fun cells => min room (columnWidth cells)
  let spaced := fitWidths room (wanted.foldr (· + ·) 0) wanted
  let width := spaced.foldr (· + ·) 0 + edges
  let widths := spaced.map (· - 2)
  let shape := (t.columns.map (·.toRight)).zip widths
  let rows := (List.range t.rows.length).flatMap fun i => rowLines cellEdge shape (rowAt columns (i + 1))
  return (breakLines .fold width title).map (centre width)
    ++ topMarks.rule widths :: rowLines headerEdge shape (rowAt columns 0)
    ++ headerMarks.rule widths :: rows ++ [bottomMarks.rule widths]

end GraphQLCache.Console
