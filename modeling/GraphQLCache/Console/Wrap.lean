import GraphQLCache.Text.Width

/-!
# Wrapping — lines of a bounded width

A line breaks in front of the first word that does not fit it any more. A word wider than a line goes on in
the next ones where text is printed, and is cut and marked in the cell of a table. Blanks count for the word
before them, the first ones for the first word; they may stand out at the end of a line and are cut off there.
-/

namespace GraphQLCache.Console

open Text (Cluster clusters columns isBlank)

/-! ## Cutting -/

/-- What becomes of a word that is wider than a line. -/
inductive Overflow where
  | fold
  | ellipsis
deriving DecidableEq, Repr

/-- What stands in the first `width` columns; a wide character at their edge leaves a blank. -/
def firstColumns : (width : Nat) → List Cluster → List Char
  | 0, _ => []
  | _ + 1, [] => []
  | width + 1, c :: rest =>
    if width + 1 < c.columns then [' '] else c.chars ++ firstColumns (width + 1 - c.columns) rest

/-- A line that is no wider than `width`. -/
def Overflow.cut (overflow : Overflow) (width : Nat) (line : List Char) : List Char :=
  if columns line ≤ width then line
  else
    match overflow with
    | .fold => firstColumns width (clusters line)
    | .ellipsis => firstColumns (width - 1) (clusters line) ++ ['…']

/-- A line without the blanks at its end that stand out of the width. -/
def cutBlanks (width : Nat) (line : List Char) : List Char :=
  let excess := line.length - width
  let blanks := (line.reverse.takeWhile isBlank).length
  line.take (line.length - min excess blanks)

/-! ## Tabs -/

/-- The columns between two tab stops. -/
def tabStop : Nat := 8

/-- A text with a blank behind it, and more of them up to the next tab stop. -/
def fillToStop (cs : List Char) : List Char :=
  let spaced := cs ++ [' ']
  spaced ++ List.replicate ((tabStop - columns spaced % tabStop) % tabStop) ' '

/-- A line with blanks up to the next tab stop in the place of every tab. -/
def expandTabs (line : List Char) : List Char :=
  let parts := line.splitOn '\t'
  parts.dropLast.flatMap fillToStop ++ parts.getLastD []

/-! ## Words -/

/-- A text as lines. -/
def splitLines (cs : List Char) : List (List Char) := cs.splitOn '\n'

/-- The words of a line with the blanks behind them; blanks at the very beginning belong to the first word,
    and blanks alone are no word. Every step takes a word, so fuel of the length suffices. -/
def spacedWords : (fuel : Nat) → List Char → List (List Char)
  | 0, _ => []
  | fuel + 1, cs =>
    let leading := cs.takeWhile isBlank
    let body := (cs.drop leading.length).takeWhile fun c => !isBlank c
    let rest := cs.drop (leading.length + body.length)
    let trailing := rest.takeWhile isBlank
    if body.isEmpty then []
    else (leading ++ body ++ trailing) :: spacedWords fuel (rest.drop trailing.length)

/-- The pieces of a word that is wider than a line; `current` is the piece being filled, of `used`
    columns. -/
def foldWord (width : Nat) (current : List Char) (used : Nat) : List Cluster → List (List Char)
  | [] => [current]
  | c :: rest =>
    if width < used + c.columns then current :: foldWord width c.chars c.columns rest
    else foldWord width (current ++ c.chars) (used + c.columns) rest

/-- The lines of words, where `current` is the line being filled, of `used` columns. -/
def fillLines (overflow : Overflow) (width : Nat) (current : List Char) (used : Nat) :
    List (List Char) → List (List Char)
  | [] => [current]
  | word :: rest =>
    let size := columns (Text.trimEnd word)
    let before := if current.isEmpty then [] else [current]
    if used + size ≤ width then fillLines overflow width (current ++ word) (used + columns word) rest
    else if width < size ∧ overflow = .fold then
      let folded := foldWord width [] 0 (clusters word)
      let last := folded.getLastD []
      before ++ folded.dropLast ++ fillLines overflow width last (columns last) rest
    else before ++ fillLines overflow width word (columns word) rest

/-! ## Texts -/

/-- A line of text as lines that break at a width. A line of blanks stays one line. -/
def wrapLine (overflow : Overflow) (width : Nat) (line : List Char) : List (List Char) :=
  match spacedWords line.length line with
  | [] => [cutBlanks width line]
  | words => (fillLines overflow width [] 0 words).map (cutBlanks width)

/-- A text as lines that break at a width. A line can still be wider: blanks at its end need not be narrow,
    and a word in a cell is whole. -/
def breakLines (overflow : Overflow) (width : Nat) (cs : List Char) : List (List Char) :=
  (splitLines cs).flatMap fun line => wrapLine overflow width (expandTabs line)

/-- A text as lines of a bounded width. -/
def wrap (width : Nat) (cs : List Char) : List (List Char) :=
  (breakLines .fold width cs).map (Overflow.cut .fold width)

end GraphQLCache.Console
