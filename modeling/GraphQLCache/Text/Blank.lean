/-!
# Blank characters — trimming, words and one-line cuts

A character is blank when it separates words: the ASCII controls from tab to carriage return, the four
information separators, the space, and the spaces and line separators beyond ASCII. `trim` drops blanks at
both ends, `words` splits at every run of blanks, and `fitLine` makes any text fit one line of a table.
-/

namespace GraphQLCache.Text

/-- Closed ranges of the blank code points, ascending and apart. -/
def blankRanges : List (Nat × Nat) :=
  [(0x09, 0x0D), (0x1C, 0x20), (0x85, 0x85), (0xA0, 0xA0), (0x1680, 0x1680), (0x2000, 0x200A),
   (0x2028, 0x2029), (0x202F, 0x202F), (0x205F, 0x205F), (0x3000, 0x3000)]

/-- Membership of a code point in a list of closed ranges. -/
def inRanges (ranges : List (Nat × Nat)) (code : Nat) : Bool :=
  ranges.any fun r => r.1 ≤ code && code ≤ r.2

/-- Blank characters separate words and are dropped at the ends of a trimmed text. -/
def isBlank (c : Char) : Bool := inRanges blankRanges c.toNat

/-- `cs` without the blanks at its end. -/
def trimEnd (cs : List Char) : List Char := (cs.reverse.dropWhile isBlank).reverse

/-- `cs` without the blanks at its two ends. -/
def trim (cs : List Char) : List Char := trimEnd (cs.dropWhile isBlank)

/-- The words of `current.reverse ++ cs`, where `current` is the word being read, last character first. -/
def wordsFrom (current : List Char) : List Char → List (List Char)
  | [] => if current.isEmpty then [] else [current.reverse]
  | c :: rest =>
    if isBlank c then
      if current.isEmpty then wordsFrom [] rest else current.reverse :: wordsFrom [] rest
    else wordsFrom (c :: current) rest

/-- The maximal runs of characters that are not blank, in order. -/
def words (cs : List Char) : List (List Char) := wordsFrom [] cs

/-- Words joined by single spaces. -/
def unwords : List (List Char) → List Char
  | [] => []
  | [w] => w
  | w :: rest => w ++ ' ' :: unwords rest

/-- One space for every run of blanks inside `cs`, and none at its ends. -/
def collapse (cs : List Char) : List Char := unwords (words cs)

/-- The first `limit` characters; a negative limit leaves off that many at the end. -/
def takeSigned (limit : Int) (cs : List Char) : List Char :=
  if limit < 0 then cs.take (cs.length - limit.natAbs) else cs.take limit.toNat

/-- `cs` on one line of at most `limit` characters: blanks are collapsed, and what does not fit is cut and
    marked by three dots where there is room for more than the dots. -/
def fitLine (cs : List Char) (limit : Int) : List Char :=
  let flat := collapse cs
  if (flat.length : Int) ≤ limit then flat
  else if limit ≤ 3 then takeSigned limit flat
  else takeSigned (limit - 3) flat ++ ['.', '.', '.']

end GraphQLCache.Text

namespace GraphQLCache

/-- `text` without the blanks at its two ends. -/
def trimText (text : String) : String := String.ofList (Text.trim text.toList)

/-- `text` on one line of at most `limit` characters. -/
def truncateText (text : String) (limit : Int) : String :=
  String.ofList (Text.fitLine text.toList limit)

end GraphQLCache
