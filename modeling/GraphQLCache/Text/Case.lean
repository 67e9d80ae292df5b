import GraphQLCache.Text.Blank
import GraphQLCache.Text.CaseTable

/-!
# Case — lower-casing and folding of whole texts

`lower` maps every character by the Unicode tables; only a capital sigma looks at its neighbours: at the end
of a word it becomes the final form. `fold` is the coarser map under which texts are compared without regard
to case. Both may lengthen a text.
-/

namespace GraphQLCache.Text

/-- The offset that the first shift covering `code` gives. -/
def shiftOf? (shifts : List CaseShift) (code : Nat) : Option Int :=
  (shifts.find? fun s => s.first ≤ code && code ≤ s.last && (code - s.first) % s.stride == 0).map
    (·.offset)

/-- The image of one character under a table of expansions and a table of shifts. -/
def mapChar (expansions : List (Nat × List Nat)) (shifts : List CaseShift) (c : Char) : List Char :=
  match expansions.lookup c.toNat with
  | some codes => codes.map Char.ofNat
  | none =>
    match shiftOf? shifts c.toNat with
    | some offset => [Char.ofNat ((c.toNat : Int) + offset).toNat]
    | none => [c]

/-- Lower-casing of a character that stands alone. -/
def lowerChar (c : Char) : List Char := mapChar lowerExpansions lowerShifts c

/-- Folding of a character. -/
def foldChar (c : Char) : List Char := mapChar foldExpansions foldShifts c

/-- Whether the nearest character that is not looked through is a letter with case. -/
def casedNext : List Char → Bool
  | [] => false
  | c :: rest =>
    if inRanges caseIgnorableRanges c.toNat then casedNext rest else inRanges casedRanges c.toNat

/-- Lower-casing of what follows `before`, the text already passed, nearest character first. -/
def lowerAfter (before : List Char) : List Char → List Char
  | [] => []
  | c :: rest =>
    if c = 'Σ' then
      (if casedNext before && !casedNext rest then 'ς' else 'σ') :: lowerAfter (c :: before) rest
    else lowerChar c ++ lowerAfter (c :: before) rest

/-- Lower-casing: a capital sigma that ends a word becomes the final sigma. -/
def lower (cs : List Char) : List Char := lowerAfter [] cs

/-- Case folding, character by character. -/
def fold (cs : List Char) : List Char := cs.flatMap foldChar

/-- Whether `needle` stands somewhere in `hay`. -/
def occursIn (needle : List Char) : List Char → Bool
  | [] => needle.isEmpty
  | c :: rest => needle.isPrefixOf (c :: rest) || occursIn needle rest

end GraphQLCache.Text

namespace GraphQLCache

/-- `text` in lower case. -/
def lowerText (text : String) : String := String.ofList (Text.lower text.toList)

/-- `text` folded for comparison without regard to case. -/
def foldText (text : String) : String := String.ofList (Text.fold text.toList)

/-- Whether `part` stands somewhere in `text`. -/
def textContains (text part : String) : Bool := Text.occursIn part.toList text.toList

end GraphQLCache
