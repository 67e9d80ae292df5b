/-!
# Suggestions — names that an unknown name may have been meant for

A suggestion lies within a few edits of the unknown name: characters inserted, dropped, changed or two
neighbours exchanged, where the case of letters does not count. A difference in case alone is one edit. The
nearest come first, and names at the same distance in the order of their letters and numbers.
-/

namespace GraphQLCache.Sdl

namespace Suggestion

/-! ## Distance -/

/-- The next row of the table of distances: row `i`, for the character `a` after `before`, from the two rows
    above it. -/
def nextRow (i : Nat) (a : Char) (before : Option Char) (b : List Char) (up upper : List Nat) : List Nat :=
  b.zipIdx.foldl
    (fun cells (c, j) =>
      let deleted := up.getD (j + 1) 0 + 1
      let inserted := cells.getLastD 0 + 1
      let changed := up.getD j 0 + if a = c then 0 else 1
      let edited := min deleted (min inserted changed)
      let exchanged := 0 < j && before = some c && b[j - 1]? = some a
      cells ++ [if exchanged then min edited (upper.getD (j - 1) 0 + 1) else edited])
    [i]

/-- The last row of the table, from row `i` on. -/
def lastRow (i : Nat) (before : Option Char) (b : List Char) (up upper : List Nat) : List Char → List Nat
  | [] => up
  | a :: rest => lastRow (i + 1) (some a) b (nextRow i a before b up upper) up rest

/-- The number of edits between two texts. -/
def edits (a b : List Char) : Nat :=
  (lastRow 1 none b (List.range (b.length + 1)) [] a).getLastD 0

/-- The distance of an option from a name. -/
def distance (name option : String) : Nat :=
  let a := name.toList.map Char.toLower
  let b := option.toList.map Char.toLower
  if name = option then 0 else if a = b then 1 else edits a b

/-- The greatest distance of a suggestion: two fifths of the length, and one more. -/
def reach (name : String) : Nat := name.length * 2 / 5 + 1

/-! ## Order -/

/-- Whether `a` comes no later than `b` when runs of digits are compared as numbers. Every round takes a
    run from both, so fuel of the length suffices. -/
def naturalLE : (fuel : Nat) → (a b : List Char) → Bool
  | 0, _, _ => true
  | fuel + 1, a, b =>
    let (textA, textB) := (a.takeWhile (!·.isDigit), b.takeWhile (!·.isDigit))
    if textA ≠ textB then textA < textB
    else
      let (restA, restB) := (a.drop textA.length, b.drop textB.length)
      let (digitsA, digitsB) := (restA.takeWhile Char.isDigit, restB.takeWhile Char.isDigit)
      let number (ds : List Char) : Nat := ds.foldl (fun n d => 10 * n + (d.toNat - 0x30)) 0
      if restA.isEmpty || restB.isEmpty then restA.isEmpty
      else if number digitsA ≠ number digitsB then number digitsA < number digitsB
      else if digitsA ≠ digitsB then digitsA < digitsB
      else naturalLE fuel (restA.drop digitsA.length) (restB.drop digitsB.length)

/-- Whether the first of two options comes no later. -/
def rankLE (a b : Nat × String) : Bool :=
  a.1 < b.1 || (a.1 = b.1 && naturalLE (a.2.length + 1) a.2.toList b.2.toList)

/-- The most suggestions that a message names. -/
def maxNamed : Nat := 5

end Suggestion

open Suggestion in
/-- The options that a name may have been meant for, the nearest first. -/
def suggestions (name : String) (options : List String) : List String :=
  let ranked := options.eraseDups.map fun option => (distance name option, option)
  ((ranked.filter fun r => r.1 ≤ reach name).mergeSort rankLE).map (·.2)

/-- Alternatives joined by commas and a last word. -/
def joinAlternatives (word : String) : List String → String
  | [] => ""
  | [a] => a
  | [a, b] => a ++ " " ++ word ++ " " ++ b
  | items => ", ".intercalate items.dropLast ++ ", " ++ word ++ " " ++ items.getLastD ""

/-- The names that a message suggests, in quotes. -/
def quotedAlternatives (names : List String) : String :=
  joinAlternatives "or" ((names.take Suggestion.maxNamed).map fun name => "'" ++ name ++ "'")

/-- The question behind a message, if there is anything to suggest. -/
def didYouMean (names : List String) : String :=
  if names.isEmpty then "" else " Did you mean " ++ quotedAlternatives names ++ "?"

/-- The question behind a message that says what is suggested. -/
def didYouMeanOne (kind : String) (names : List String) : String :=
  if names.isEmpty then "" else " Did you mean " ++ kind ++ " " ++ quotedAlternatives names ++ "?"

end GraphQLCache.Sdl
