/-!
# Resemblance — which known words an unknown one comes close to

Two words resemble each other by the characters that they have in common in the same order: the longest run
that both hold, and then what is to the left and to the right of it. The measure is twice the number of
these characters by that of all characters; words that reach three fifths are close.
-/

namespace GraphQLCache.Command

/-! ## Common characters -/

/-- A run of characters that two words have in common: where it begins in each, and its length. -/
structure CommonRun where
  first : Nat
  second : Nat
  size : Nat

/-- The number of characters at the beginning of two words that are the same. -/
def commonStart : List Char → List Char → Nat
  | a :: as, b :: bs => if a = b then commonStart as bs + 1 else 0
  | _, _ => 0

/-- The longer of two runs, and of two that are as long the one given first. -/
def CommonRun.longer (r s : CommonRun) : CommonRun := if r.size < s.size then s else r

/-- The longest run that two words have in common; of several the first in `a`, and then in `b`. -/
def longestRun (a b : List Char) : CommonRun :=
  let runs := (List.range a.length).flatMap fun i =>
    (List.range b.length).map fun j => ⟨i, j, commonStart (a.drop i) (b.drop j)⟩
  runs.foldl CommonRun.longer ⟨0, 0, 0⟩

/-- The number of characters that two words have in common. Every step takes a run out of `a`, so fuel beyond
    its length suffices. -/
def commonCount : (fuel : Nat) → (a b : List Char) → Nat
  | 0, _, _ => 0
  | fuel + 1, a, b =>
    let run := longestRun a b
    if run.size = 0 then 0
    else
      run.size + commonCount fuel (a.take run.first) (b.take run.second)
        + commonCount fuel (a.drop (run.first + run.size)) (b.drop (run.second + run.size))

/-! ## Close words -/

/-- A known word, with how far it resembles the unknown one: `common` of `total` characters. -/
structure Resemblance where
  word : String
  common : Nat
  total : Nat

namespace Resemblance

/-- The resemblance of a known word and an unknown one. -/
def of (unknown known : String) : Resemblance :=
  let (a, b) := (known.toList, unknown.toList)
  ⟨known, 2 * commonCount (a.length + 1) a b, a.length + b.length⟩

/-- Whether a word is close: at least three fifths of the characters are common. -/
def isClose (r : Resemblance) : Bool := 3 * r.total ≤ 5 * r.common

/-- Whether `r` comes first: it resembles more, or as much and is the later word. -/
def comesFirst (r s : Resemblance) : Bool :=
  s.common * r.total < r.common * s.total
    || (s.common * r.total = r.common * s.total && s.word ≤ r.word)

end Resemblance

/-- The most words that are suggested. -/
def maxClose : Nat := 3

/-- The closest of the known words, in the order of their letters. -/
def closeWords (unknown : String) (known : List String) : List String :=
  let close := (known.map (Resemblance.of unknown)).filter (·.isClose)
  let closest := (close.mergeSort Resemblance.comesFirst).take maxClose
  (closest.map (·.word)).mergeSort fun a b => a ≤ b

end GraphQLCache.Command
