/-!
# `Checked` — a reading that counts its faults

A reading yields a value, or the number of faults that were found on the way. Readings of independent parts
are put together by `<*>`, which adds the faults of both sides, so one pass over an entry reports all that
is wrong with it.
-/

namespace GraphQLCache

/-- A value, or a number of faults. -/
inductive Checked (α : Type) where
  | valid (value : α)
  | invalid (faults : Nat)
deriving Repr

namespace Checked

variable {α β : Type}

/-- The reading of a value that is just one fault. -/
def fault : Checked α := .invalid 1

/-- A function applied to what is read. -/
def map (f : α → β) : Checked α → Checked β
  | .valid a => .valid (f a)
  | .invalid n => .invalid n

/-- Two readings, with the faults of both. -/
def both (f : Checked (α → β)) (a : Checked α) : Checked β :=
  match f, a with
  | .valid f, .valid a => .valid (f a)
  | .valid _, .invalid n => .invalid n
  | .invalid m, .valid _ => .invalid m
  | .invalid m, .invalid n => .invalid (m + n)

instance : Functor Checked where
  map := map

instance : Applicative Checked where
  pure := .valid
  seq f a := both f (a ())

/-- The readings of all items, with the faults of all. -/
def all : List (Checked α) → Checked (List α)
  | [] => .valid []
  | c :: rest => both (map List.cons c) (all rest)

end Checked

end GraphQLCache
