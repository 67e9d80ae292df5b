import GraphQLCache.Json.Basic
import GraphQLCache.Keyed

/-!
# `Snapshot` — a normalized cache, and the references between its entries

A snapshot maps cache ids to records. Records link to each other by references, objects that hold a cache
id under `__ref`. `Snapshot.record?` looks one record up; `Snapshot.resolve?` follows references until a
record that is none, within a number of look-ups and never through the same id twice.
-/

namespace GraphQLCache

/-- The entries of a cache by id, in order. -/
abbrev Snapshot := Keyed Json

/-- The cache id that an object refers to, if it holds a string under the reference key. -/
def refTarget? (entries : Entries) : Option String := (Entries.get? entries "__ref").bind Json.str?

/-- Whether a value is a reference: an object that refers to a cache id. -/
def isReference : Json → Bool
  | .obj entries => (refTarget? entries).isSome
  | _ => false

/-- A link to follow: a cache id, or an object that may refer to one. -/
inductive Link where
  | key (id : String)
  | object (entries : Entries)

/-- The cache id that a link leads to. -/
def Link.target? : Link → Option String
  | .key id => some id
  | .object entries => refTarget? entries

namespace Snapshot

/-- The record under a cache id, if an object is stored there. -/
def record? (s : Snapshot) (id : String) : Option Entries := (s.get? id).bind Json.obj?

/-- The record that a link leads to, in one step. -/
def follow? (s : Snapshot) (link : Link) : Option Entries := link.target?.bind s.record?

/-- The first record that is no reference, at most `steps` look-ups away and without passing through an id
    in `seen`. -/
def resolveWithin? (s : Snapshot) : (steps : Nat) → (seen : List String) → Link → Option Entries
  | 0, _, _ => none
  | steps + 1, seen, link => do
    let target ← link.target?
    if seen.contains target then none
    else do
      let record ← s.record? target
      if (refTarget? record).isSome then s.resolveWithin? steps (target :: seen) (.object record)
      else some record

/-- The record at the end of a chain of references; at least one look-up is made. -/
def resolve? (s : Snapshot) (link : Link) (maxHops : Int) : Option Entries :=
  s.resolveWithin? (max maxHops 1).toNat [] link

end Snapshot

/-- What is wrong with a value that is no snapshot. -/
inductive SnapshotFault where
  | notObject
deriving DecidableEq, Repr

/-- The words for the fault. -/
def SnapshotFault.message : SnapshotFault → String
  | .notObject => "Cache snapshot must be a JSON object keyed by cache ID"

/-- The entries of a snapshot: an object, or the object under its only key `data`. -/
def snapshotEntries : Json → Except SnapshotFault Entries
  | .obj [("data", .obj entries)] => .ok entries
  | .obj entries => .ok entries
  | _ => .error .notObject

/-- The snapshot that a value holds. -/
def Snapshot.ofJson (j : Json) : Except SnapshotFault Snapshot :=
  (snapshotEntries j).map Keyed.ofPairs

/-- A snapshot as an object. -/
def Snapshot.toJson (s : Snapshot) : Json := .obj s.entries

end GraphQLCache
