import GraphQLCache.Introspection.Entry

/-!
# Ingestion — an introspection result becomes a schema

The entries of the `types` array are taken one by one. A bad entry costs only itself: one that cannot be
read, repeats a name or is of no known kind is left out with a note, and the types of the introspection
system, whose names begin with two underscores, are left out silently. Only a result without a `__schema`
object that has a `types` array is refused.
-/

namespace GraphQLCache

/-- Why an entry was left out. -/
inductive SkipReason where
  | malformed (faults : Nat)
  | duplicate (name : String)
  | unsupported (kind name : String)
deriving DecidableEq, Repr

/-- A note on an entry that was left out. -/
structure Skip where
  index : Nat
  reason : SkipReason
deriving DecidableEq, Repr

/-- The words of a note. -/
def Skip.message (s : Skip) : String :=
  "types[" ++ toString s.index ++ "]: " ++
    match s.reason with
    | .malformed faults => "skipped malformed entry (" ++ toString faults ++ " errors)"
    | .duplicate name => "duplicate type " ++ name ++ " ignored"
    | .unsupported kind name => "unsupported kind " ++ kind ++ " for " ++ name

/-- What is missing in an introspection result. -/
inductive ShapeError where
  | noSchema
  | noTypes
deriving DecidableEq, Repr

/-- The words for what is missing. -/
def ShapeError.message : ShapeError → String
  | .noSchema => "Introspection result has no __schema object"
  | .noTypes => "Introspection __schema has no types array"

namespace Ingest

/-- Whether a name belongs to the introspection system. -/
def isReserved (name : String) : Bool := "__".toList.isPrefixOf name.toList

/-- What one entry does to the types loaded so far: it adds a type, is passed over, or leaves a note. -/
inductive Verdict where
  | add (type : NamedType)
  | pass
  | skip (reason : SkipReason)

/-- The verdict on an entry when the names in `known` are taken. -/
def judge (known : List String) (j : Json) : Verdict :=
  match readEntry j with
  | .invalid faults => .skip (.malformed faults)
  | .valid e =>
    if isReserved e.name then .pass
    else if known.contains e.name then .skip (.duplicate e.name)
    else
      match e.toType? with
      | none => .skip (.unsupported e.kind e.name)
      | some t => .add t

/-- The types and notes that the entries from `index` on add to `types`. -/
def ingestFrom (index : Nat) (types : Keyed NamedType) : List Json → Keyed NamedType × List Skip
  | [] => (types, [])
  | j :: rest =>
    match judge types.keys j with
    | .add t => ingestFrom (index + 1) (types.addNew t.name t) rest
    | .pass => ingestFrom (index + 1) types rest
    | .skip reason =>
      let (final, skips) := ingestFrom (index + 1) types rest
      (final, ⟨index, reason⟩ :: skips)

/-- The name of a root type: the `name` string of an object. -/
def rootName (part : Option Json) : Option String := do
  let j ← part
  let name ← j.get? "name"
  name.str?

end Ingest

open Ingest in
/-- The schema of an introspection result, with the notes on the entries left out. -/
def ingest (raw : Json) : Except ShapeError (Schema × List Skip) :=
  match raw.get? "__schema" with
  | none => .error .noSchema
  | some schema =>
    match schema with
    | .obj entries =>
      match Entries.get? entries "types" with
      | some (.arr items) =>
        let (types, skips) := ingestFrom 0 .empty items
        .ok ({ types
               query := rootName (Entry.member? entries "queryType" "query_type")
               mutation := rootName (Entry.member? entries "mutationType" "mutation_type")
               subscription := rootName (Entry.member? entries "subscriptionType" "subscription_type") },
             skips)
      | _ => .error .noTypes
    | _ => .error .noTypes

/-- The result inside a response: a `data` member is opened where there is no `__schema`. -/
def openEnvelope (raw : Json) : Json :=
  match raw with
  | .obj entries =>
    if Entries.has entries "__schema" then raw else (Entries.get? entries "data").getD raw
  | _ => raw

/-- The schema of an introspection result or of a response that holds one. -/
def ingestResponse (raw : Json) : Except ShapeError (Schema × List Skip) := ingest (openEnvelope raw)

end GraphQLCache
