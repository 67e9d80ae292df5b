import GraphQLCache.Cache.Snapshot
import GraphQLCache.Json.Printer
import GraphQLCache.Schema.Browse

/-!
# Entities — cache entries of a type, with labels to pick them by

An entry's type is its `__typename` or, failing that, the part of its id before the first colon. A label
shows the first scalar among a few well-known fields, else the first two other scalars, and always the id.
`Snapshot.entitiesOf` lists the entries of a type or of its members by label.
-/

namespace GraphQLCache

/-! ## The type of an entry -/

/-- The part of a text before the first colon. -/
def beforeColon (text : String) : String := String.ofList (text.toList.takeWhile (· ≠ ':'))

/-- The type of an entry. An empty `__typename` is taken as it is; an empty part of the id is unknown. -/
def entryTypename (id : String) (record : Entries) : String :=
  match Entries.get? record "__typename" with
  | some (.str name) => name
  | _ => if (beforeColon id).isEmpty then "Unknown" else beforeColon id

/-! ## Labels -/

/-- The fields that make a label by themselves, the best first. -/
def labelPriority : List String :=
  ["name", "title", "label", "displayName", "username", "email", "slug", "code"]

/-- The keys that say nothing about an entry. -/
def labelExcluded : List String := ["__typename", "id", "__ref"]

/-- The texts of the doubles that have no digits, in a label. -/
def labelSpecialNames : SpecialNames := ⟨"nan", "inf"⟩

/-- A scalar as a label shows it: a double without a fraction is written as an integer. -/
def labelText? : Json → Option String
  | .str s => some s
  | .bool b => some (if b then "true" else "false")
  | .int n => some (String.ofList (intDigits n))
  | .float x =>
    match Decimal.shapeOf x with
    | .finite negative magnitude =>
      match magnitude.integer? with
      | some n => some (String.ofList (intDigits (if negative then -(n : Int) else n)))
      | none => some (writeFloat labelSpecialNames x)
    | _ => some (writeFloat labelSpecialNames x)
  | .null | .arr _ | .obj _ => none

/-- The text of the first priority field that holds a scalar. -/
def priorityText? (record : Entries) : Option String :=
  labelPriority.findSome? fun field => (Entries.get? record field).bind labelText?

/-- The texts of the scalars under keys that are not excluded, in order. -/
def scalarTexts (record : Entries) : List String :=
  (record.filter fun e => !labelExcluded.contains e.1).filterMap fun e => labelText? e.2

/-- The label of an entry; without any scalar it is the bare id. -/
def entryLabel (id : String) (record : Entries) : String :=
  match priorityText? record with
  | some text => text ++ " (" ++ id ++ ")"
  | none =>
    match (scalarTexts record).take 2 with
    | [] => id
    | texts => ", ".intercalate texts ++ " (" ++ id ++ ")"

/-! ## Listing and searching -/

/-- An entry that is offered as the target of a link. -/
structure Entity where
  id : String
  record : Entries
  label : String

namespace Snapshot

/-- The ids that hold no entity. -/
def reservedIds : List String := ["ROOT_QUERY", "ROOT_MUTATION", "__META"]

/-- The records of a snapshot other than those under reserved ids, in order. -/
def records (s : Snapshot) : List (String × Entries) :=
  s.entries.filterMap fun e =>
    if reservedIds.contains e.1 then none else e.2.obj?.map fun record => (e.1, record)

/-- Whether the first of two labels comes no later: folded, and where that ties, as they are. -/
def labelLE (a b : String) : Bool :=
  let fa := foldText a
  let fb := foldText b
  fa < fb || (fa = fb && a ≤ b)

/-- The entries whose type is `type` or one of its members, ordered by label. -/
def entitiesOf (s : Snapshot) (schema : Schema) (type : String) : List Entity :=
  let accepted := type :: schema.membersOf type
  let found := s.records.filter fun e => accepted.contains (entryTypename e.1 e.2)
  (found.map fun e => { id := e.1, record := e.2, label := entryLabel e.1 e.2 : Entity }).mergeSort
    fun a b => labelLE a.label b.label

end Snapshot

/-- The text in which a record is searched. -/
def searchText (record : Entries) : String := lowerText (Json.obj record).dumpRaw

/-- Whether a search key is found in the id of an entry or anywhere in its record. -/
def foundIn (key id : String) (record : Entries) : Bool :=
  matchesKey key id || textContains (searchText record) key

/-- The entities in which a search is found, in order; a blank search finds all. -/
def filterEntities (entities : List Entity) (search : String) : List Entity :=
  entities.filter fun e => foundIn (searchKey search) e.id e.record

end GraphQLCache
