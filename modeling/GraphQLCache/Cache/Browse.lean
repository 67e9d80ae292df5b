import GraphQLCache.Cache.Entity

/-!
# Browsing a snapshot — its roots, and all other entries by type

The entries of the root operations stand apart. All others are grouped by type, the groups and the entries
in each ordered by code points, and a search keeps the entries in whose id, type or record it is found.
-/

namespace GraphQLCache

namespace Snapshot

/-- The ids of the root operations. -/
def rootIds : List String := ["ROOT_QUERY", "ROOT_MUTATION"]

/-- The records of the root operations that are there. -/
def roots (s : Snapshot) : List (String × Entries) :=
  rootIds.filterMap fun id => (s.record? id).map fun record => (id, record)

/-- An entry with the name of its group. -/
structure Row where
  group : String
  id : String
  record : Entries

/-- The name of the group of an entry: its type, or unknown where that is empty. -/
def groupName (id : String) (record : Entries) : String :=
  if (entryTypename id record).isEmpty then "Unknown" else entryTypename id record

/-- Whether the first of two rows comes no later: by group, and in a group by id. -/
def rowLE (a b : Row) : Bool := a.group < b.group || (a.group = b.group && a.id ≤ b.id)

/-- The rows in which a search is found, in order. -/
def rows (s : Snapshot) (search : String) : List Row :=
  let key := searchKey search
  let all := s.records.map fun e => { group := groupName e.1 e.2, id := e.1, record := e.2 : Row }
  (all.filter fun r => matchesKey key r.group || foundIn key r.id r.record).mergeSort rowLE

/-- Neighbouring rows of one group put together. -/
def gather : List Row → List (String × List (String × Entries))
  | [] => []
  | r :: rest =>
    match gather rest with
    | (group, members) :: groups =>
      if r.group = group then (group, (r.id, r.record) :: members) :: groups
      else (r.group, [(r.id, r.record)]) :: (group, members) :: groups
    | [] => [(r.group, [(r.id, r.record)])]

/-- The entries other than the roots, by type and id. -/
def groups (s : Snapshot) (search : String) : List (String × List (String × Entries)) :=
  gather (s.rows search)

end Snapshot

end GraphQLCache
