import GraphQLCache.Schema.Basic
import GraphQLCache.Text.Case

/-!
# Browsing a schema — the types by kind, with a search

`Schema.groupByKind` lists the types that are no root, kind by kind and in each kind by name. A search keeps
the types whose name contains it, without regard to case and to blanks around it.
-/

namespace GraphQLCache

/-- What a search looks for: the text without blanks around it, in lower case. -/
def searchKey (search : String) : String := lowerText (trimText search)

/-- Whether a text in any case contains a search key; the empty key is contained in every text. -/
def matchesKey (key text : String) : Bool := textContains (lowerText text) key

namespace Schema

/-- The types that are no root and match the search. -/
def browsable (s : Schema) (search : String) : List NamedType :=
  s.types.values.filter fun t =>
    !s.rootNames.contains t.name && matchesKey (searchKey search) t.name

/-- The types of each kind, ordered by name; kinds without types are left out. -/
def groupByKind (s : Schema) (search : String) : List (TypeKind × List NamedType) :=
  TypeKind.all.filterMap fun kind =>
    let members := ((s.browsable search).filter (·.kind = kind)).mergeSort fun a b => a.name ≤ b.name
    if members.isEmpty then none else some (kind, members)

end Schema

end GraphQLCache
