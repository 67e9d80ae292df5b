import GraphQLCache.Mock.Synthesis

/-!
# Forms — the values an operator starts from and extends

A form begins with one default per field, each from a fresh start; a list grows by one default item at a
time; and a field of several possible types is switched to one of them.
-/

namespace GraphQLCache

namespace MockContext

/-- One default per field other than `__typename`, each from a fresh start. -/
def formOf (c : MockContext) (maxDepth : Int) (fields : List Field) : Option Entries :=
  (fieldsBy (c.ofRef (roomAt 0 maxDepth) []) fields).map Entries.ofPairs

/-- The default of one more item of a list; a reference that is no list stands for its items. -/
def listItem (c : MockContext) (room : Nat) (visited : List String) (list : TypeRef) : Option Json :=
  c.ofRef room visited (list.element?.getD list)

/-- `items` with one default item behind them. -/
def appendItem (c : MockContext) (room : Nat) (visited : List String) (items : List Json)
    (list : TypeRef) : Option (List Json) :=
  (c.listItem room visited list).map fun item => items ++ [item]

/-- The value of a field that is switched to the type `name`: null for no name, and otherwise an object of
    that type with a form of its fields. -/
def switchMember (c : MockContext) (maxDepth : Int) (name : String) : Option Json :=
  if name.isEmpty then some .null
  else (c.formOf maxDepth (c.schema.fieldsOf name)).map fun form => .obj ((typenameKey, .str name) :: form)

end MockContext

end GraphQLCache
