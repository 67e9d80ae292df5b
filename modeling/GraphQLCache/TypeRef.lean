/-!
# `TypeRef` — references to types, with their list and non-null wrappers

A field names its type through wrappers: a list of, or a value that is never null of, the type within. A
reference comes from outside and may be ill formed (a wrapper around nothing, a name on a wrapper), so the
questions below have an answer for every shape: what the base name is, whether the field holds a list, what
an element is, and how the reference is spelt.
-/

namespace GraphQLCache

/-- The kind that a reference declares: one of the two wrappers, or any other word. -/
inductive RefKind where
  | list
  | nonNull
  | named (word : String) (plain : word ≠ "LIST" ∧ word ≠ "NON_NULL")
deriving DecidableEq, Repr

namespace RefKind

/-- The kind that a word declares. -/
def ofWord (word : String) : RefKind :=
  if list : word = "LIST" then .list
  else if nonNull : word = "NON_NULL" then .nonNull
  else .named word ⟨list, nonNull⟩

/-- The word of a kind. -/
def word : RefKind → String
  | .list => "LIST"
  | .nonNull => "NON_NULL"
  | .named word _ => word

@[simp] theorem word_ofWord (w : String) : (ofWord w).word = w := by
  unfold ofWord
  split
  · simp_all [word]
  · split
    · simp_all [word]
    · rfl

@[simp] theorem ofWord_word (k : RefKind) : ofWord k.word = k := by
  cases k with
  | list => rfl
  | nonNull => rfl
  | named w h => simp [ofWord, word, h.1, h.2]

end RefKind

/-- A type reference: alone, or around another one. -/
inductive TypeRef where
  | leaf (kind : RefKind) (name : Option String)
  | wrap (kind : RefKind) (name : Option String) (inner : TypeRef)
deriving DecidableEq, Repr

namespace TypeRef

/-- A reference to the type `name`. -/
def named (kind : RefKind) (name : String) : TypeRef := .leaf kind (some name)

/-- A list of `inner`. -/
def listOf (inner : TypeRef) : TypeRef := .wrap .list none inner

/-- `inner`, never null. -/
def nonNull (inner : TypeRef) : TypeRef := .wrap .nonNull none inner

/-- The name of what cannot be named. -/
def unknownName : String := "Unknown"

/-- The kind of the outermost reference. -/
def kind : TypeRef → RefKind
  | .leaf kind _ => kind
  | .wrap kind _ _ => kind

/-- The name of the outermost reference. -/
def name? : TypeRef → Option String
  | .leaf _ name => name
  | .wrap _ name _ => name

/-- What the outermost reference wraps. -/
def inner? : TypeRef → Option TypeRef
  | .leaf _ _ => none
  | .wrap _ _ inner => some inner

/-- A name that is there and not empty. -/
def properName? : Option String → Option String
  | some name => if name.isEmpty then none else some name
  | none => none

/-- The first proper name from outside in. -/
def baseName : TypeRef → String
  | .leaf _ name => (properName? name).getD unknownName
  | .wrap _ name inner => (properName? name).getD inner.baseName

/-- Whether the reference itself is a non-null wrapper. -/
def isNonNull (r : TypeRef) : Bool := r.kind = .nonNull

/-- The reference without its outer non-null wrappers. -/
def nullable : TypeRef → TypeRef
  | .wrap .nonNull _ inner => inner.nullable
  | r => r

/-- Whether the reference is a list, under any number of non-null wrappers. -/
def isList : TypeRef → Bool
  | .leaf kind _ => kind = .list
  | .wrap .list _ _ => true
  | .wrap .nonNull _ inner => inner.isList
  | .wrap (.named _ _) _ _ => false

/-- The element of a list, under any number of non-null wrappers. -/
def element? : TypeRef → Option TypeRef
  | .leaf _ _ => none
  | .wrap .list _ inner => some inner
  | .wrap .nonNull _ inner => inner.element?
  | .wrap (.named _ _) _ _ => none

/-- The spelling: brackets around a list, an exclamation mark behind a type that is never null. -/
def display : TypeRef → String
  | .leaf .list _ => "[" ++ unknownName ++ "]"
  | .leaf .nonNull _ => unknownName ++ "!"
  | .leaf (.named _ _) name => (properName? name).getD unknownName
  | .wrap .list _ inner => "[" ++ inner.display ++ "]"
  | .wrap .nonNull _ inner => inner.display ++ "!"
  | .wrap (.named _ _) name _ => (properName? name).getD unknownName

end TypeRef

end GraphQLCache
