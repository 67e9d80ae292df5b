import GraphQLCache.Text.Blank

/-!
# Names — what may stand as a field or fragment name

A name begins with a letter or an underscore and goes on with letters, digits and underscores, all of ASCII.
A key of a value tree is accepted as a field name if it is a name, also with one line end behind it.
-/

namespace GraphQLCache

/-- A character that may begin a name. -/
def isNameStart (c : Char) : Bool := c = '_' || c.isAlpha

/-- A character that may go on a name. -/
def isNameRest (c : Char) : Bool := c = '_' || c.isAlphanum

/-- Whether `cs` is a name in full. -/
def isNameChars : List Char → Bool
  | [] => false
  | c :: rest => isNameStart c && rest.all isNameRest

/-- Whether `name` is a name in full. -/
def isName (name : String) : Bool := isNameChars name.toList

/-- Whether a key is accepted as a field name. -/
def isAcceptedName (key : String) : Bool :=
  isName key || (key.toList.getLast? = some '\n' && isNameChars key.toList.dropLast)

/-- The name of the fragment that writes a value of a type. -/
def mockFragmentName (type : String) : String := type ++ "Mock"

end GraphQLCache
