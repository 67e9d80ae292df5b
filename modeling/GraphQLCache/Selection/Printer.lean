import GraphQLCache.Selection.Basic

/-!
# Selection printer — documents as indented text

One selection a line, each level indented by two spaces. Inside a block every line end of the content is
followed by the indentation of the block, also a line end that stands inside a name.
-/

namespace GraphQLCache

/-- `cs` with every line end followed by two more spaces. -/
def indentLines (cs : List Char) : List Char :=
  cs.flatMap fun c => if c = '\n' then ['\n', ' ', ' '] else [c]

/-- A block of lines in braces. -/
def bracedBlock (content : List Char) : List Char :=
  ['\x7b', '\n', ' ', ' '] ++ indentLines content ++ ['\n', '\x7d']

mutual

/-- A selection, over several lines if something is selected below it. -/
def Selection.print : Selection → List Char
  | .field name [] => name.toList
  | .field name (s :: rest) => name.toList ++ ' ' :: bracedBlock (printSelections (s :: rest))
  | .inlineOn type selections => "... on ".toList ++ type.toList ++ ' ' :: bracedBlock (printSelections selections)

/-- Selections, each beginning on a line of its own. -/
def printSelections : List Selection → List Char
  | [] => []
  | [s] => s.print
  | s :: rest => s.print ++ '\n' :: printSelections rest

end

/-- The document that holds one fragment. -/
def Fragment.print (f : Fragment) : String :=
  String.ofList
    ("fragment ".toList ++ f.name.toList ++ " on ".toList ++ f.type.toList ++ ' '
      :: bracedBlock (printSelections f.selections))

end GraphQLCache
