import GraphQLCache.Console.ColourTable
import GraphQLCache.Text.Case
import GraphQLCache.Text.DecimalDigit
import GraphQLCache.Text.Unit16

/-!
# Styles — how the name of a style is written

A style is named by words: attributes and their short forms, `not` in front of an attribute, a colour, `on` in
front of the colour behind the text, and `link` in front of an address. Words come in any order, and the last
one of a kind counts, so the name of a style is brought into one form: attributes in a fixed order, then the
colours, then the address. A name that says anything else is only trimmed and put in small letters.
-/

namespace GraphQLCache.Console

/-! ## Colours -/

/-- Why a text names no style. A component of a colour without a digit is no number, which is more than not
    being a style. -/
inductive StyleFault where
  | notStyle
  | emptyComponent
deriving DecidableEq, Repr

/-- What stands between `opening` and a closing parenthesis at the end. -/
def between? (opening : String) (cs : List Char) : Option (List Char) :=
  if opening.toList.isPrefixOf cs && cs.getLast? = some ')' then
    some (cs.drop opening.length).dropLast
  else none

/-- The largest number of a colour and of a component. -/
def maxColour : Nat := 255

/-- The number that digits of any script spell; other characters count as zeros. -/
def digitsValue (cs : List Char) : Nat := cs.foldl (fun n c => 10 * n + (Text.digitValue? c).getD 0) 0

/-- A number sign with six hexadecimal digits. -/
def isHexColour : List Char → Bool
  | '#' :: digits => digits.length = 6 && digits.all fun c => (Text.hexValue? c).isSome
  | _ => false

/-- The number of a colour of the palette: one to three digits. -/
def isColourNumber (digits : List Char) : Bool :=
  !digits.isEmpty && digits.length ≤ 3 && digits.all (fun c => '0' ≤ c && c ≤ '9')
    && digitsValue digits ≤ maxColour

/-- The test of the components of a colour, digits with commas between them. -/
def checkComponents (cs : List Char) : Except StyleFault Unit :=
  let components := cs.splitOn ','
  if cs.isEmpty || !(cs.all fun c => c = ',' || (Text.digitValue? c).isSome) || components.length ≠ 3 then
    .error .notStyle
  else if components.any List.isEmpty then .error .emptyComponent
  else if components.all fun component => digitsValue component ≤ maxColour then .ok ()
  else .error .notStyle

/-- A word that names a colour, in small letters. -/
def readColour (word : List Char) : Except StyleFault String := do
  let cs := Text.lower word
  let name := String.ofList cs
  if colourNames.contains name || isHexColour cs then return name
  match between? "color(" cs, between? "rgb(" cs with
  | some digits, _ => if isColourNumber digits then return name else .error .notStyle
  | none, some components => checkComponents components; return name
  | none, none => .error .notStyle

/-! ## Styles -/

/-- The attributes of a style, each with its words, the first one its name; in the order in which a style is
    written. -/
def attributeWords : List (List String) :=
  [["bold", "b"], ["dim", "d"], ["italic", "i"], ["underline", "u"], ["blink"], ["blink2"], ["reverse", "r"],
   ["conceal", "c"], ["strike", "s"], ["underline2", "uu"], ["frame"], ["encircle"], ["overline", "o"]]

/-- The name of the attribute that a word stands for. -/
def attribute? (word : String) : Option String :=
  (attributeWords.find? fun words => words.contains word).bind List.head?

/-- A style: which attributes it switches on or off, the latest word first, its colours and its address. -/
structure Style where
  attributes : List (String × Bool)
  colour : Option String
  ground : Option String
  link : Option String
deriving Repr

/-- The style that changes nothing. -/
def Style.plain : Style := ⟨[], none, none, none⟩

/-- A style after more words. -/
def Style.read (style : Style) : List (List Char) → Except StyleFault Style
  | [] => .ok style
  | w :: rest =>
    let word := String.ofList (Text.lower w)
    match word, rest with
    | "on", c :: rest => do
      let name ← readColour c
      Style.read { style with ground := some name } rest
    | "not", a :: rest =>
      match attribute? (String.ofList a) with
      | some name => Style.read { style with attributes := (name, false) :: style.attributes } rest
      | none => .error .notStyle
    | "link", address :: rest => Style.read { style with link := some (String.ofList address) } rest
    | "on", [] => .error .notStyle
    | "not", [] => .error .notStyle
    | "link", [] => .error .notStyle
    | _, rest =>
      match attribute? word with
      | some name => Style.read { style with attributes := (name, true) :: style.attributes } rest
      | none => do
        let name ← readColour w
        Style.read { style with colour := some name } rest

/-- The words of a style in the usual order. -/
def Style.words (style : Style) : List String :=
  let switched := attributeWords.filterMap fun words =>
    words.head?.bind fun name =>
      (style.attributes.lookup name).map fun on => if on then name else "not " ++ name
  switched ++ style.colour.toList ++ (style.ground.map ("on " ++ ·)).toList
    ++ (style.link.map ("link " ++ ·)).toList

/-- The name of a style; one that changes nothing has a name too. -/
def Style.name (style : Style) : String :=
  if style.words.isEmpty then "none" else " ".intercalate style.words

/-- The name of a style in its usual form. -/
def styleName (name : List Char) : Except StyleFault String :=
  match Style.plain.read (Text.words name) with
  | .ok style => .ok style.name
  | .error .notStyle => .ok (String.ofList (Text.lower (Text.trim name)))
  | .error .emptyComponent => .error .emptyComponent

end GraphQLCache.Console
