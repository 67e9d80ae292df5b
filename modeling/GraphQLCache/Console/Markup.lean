import GraphQLCache.Console.Emoji
import GraphQLCache.Console.Style

/-!
# Markup — texts with style tags in brackets

A tag begins with a bracket and a lower-case letter, a number sign, a slash or an at sign, and ends with the
next closing bracket; any other bracket is text. Tags set styles that plain output does not show, so
rendering drops them; a closing tag must still close something. Backslashes in front of a tag stand for half
as many, and an odd one makes the tag text. `escape` makes any text render as itself, but for its emoji
codes.
-/

namespace GraphQLCache.Console

/-! ## Tags -/

/-- A character with which a tag may begin. -/
def startsTag (c : Char) : Bool := ('a' ≤ c && c ≤ 'z') || c = '#' || c = '/' || c = '@'

/-- The tag at the beginning of `cs`: what stands between its brackets. -/
def tagAt? : List Char → Option (List Char)
  | '[' :: c :: rest =>
    if startsTag c then
      let body := rest.takeWhile fun c => c ≠ ']' && c ≠ '['
      match rest.drop body.length with
      | ']' :: _ => some (c :: body)
      | _ => none
    else none
  | _ => none

/-- The backslashes at the beginning of `cs` and the tag behind them, if there is one. -/
def slashedTag? (cs : List Char) : Option (Nat × List Char) :=
  let slashes := (cs.takeWhile (· = '\\')).length
  (tagAt? (cs.drop slashes)).map fun tag => (slashes, tag)

/-- A tag in its brackets. -/
def bracketed (tag : List Char) : List Char := '[' :: tag ++ [']']

/-! ## Escaping -/

/-- `cs` with all tags escaped. Every step reads a character, so fuel of the length suffices. -/
def escapeTags : (fuel : Nat) → List Char → List Char
  | 0, cs => cs
  | _ + 1, [] => []
  | fuel + 1, c :: rest =>
    match slashedTag? (c :: rest) with
    | some (slashes, tag) =>
      List.replicate (2 * slashes + 1) '\\' ++ bracketed tag
        ++ escapeTags fuel ((c :: rest).drop (slashes + tag.length + 2))
    | none => c :: escapeTags fuel rest

/-- `cs` with a lone backslash at its end doubled. -/
def doubleLastSlash (cs : List Char) : List Char :=
  match cs.reverse with
  | ['\\'] => ['\\', '\\']
  | '\\' :: c :: _ => if c = '\\' then cs else cs ++ ['\\']
  | _ => cs

/-- Markup that renders as the text `cs`. -/
def escape (cs : List Char) : List Char := doubleLastSlash (escapeTags cs.length cs)

/-! ## Pieces -/

/-- A piece of markup: text, or a tag with the place where it stands. -/
inductive Piece where
  | text (content : List Char)
  | tag (body : List Char) (position : Nat)
deriving Repr

/-- A piece of text if there is any. -/
def textPiece (content : List Char) : List Piece := if content.isEmpty then [] else [.text content]

/-- The pieces of `plain.reverse ++ cs`, where `plain` is text being read, last character first, and `cs`
    begins at `position`. Every step reads a character, so fuel of the length suffices. -/
def piecesFrom (plain : List Char) (position : Nat) : (fuel : Nat) → List Char → List Piece
  | 0, cs => textPiece (plain.reverse ++ cs)
  | _ + 1, [] => textPiece plain.reverse
  | fuel + 1, c :: rest =>
    match slashedTag? (c :: rest) with
    | some (slashes, tag) =>
      let size := slashes + tag.length + 2
      let piece :=
        if slashes % 2 = 1 then Piece.text (bracketed tag) else .tag tag (position + slashes)
      textPiece plain.reverse ++ textPiece (List.replicate (slashes / 2) '\\')
        ++ piece :: piecesFrom [] (position + size) fuel ((c :: rest).drop size)
    | none => piecesFrom (c :: plain) (position + 1) fuel rest

/-- The pieces of a markup text. -/
def pieces (cs : List Char) : List Piece := piecesFrom [] 0 cs.length cs

/-! ## Rendering -/

/-- Why a markup text cannot be rendered. -/
inductive MarkupFault where
  | unmatchedClosing (tag : String) (position : Nat)
  | nothingToClose (position : Nat)
  | emptyComponent
deriving DecidableEq, Repr

/-- The words for a fault. -/
def MarkupFault.message : MarkupFault → String
  | .unmatchedClosing tag position =>
    "closing tag '" ++ tag ++ "' at position " ++ toString position ++ " doesn't match any open tag"
  | .nothingToClose position =>
    "closing tag '[/]' at position " ++ toString position ++ " has nothing to close"
  | .emptyComponent => "invalid literal for int() with base 10: ''"

/-- The name of a style in its usual form. -/
def usualName (name : List Char) : Except MarkupFault String :=
  match styleName name with
  | .ok usual => .ok usual
  | .error _ => .error .emptyComponent

/-- The open styles after closing the innermost one of a name. -/
def closeStyle? (name : String) (opened : List String) : Option (List String) :=
  if opened.contains name then some (opened.erase name) else none

/-- The open styles after a tag; the innermost stands first. -/
def applyTag (tag : List Char) (position : Nat) (opened : List String) : Except MarkupFault (List String) := do
  let name := tag.takeWhile (· ≠ '=')
  match name with
  | '/' :: rest =>
    if (Text.trim rest).isEmpty then
      match opened with
      | [] => .error (.nothingToClose position)
      | _ :: outer => return outer
    else
      match closeStyle? (← usualName (Text.trim rest)) opened with
      | none => .error (.unmatchedClosing (String.ofList (bracketed tag)) position)
      | some outer => return outer
  | _ => return (← usualName name) :: opened

/-- The controls that are never printed: bell, backspace, vertical tab, form feed and carriage return. -/
def strippedControls : List Char := ['\x07', '\x08', '\x0b', '\x0c', '\x0d']

/-- `cs` with every escaped opening bracket as the bracket itself. -/
def unescapeBrackets : List Char → List Char
  | [] => []
  | '\\' :: '[' :: rest => '[' :: unescapeBrackets rest
  | c :: rest => c :: unescapeBrackets rest

/-- Text as it is printed. -/
def printed (content : List Char) : List Char :=
  (replaceCodes (unescapeBrackets content)).filter fun c => !strippedControls.contains c

/-- The text of pieces inside the open styles. -/
def renderPieces (opened : List String) : List Piece → Except MarkupFault (List Char)
  | [] => .ok []
  | .text content :: rest => do
    let behind ← renderPieces opened rest
    .ok (printed content ++ behind)
  | .tag body position :: rest => do
    let opened ← applyTag body position opened
    renderPieces opened rest

/-- The plain text of a markup text. -/
def render (cs : List Char) : Except MarkupFault (List Char) := renderPieces [] (pieces cs)

end GraphQLCache.Console
