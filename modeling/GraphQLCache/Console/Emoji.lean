import GraphQLCache.Console.EmojiTable
import GraphQLCache.Text.Blank
import GraphQLCache.Text.Case
import GraphQLCache.Text.Unit16

/-!
# Emoji codes — short names between colons become emoji

A name without blanks between two colons is replaced if it is known, in any case of letters. A suffix
`-emoji` or `-text` asks for one of the two presentations, and a skin tone at the end of a name colours the
first character of the plain emoji. What is unknown stays as it is, with both its colons used up.
-/

namespace GraphQLCache.Console

/-! ## Names -/

/-- The number that hexadecimal digits spell. -/
def readHex (cs : List Char) : Nat := cs.foldl (fun n c => 16 * n + (Text.hexValue? c).getD 0) 0

/-- The characters whose code points are joined by plus signs. -/
def readCodes (cs : List Char) : List Char := (cs.splitOn '+').map fun code => Char.ofNat (readHex code)

/-- What follows a name in alternating names and codes. -/
def codesAfter? (name : List Char) : List (List Char) → Option (List Char)
  | key :: codes :: rest => if key = name then some codes else codesAfter? name rest
  | _ => none

/-- The plain emoji of a short name. -/
def plainEmoji? (name : List Char) : Option (List Char) :=
  emojiLines.findSome? fun line => (codesAfter? name (line.toList.splitOn ' ')).map readCodes

/-- The skin tones: the end of a short name, and the character that colours an emoji. -/
def skinTones : List (String × Char) :=
  [("_light_skin_tone", Char.ofNat 0x1F3FB), ("_medium-light_skin_tone", Char.ofNat 0x1F3FC),
   ("_medium_skin_tone", Char.ofNat 0x1F3FD), ("_medium-dark_skin_tone", Char.ofNat 0x1F3FE),
   ("_dark_skin_tone", Char.ofNat 0x1F3FF)]

/-- `cs` without `ending`, if it ends so. -/
def dropEnding? (ending cs : List Char) : Option (List Char) :=
  if ending.isSuffixOf cs then some (cs.take (cs.length - ending.length)) else none

/-- An emoji in a skin tone. -/
def colour (tone : Char) : List Char → List Char
  | [] => []
  | first :: rest => first :: tone :: rest.dropWhile (· = '\ufe0f')

/-- The emoji of a short name. -/
def emoji? (name : List Char) : Option (List Char) :=
  match plainEmoji? name with
  | some e => some e
  | none =>
    skinTones.findSome? fun (ending, tone) =>
      (dropEnding? ending.toList name).bind fun base => (plainEmoji? base).map (colour tone)

/-! ## Codes -/

/-- The suffixes that ask for a presentation, with the character that selects it. -/
def presentations : List (String × Char) := [("-emoji", '\ufe0f'), ("-text", '\ufe0e')]

/-- A code without its colons as a short name and the characters that select a presentation. -/
def splitPresentation (code : List Char) : List Char × List Char :=
  match presentations.findSome? fun (ending, selector) =>
      (dropEnding? ending.toList code).map fun name => (name, [selector]) with
  | some parts => parts
  | none => (code, [])

/-- What a code between colons stands for. -/
def replaceCode (code : List Char) : List Char :=
  let (name, selector) := splitPresentation code
  match emoji? (Text.lower name) with
  | some e => e ++ selector
  | none => ':' :: code ++ [':']

/-- `cs` with its codes replaced. Every step reads a character, so fuel of the length suffices. -/
def replaceCodesFrom : (fuel : Nat) → List Char → List Char
  | 0, cs => cs
  | _ + 1, [] => []
  | fuel + 1, c :: rest =>
    if c = ':' then
      let code := rest.takeWhile fun c => c ≠ ':' && !Text.isBlank c
      match rest.drop code.length with
      | ':' :: behind => replaceCode code ++ replaceCodesFrom fuel behind
      | _ => c :: replaceCodesFrom fuel rest
    else c :: replaceCodesFrom fuel rest

/-- `cs` with its emoji codes replaced. -/
def replaceCodes (cs : List Char) : List Char := replaceCodesFrom cs.length cs

end GraphQLCache.Console
