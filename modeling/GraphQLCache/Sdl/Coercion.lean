import GraphQLCache.Sdl.Spelling
import GraphQLCache.Sdl.Standard
import GraphQLCache.Sdl.Suggestion
import GraphQLCache.Text.DecimalDigit

/-!
# Coercion — which literals stand for values of scalars and enumerations

An integer stands for a float, and a text or an integer for an id; otherwise a literal stands for the
standard scalar of its own kind. A scalar that is not standard takes any literal, and an enumeration the
names of its values. A `Misfit` is the reason why a literal does not stand for a value of a type.
-/

namespace GraphQLCache.Sdl

/-! ## Misfits -/

/-- Why a literal does not fit a type. What was found is kept as it is spelt. -/
inductive Misfit where
  | null (type : TypeExpr)
  | notObject (type found : String)
  | missingField (type field found : String)
  | unknownField (type field : String) (meant : List String) (found : String)
  | notOneField (type : String)
  | notScalar (scalar found : String)
  | intTooLarge (digits : String)
  | intTooLong (digits : String) (count : Nat)
  | notEnumValue (enum found : String) (meant : List String)
  | unknownEnumValue (enum value : String) (meant : List String)
  | notLeaf (type : String)
deriving DecidableEq, Repr

/-- The standard scalars, each with the words for a value that is none of its own. -/
def foreignWords : List (String × String) :=
  [("Int", "non-integer value"), ("Float", "non numeric value"), ("String", "a non string value"),
   ("Boolean", "a non boolean value"), ("ID", "a non-string and non-integer value")]

/-- The words for a misfit. -/
def Misfit.message : Misfit → String
  | .null type => "Expected value of non-null type '" ++ type.spelling ++ "' not to be None."
  | .notObject type found => "Expected value of type '" ++ type ++ "' to be an object, found: " ++ found ++ "."
  | .missingField type field found =>
    "Expected value of type '" ++ type ++ "' to include required field '" ++ field ++ "', found: " ++ found
      ++ "."
  | .unknownField type field meant found =>
    "Expected value of type '" ++ type ++ "' not to include unknown field '" ++ field ++ "'"
      ++ (if meant.isEmpty then ", found: " else "." ++ didYouMean meant ++ " Found: ") ++ found ++ "."
  | .notOneField type =>
    "Within OneOf Input Object type '" ++ type
      ++ "', exactly one field must be specified, and the value for that field must be non-null."
  | .notScalar scalar found =>
    scalar ++ " cannot represent " ++ (foreignWords.lookup scalar).getD "" ++ ": " ++ found
  | .intTooLarge digits => "Int cannot represent non 32-bit signed integer value: " ++ digits
  | .intTooLong digits count =>
    "Expected value of type 'Int', but encountered error 'Exceeds the limit ("
      ++ toString Text.maxIntegerDigits ++ " digits) for integer string conversion: value has "
      ++ toString count ++ " digits; use sys.set_int_max_str_digits() to increase the limit'; found: "
      ++ digits ++ "."
  | .notEnumValue enum found meant =>
    "Enum '" ++ enum ++ "' cannot represent non-enum value: " ++ found ++ "."
      ++ didYouMeanOne "the enum value" meant
  | .unknownEnumValue enum value meant =>
    "Value '" ++ value ++ "' does not exist in '" ++ enum ++ "' enum." ++ didYouMeanOne "the enum value" meant
  | .notLeaf type => "Expected " ++ type ++ " to be a GraphQL leaf type."

/-! ## Scalars and enumerations -/

/-- Why digits are no integer of 32 bits. -/
def intMisfit? (digits : String) : Option Misfit :=
  let (negative, ds) :=
    match digits.toList with
    | '-' :: rest => (true, rest)
    | ds => (false, ds)
  if Text.maxIntegerDigits < ds.length then some (.intTooLong digits ds.length)
  else
    let size := ds.foldl (fun n d => 10 * n + (d.toNat - 0x30)) 0
    if size < Nat.pow 2 31 || (negative && size = Nat.pow 2 31) then none else some (.intTooLarge digits)

/-- Why a literal that is not null is no value of a scalar. -/
def scalarMisfit? (scalar : String) (literal : Literal) : Option Misfit :=
  match scalar, literal with
  | "Int", .int digits => intMisfit? digits
  | "Float", .int _ => none
  | "Float", .float _ => none
  | "String", .text _ => none
  | "String", .blockText _ => none
  | "Boolean", .bool _ => none
  | "ID", .text _ => none
  | "ID", .blockText _ => none
  | "ID", .int _ => none
  | _, _ => (foreignWords.lookup scalar).map fun _ => .notScalar scalar literal.spelling

/-- Why a literal that is not null is no value of an enumeration. -/
def enumMisfit? (enum : String) (values : List String) (literal : Literal) : Option Misfit :=
  let found := literal.spelling
  match literal with
  | .enum value =>
    if values.contains value then none else some (.unknownEnumValue enum value (suggestions found values))
  | _ => some (.notEnumValue enum found (suggestions found values))

/-- Why a literal is no text, where a text is needed. -/
def textMisfit? : Literal → Option Misfit
  | .null => some (.null (.nonNull (.named "String")))
  | literal => scalarMisfit? "String" literal

end GraphQLCache.Sdl
