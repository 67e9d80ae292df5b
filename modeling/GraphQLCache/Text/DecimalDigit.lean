import GraphQLCache.Text.Blank

/-!
# Decimal digits — the digits of every script and the integers they spell

The decimal digits of each script stand in a row of ten, zero first, so a table of zeros gives the value of
any digit (Unicode 14.0). `readInteger?` reads an integer as a person types it: blanks around it, one sign,
digits of any script, and single underscores between digits.
-/

namespace GraphQLCache.Text

/-- The code points of the digit zero in each script. -/
def digitZeros : List Nat :=
  [0x30, 0x660, 0x6F0, 0x7C0, 0x966, 0x9E6, 0xA66, 0xAE6, 0xB66, 0xBE6, 0xC66, 0xCE6, 0xD66, 0xDE6,
   0xE50, 0xED0, 0xF20, 0x1040, 0x1090, 0x17E0, 0x1810, 0x1946, 0x19D0, 0x1A80, 0x1A90, 0x1B50, 0x1BB0,
   0x1C40, 0x1C50, 0xA620, 0xA8D0, 0xA900, 0xA9D0, 0xA9F0, 0xAA50, 0xABF0, 0xFF10, 0x104A0, 0x10D30,
   0x11066, 0x110F0, 0x11136, 0x111D0, 0x112F0, 0x11450, 0x114D0, 0x11650, 0x116C0, 0x11730, 0x118E0,
   0x11950, 0x11C50, 0x11D50, 0x11DA0, 0x16A60, 0x16AC0, 0x16B50, 0x1D7CE, 0x1D7D8, 0x1D7E2, 0x1D7EC,
   0x1D7F6, 0x1E140, 0x1E2F0, 0x1E950, 0x1FBF0]

/-- The value of a decimal digit of any script. -/
def digitValue? (c : Char) : Option Nat :=
  (digitZeros.find? fun base => base ≤ c.toNat && c.toNat < base + 10).map (c.toNat - ·)

/-- The most digits an integer may be written with. -/
def maxIntegerDigits : Nat := 4300

/-- Digits with single underscores between them, most significant first; `digitNext` asks for a digit
    before the text may end. -/
def readDigits? (digitNext : Bool) : List Char → Option (List Nat)
  | [] => if digitNext then none else some []
  | c :: rest =>
    if c = '_' then
      if digitNext then none else readDigits? true rest
    else do
      let d ← digitValue? c
      let ds ← readDigits? false rest
      pure (d :: ds)

/-- The number that digits spell, most significant first. -/
def digitsToNat (ds : List Nat) : Nat := ds.foldl (fun n d => 10 * n + d) 0

/-- An unsigned integer of at most `maxIntegerDigits` digits. -/
def readNatural? (cs : List Char) : Option Nat := do
  let ds ← readDigits? true cs
  if ds.length ≤ maxIntegerDigits then some (digitsToNat ds) else none

/-- An integer as a person types it, with blanks around it and a sign in front. -/
def readInteger? (cs : List Char) : Option Int :=
  match trim cs with
  | '-' :: rest => (readNatural? rest).map fun n => -(n : Int)
  | '+' :: rest => (readNatural? rest).map Int.ofNat
  | rest => (readNatural? rest).map Int.ofNat

end GraphQLCache.Text
