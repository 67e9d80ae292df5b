/-!
# UTF-8 — strict decoding with the place of the first fault

A decoder that reads one byte at a time. Between the lead byte of a character and its last byte it holds a
`Pending` record; the range allowed for the next byte excludes overlong forms, surrogates and code points
beyond the last plane. The first fault stops it and is reported with the bytes that had been accepted for
the broken character.
-/

namespace GraphQLCache.Text

/-- Why bytes are no UTF-8 text. -/
inductive Utf8Fault where
  | invalidStart
  | invalidContinuation
  | unexpectedEnd
deriving DecidableEq, Repr

/-- A fault with the half-open range of bytes it concerns and the first of them. -/
structure Utf8Error where
  first : Nat
  stop : Nat
  lead : UInt8
  fault : Utf8Fault
deriving DecidableEq, Repr

/-- A character of which `seen` bytes have been read and `left` are still to come. -/
structure Pending where
  lead : UInt8
  seen : Nat
  left : Nat
  low : UInt8
  high : UInt8
  code : Nat
deriving DecidableEq, Repr

/-- What a byte beyond ASCII starts: the bytes to come and the range of the next one. -/
def startOf? (b : UInt8) : Option Pending :=
  if b < 0xC2 then none
  else if b < 0xE0 then some ⟨b, 1, 1, 0x80, 0xBF, b.toNat % 0x20⟩
  else if b < 0xF0 then
    some ⟨b, 1, 2, if b = 0xE0 then 0xA0 else 0x80, if b = 0xED then 0x9F else 0xBF, b.toNat % 0x10⟩
  else if b < 0xF5 then
    some ⟨b, 1, 3, if b = 0xF0 then 0x90 else 0x80, if b = 0xF4 then 0x8F else 0xBF, b.toNat % 0x08⟩
  else none

/-- Decoding of the bytes from position `pos` on, inside the character `pending?` if there is one. -/
def decodeFrom (pos : Nat) (pending? : Option Pending) : List UInt8 → Except Utf8Error (List Char)
  | [] =>
    match pending? with
    | none => .ok []
    | some p => .error ⟨pos - p.seen, pos, p.lead, .unexpectedEnd⟩
  | b :: rest =>
    match pending? with
    | none =>
      if b < 0x80 then (Char.ofNat b.toNat :: ·) <$> decodeFrom (pos + 1) none rest
      else
        match startOf? b with
        | none => .error ⟨pos, pos + 1, b, .invalidStart⟩
        | some p => decodeFrom (pos + 1) (some p) rest
    | some p =>
      if p.low ≤ b && b ≤ p.high then
        let code := p.code * 0x40 + b.toNat % 0x40
        if p.left ≤ 1 then (Char.ofNat code :: ·) <$> decodeFrom (pos + 1) none rest
        else
          decodeFrom (pos + 1) (some ⟨p.lead, p.seen + 1, p.left - 1, 0x80, 0xBF, code⟩) rest
      else .error ⟨pos - p.seen, pos, p.lead, .invalidContinuation⟩

/-- The text that `bytes` encode. -/
def decodeUtf8 (bytes : List UInt8) : Except Utf8Error (List Char) := decodeFrom 0 none bytes

/-- A hexadecimal digit, in lower case. -/
def hexDigit (n : Nat) : Char := if n < 10 then Char.ofNat (0x30 + n) else Char.ofNat (0x57 + n)

/-- The last `width` hexadecimal digits of `n`. -/
def hexDigits : (width n : Nat) → List Char
  | 0, _ => []
  | width + 1, n => hexDigits width (n / 16) ++ [hexDigit (n % 16)]

/-- The words for a fault. -/
def Utf8Fault.message : Utf8Fault → String
  | .invalidStart => "invalid start byte"
  | .invalidContinuation => "invalid continuation byte"
  | .unexpectedEnd => "unexpected end of data"

/-- A single byte is shown, several are named by their positions. -/
def Utf8Error.message (e : Utf8Error) : String :=
  if e.stop = e.first + 1 then
    "'utf-8' codec can't decode byte 0x" ++ String.ofList (hexDigits 2 e.lead.toNat) ++ " in position "
      ++ toString e.first ++ ": " ++ e.fault.message
  else
    "'utf-8' codec can't decode bytes in position " ++ toString e.first ++ "-" ++ toString (e.stop - 1)
      ++ ": " ++ e.fault.message

end GraphQLCache.Text
