import Scribe.Text.Utf8

/-!
# Percent-encoding

A byte is written as `%` and two hexadecimal digits where a text must not hold it as it is. Which
bytes these are depends on the place, so the encoder takes them as a predicate.
-/

namespace Scribe.Text

/-- A hexadecimal digit in upper case. -/
def hexDigit (n : Nat) : Char := (Nat.digitChar n).toUpper

/-- The encoded form of a byte. -/
def percentByte (b : UInt8) : List Char := ['%', hexDigit (b.toNat / 16), hexDigit (b.toNat % 16)]

/-- A text with the bytes encoded that satisfy `p`; beyond ASCII every byte is. -/
def percentEncode (p : Char → Bool) (s : String) : String :=
  .ofList (s.toList.flatMap fun c =>
    if 0x80 ≤ c.toNat || p c then (String.utf8EncodeChar c).flatMap percentByte else [c])

/-- The value of a hexadecimal digit. -/
def hexValue? (b : UInt8) : Option UInt8 :=
  if 48 ≤ b && b ≤ 57 then some (b - 48)
  else if 65 ≤ b && b ≤ 70 then some (b - 55)
  else if 97 ≤ b && b ≤ 102 then some (b - 87)
  else none

/-- Bytes with their encoded forms resolved. -/
def percentDecodeBytes : List UInt8 → List UInt8
  | 37 :: a :: b :: rest =>
    match hexValue? a, hexValue? b with
    | some x, some y => (16 * x + y) :: percentDecodeBytes rest
    | _, _ => 37 :: percentDecodeBytes (a :: b :: rest)
  | b :: rest => b :: percentDecodeBytes rest
  | [] => []

/-- A text with its encoded bytes resolved, if the bytes are a text. -/
def percentDecode? (s : String) : Option String := decode? (percentDecodeBytes (bytesOf s.toList))

/-- A text with its encoded bytes resolved and U+FFFD for what is no text. -/
def percentDecode (s : String) : String := decodeLossy (percentDecodeBytes (bytesOf s.toList))

end Scribe.Text
