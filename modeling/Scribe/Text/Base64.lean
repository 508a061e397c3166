/-!
# Base 64

Three bytes are written as four characters for six bits each. A group at the end that has fewer
bytes is filled up with equals signs, and the bits that belong to no byte are zero.
-/

namespace Scribe.Text

/-- The bytes of a number, the highest first. -/
def bytesOfNat (count n : Nat) : List UInt8 :=
  (List.range count).reverse.map fun i => (n / Nat.pow 256 i % 256).toUInt8

/-- The number that bytes give, the highest first. -/
def natOfBytes (bs : List UInt8) : Nat := bs.foldl (fun n b => 256 * n + b.toNat) 0

/-- The value of a character. -/
def sixBits? (c : Char) : Option Nat :=
  if c.isUpper then some (c.toNat - 65)
  else if c.isLower then some (c.toNat - 71)
  else if c.isDigit then some (c.toNat + 4)
  else if c = '+' then some 62
  else if c = '/' then some 63
  else none

/-- The character of a value below 64. -/
def sixBitChar (n : Nat) : Char :=
  if n < 26 then Char.ofNat (n + 65)
  else if n < 52 then Char.ofNat (n + 71)
  else if n < 62 then Char.ofNat (n - 4)
  else if n = 62 then '+'
  else '/'

/-- Bytes in base 64. -/
def encode64 : List UInt8 → List Char
  | [] => []
  | [a] =>
    let n := 16 * natOfBytes [a]
    [sixBitChar (n / 64), sixBitChar (n % 64), '=', '=']
  | [a, b] =>
    let n := 4 * natOfBytes [a, b]
    [sixBitChar (n / 4096), sixBitChar (n / 64 % 64), sixBitChar (n % 64), '=']
  | a :: b :: c :: rest =>
    let n := natOfBytes [a, b, c]
    sixBitChar (n / 262144) :: sixBitChar (n / 4096 % 64) :: sixBitChar (n / 64 % 64) ::
      sixBitChar (n % 64) :: encode64 rest

/-- The bytes that a text in base 64 stands for. -/
def decode64? : List Char → Option (List UInt8)
  | [] => some []
  | [a, b, '=', '='] => do
    let n := 64 * (← sixBits? a) + (← sixBits? b)
    if n % 16 = 0 then some (bytesOfNat 1 (n / 16)) else none
  | [a, b, c, '='] => do
    let n := 64 * (64 * (← sixBits? a) + (← sixBits? b)) + (← sixBits? c)
    if n % 4 = 0 then some (bytesOfNat 2 (n / 4)) else none
  | a :: b :: c :: d :: rest => do
    let n := 64 * (64 * (64 * (← sixBits? a) + (← sixBits? b)) + (← sixBits? c)) + (← sixBits? d)
    return bytesOfNat 3 n ++ (← decode64? rest)
  | _ => none

end Scribe.Text
