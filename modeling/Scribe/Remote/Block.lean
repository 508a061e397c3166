import Scribe.Text.Utf8

/-!
# Blocks

The data of a key is a row of blocks: each has a tag, a length and a value, and the value of a
sequence is again such a row. A row has at least one block. Only what tells the kind of a key and
holds its numbers is kept; the values of the other kinds of blocks are checked and forgotten.
-/

namespace Scribe.Remote

/-- A block. The value of an identifier is a path of numbers. -/
inductive Block where
  | sequence (items : List Block)
  | identifier (path : List Nat)
  | bytes (value : List UInt8)
  | other
  deriving Repr

namespace Block

/-! ### Tags and lengths -/

/-- A number in digits of seven bits, whose last has no eighth bit, and what follows it. -/
def sevenBits? (n : Nat) : List UInt8 → Option (Nat × List UInt8)
  | [] => none
  | b :: rest =>
    let n := 128 * n + b.toNat % 128
    if b < 0x80 then some (n, rest) else sevenBits? n rest

/-- The number of a tag that starts with a byte, and what follows the tag. -/
def tagNumber? (tag : UInt8) (rest : List UInt8) : Option (Nat × List UInt8) :=
  if tag % 0x20 = 0x1F then sevenBits? 0 rest else some ((tag % 0x20).toNat, rest)

/-- The length in front of a value, and the rest. -/
def length? : List UInt8 → Option (Nat × List UInt8)
  | [] => none
  | b :: rest =>
    if b < 0x80 then some (b.toNat, rest)
    else
      let count := b.toNat - 0x80
      if 8 < count || rest.length < count then none
      else some ((rest.take count).foldl (fun n b => 256 * n + b.toNat) 0, rest.drop count)

/-! ### Values -/

/-- Numbers of seven-bit digits, when `begun` is the start of the first. -/
def numbers? (begun : Option Nat) : List UInt8 → Option (List Nat)
  | [] => if begun.isNone then some [] else none
  | b :: rest =>
    let n := 128 * begun.getD 0 + b.toNat % 128
    if b < 0x80 then (numbers? none rest).map (n :: ·) else numbers? (some n) rest

/-- The path of an identifier. Its first byte stands for two numbers. -/
def path? : List UInt8 → Option (List Nat)
  | [] => none
  | b :: rest =>
    let first := min 2 (b.toNat / 40)
    (numbers? none rest).map ([first, b.toNat - 40 * first] ++ ·)

/-- The bits of a string of bits, in bytes, if no more of them are unused than there are. -/
def bitString? : List UInt8 → Option (List UInt8)
  | [] => some []
  | unused :: bits => if 8 * bits.length < unused.toNat then none else some bits

/-- Whether a byte is a character of simple printed text. -/
def isPrintable (b : UInt8) : Bool :=
  let c := Char.ofNat b.toNat
  c.isAlphanum || " '()+,-./:=?".toList.contains c

/-- The number that decimal digits give. -/
def decimal? (bs : List UInt8) : Option Nat :=
  bs.foldlM (fun n b => if 48 ≤ b && b ≤ 57 then some (10 * n + (b.toNat - 48)) else none) 0

/-- The number of days of a month. -/
def daysIn (year month : Nat) : Nat :=
  if month = 2 then
    if year % 4 = 0 && (year % 100 != 0 || year % 400 = 0) then 29 else 28
  else if [4, 6, 9, 11].contains month then 30
  else 31

/-- Whether a year and ten digits are a date and a time of day. -/
def isTime (year : Nat) (bs : List UInt8) : Bool :=
  let two (i : Nat) : Nat := (decimal? ((bs.drop (2 * i)).take 2)).getD 0
  bs.length == 10 && (decimal? bs).isSome && 1 ≤ two 0 && two 0 ≤ 12 && 1 ≤ two 1 &&
    two 1 ≤ daysIn year (two 0) && two 2 < 24 && two 3 < 60 && two 4 < 60

/-- Whether a value is a time whose year has two digits, of the years from 1950 to 2049. -/
def isShortTime (bs : List UInt8) : Bool :=
  match decimal? (bs.take 2) with
  | none => false
  | some yy =>
    bs.length == 13 && bs.getLast? == some 90 &&
      isTime (if 50 ≤ yy then 1900 + yy else 2000 + yy) ((bs.drop 2).take 10)

/-- Whether a value is a time whose year has four digits; fractions of a second may follow. -/
def isLongTime (bs : List UInt8) : Bool :=
  let behind := bs.drop 14
  let fraction := if behind.head? == some 46 then behind.tail else behind
  match decimal? (bs.take 4) with
  | none => false
  | some year =>
    isTime year ((bs.drop 4).take 10) && fraction.getLast? == some 90 &&
      (decimal? fraction.dropLast).isSome

/-- Whether a value fits the number of its tag. -/
def isValid (tag : Nat) (bs : List UInt8) : Bool :=
  match tag with
  | 0x01 => bs.length == 1
  | 0x0C | 0x14 | 0x1C | 0x1E => (Text.decode? bs).isSome
  | 0x13 => bs.all isPrintable
  | 0x17 => isShortTime bs
  | 0x18 => isLongTime bs
  | _ => true

/-! ### Rows -/

/-- Read blocks to the end; `fuel` bounds their number and depth. -/
def rowIn? : Nat → List UInt8 → Option (List Block)
  | _, [] => some []
  | 0, _ => none
  | fuel + 1, tag :: rest => do
    let row (body : List UInt8) : Option (List Block) :=
      (rowIn? fuel body).filter (!·.isEmpty)
    let (number, rest) ← tagNumber? tag rest
    let (length, rest) ← length? rest
    if rest.length < length then none
    else
      let body := rest.take length
      let block ←
        if 0x40 ≤ tag then some .other
        else
          match number with
          | 0x03 => (bitString? body).map .bytes
          | 0x04 => some (.bytes body)
          | 0x06 => (path? body).map .identifier
          | 0x10 => (row body).map .sequence
          | 0x11 => (row body).map fun _ => .other
          | _ => if isValid number body then some .other else none
      return block :: (← rowIn? fuel (rest.drop length))

/-- Read a row of blocks. -/
def row? (data : List UInt8) : Option (List Block) :=
  (rowIn? (data.length + 1) data).filter (!·.isEmpty)

mutual

/-- The blocks of a block that are no sequences, in order. -/
def leaves : Block → List Block
  | .sequence items => leavesOfAll items
  | .identifier path => [.identifier path]
  | .bytes value => [.bytes value]
  | .other => [.other]

/-- The blocks of a row that are no sequences, in order. -/
def leavesOfAll : List Block → List Block
  | [] => []
  | b :: rest => leaves b ++ leavesOfAll rest

end

end Block

end Scribe.Remote
