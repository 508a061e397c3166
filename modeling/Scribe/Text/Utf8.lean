/-!
# UTF-8

A byte sequence is read as a run of characters and of parts that are no character; such a part is
the longest start of a character that the bytes give, or a single byte. `decode?` accepts only
sequences without such parts, `decodeLossy` writes U+FFFD for each.
-/

namespace Scribe.Text

/-- The bytes of a text. -/
def bytesOf (cs : List Char) : List UInt8 := cs.flatMap String.utf8EncodeChar

/-- The number of bytes of a text. -/
def byteCount (cs : List Char) : Nat := cs.foldl (fun n c => n + c.utf8Size) 0

/-- A text, cut at a byte at which a character starts, or at its end. -/
def splitAtByte : Nat → List Char → List Char × List Char
  | 0, cs => ([], cs)
  | _ + 1, [] => ([], [])
  | n + 1, c :: cs =>
    let (front, back) := splitAtByte (n + 1 - c.utf8Size) cs
    (c :: front, back)

/-- The ranges of the bytes that follow a first byte; `none` if no character starts with it. -/
def followers? (first : UInt8) : Option (List (UInt8 × UInt8)) :=
  let any : UInt8 × UInt8 := (0x80, 0xBF)
  if first < 0x80 then some []
  else if 0xC2 ≤ first && first ≤ 0xDF then some [any]
  else if first = 0xE0 then some [(0xA0, 0xBF), any]
  else if first = 0xED then some [(0x80, 0x9F), any]
  else if 0xE1 ≤ first && first ≤ 0xEF then some [any, any]
  else if first = 0xF0 then some [(0x90, 0xBF), any, any]
  else if 0xF1 ≤ first && first ≤ 0xF3 then some [any, any, any]
  else if first = 0xF4 then some [(0x80, 0x8F), any, any]
  else none

/-- The number of bytes at the start that lie in the ranges, one after the other. -/
def following : List (UInt8 × UInt8) → List UInt8 → Nat
  | r :: rs, b :: bs => if r.1 ≤ b && b ≤ r.2 then following rs bs + 1 else 0
  | _, _ => 0

/-- The character with a first byte and the bytes that follow it. -/
def charOfBytes (first : UInt8) (rest : List UInt8) : Char :=
  let lead : Nat :=
    match rest.length with
    | 0 => first.toNat
    | 1 => first.toNat % 0x20
    | 2 => first.toNat % 0x10
    | _ => first.toNat % 0x08
  Char.ofNat (rest.foldl (fun n b => 64 * n + b.toNat % 64) lead)

/-- The characters of a byte sequence; `none` stands for a part that is no character. -/
def decodeParts : List UInt8 → List (Option Char)
  | [] => []
  | b :: bs =>
    match followers? b with
    | none => none :: decodeParts bs
    | some rs =>
      let n := following rs bs
      (if n = rs.length then some (charOfBytes b (bs.take n)) else none) ::
        decodeParts (bs.drop n)
termination_by bs => bs.length
decreasing_by all_goals simp; try omega

/-- The text of a byte sequence, if it is UTF-8. -/
def decode? (bs : List UInt8) : Option String := ((decodeParts bs).mapM id).map .ofList

/-- The text of a byte sequence, with U+FFFD for what is no character. -/
def decodeLossy (bs : List UInt8) : String :=
  .ofList ((decodeParts bs).map fun c => c.getD '\ufffd')

end Scribe.Text
