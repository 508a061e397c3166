import Scribe.Text.Base64
import Scribe.Text.Blank
import Scribe.Text.Lines

/-!
# Armour

Data comes as text between two marks with the same label. The marks are `-----BEGIN label-----` and
`-----END label-----`; between them stand headers, an empty line, and the data in base 64. Without
an empty line there are no headers. Blanks do not count in the data, and the first armour of a text
is the only one that is read.
-/

namespace Scribe.Remote

open Text

/-- Data with a label. -/
structure Armour where
  label : String
  data : List UInt8

namespace Armour

/-- The text in front of a mark, and the text behind it, when `left` is what is still missing of the
mark behind the characters `seen`, the last one first. A character that breaks the mark off does not
start it anew. -/
def splitAtMark? (mark : List Char) : List Char → List Char → List Char →
    Option (List Char × List Char)
  | seen, [], cs => some ((seen.drop mark.length).reverse, cs)
  | _, _ :: _, [] => none
  | seen, m :: left, c :: cs =>
    splitAtMark? mark (c :: seen) (if c = m then left else mark) cs

/-- The text in front of a mark, and the text behind it. -/
def cutAt? (mark : String) (cs : List Char) : Option (List Char × List Char) :=
  splitAtMark? mark.toList [] mark.toList cs

/-- Whether a character is skipped behind the first mark. -/
def isGap (c : Char) : Bool := c == ' ' || c == '\t' || c == '\n' || c == '\r'

/-- The headers in front of an empty line, and the data behind it. -/
def headersAndData (cs : List Char) : List Char × List Char :=
  ((cutAt? "\n\n" cs).or (cutAt? "\r\n\r\n" cs)).getD ([], cs)

/-- The first armour of a text. -/
def ofText? (text : String) : Option Armour := do
  let (_, rest) ← cutAt? "-----BEGIN " text.toList
  let (label, rest) ← cutAt? "-----" rest
  let (body, rest) ← cutAt? "-----END " (rest.dropWhile isGap)
  let (endLabel, _) ← cutAt? "-----" rest
  let (headers, data) := headersAndData body
  if label.isEmpty || label != endLabel then none
  else if !(feedLines '\n' '\r' headers).all (·.contains ':') then none
  else return ⟨.ofList label, ← decode64? (data.filter (!isBlank ·))⟩

end Armour

end Scribe.Remote
