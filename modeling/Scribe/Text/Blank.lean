import Scribe.Text.Range

/-!
# Blank characters

A character is *blank* when it has the Unicode property `White_Space`: twenty-five code points in
ten ranges. The separators U+001C to U+001F, the zero-width space and the byte-order mark are not
blank. Trimming removes blank characters at an end, and a text is blank when it holds no others.
-/

namespace Scribe.Text

/-- The blank code points, as closed ranges in ascending order. -/
def blankRanges : List (Nat × Nat) :=
  [(0x09, 0x0D), (0x20, 0x20), (0x85, 0x85), (0xA0, 0xA0), (0x1680, 0x1680), (0x2000, 0x200A),
   (0x2028, 0x2029), (0x202F, 0x202F), (0x205F, 0x205F), (0x3000, 0x3000)]

/-- Whether a character has the property `White_Space`. -/
def isBlank (c : Char) : Bool := inRanges blankRanges c.toNat

/-- Whether every character of a text is blank. -/
def allBlank (s : String) : Bool := s.toList.all isBlank

/-- Drop the elements at the end of a list that satisfy `p`. -/
def dropWhileEnd (p : α → Bool) (l : List α) : List α :=
  (l.reverse.dropWhile p).reverse

/-- A text without the blank characters at its start. -/
def trimStart (s : String) : String := .ofList (s.toList.dropWhile isBlank)

/-- A text without the blank characters at its end. -/
def trimEnd (s : String) : String := .ofList (dropWhileEnd isBlank s.toList)

/-- A text without the blank characters at either end. -/
def trim (s : String) : String := .ofList (dropWhileEnd isBlank (s.toList.dropWhile isBlank))

end Scribe.Text
