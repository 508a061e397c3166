import Scribe.Text.Blank

/-!
# Text as Markdown

Text from a document must not read as markup. Some characters get a backslash wherever they stand,
some only where they start a line. Runs of blanks become one space.
-/

namespace Scribe.Export

open Text

/-- Characters that are markup wherever they stand. -/
def isMarkup (c : Char) : Bool := ['<', '>', '*', '\\', '_', '~'].contains c

/-- Characters that are markup at the start of a line. -/
def isLineMarkup (c : Char) : Bool := ['=', '>', '+', '-', '#'].contains c

/-- A text with a backslash before its first character, blanks apart, if that is markup there. -/
def escapeLineStart (cs : List Char) : List Char :=
  match cs.dropWhile isBlank with
  | c :: rest => if isLineMarkup c then cs.takeWhile isBlank ++ '\\' :: c :: rest else cs
  | [] => cs

/-- The escaped form of a text, which may come at the start of a line. -/
def escape (atLineStart : Bool) (cs : List Char) : List Char :=
  let middle := cs.flatMap fun c => if isMarkup c then ['\\', c] else [c]
  if atLineStart then escapeLineStart middle else middle

/-- A text with one space for each run of two blanks or more. -/
def collapse (cs : List Char) : List Char :=
  match cs with
  | [] => []
  | c :: rest =>
    if isBlank c then
      match rest.takeWhile isBlank with
      | [] => c :: collapse rest
      | _ => ' ' :: collapse (rest.dropWhile isBlank)
    else c :: collapse rest
termination_by cs.length
decreasing_by
  all_goals
    have := (List.dropWhile_sublist isBlank (l := rest)).length_le
    simp; try omega

/-- Whether a character ends a line. -/
def isLineEnd (c : Char) : Bool := c == '\n' || c == '\r'

/-- A text without the line ends at its ends. -/
def trimLineEnds (cs : List Char) : List Char := dropWhileEnd isLineEnd (cs.dropWhile isLineEnd)

end Scribe.Export
