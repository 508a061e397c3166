/-!
# Lines ended by a line feed

A text falls into lines that end in a line feed, which is no part of them, nor is a carriage return
directly in front of it. A last line may lack the line feed; it is then taken as it is, and a line
feed at the very end opens no further line. The elements may be characters or bytes.
-/

namespace Scribe.Text

/-- Take one `cr` off the end of a line. -/
def dropReturn [BEq α] (cr : α) (line : List α) : List α :=
  if line.getLast? == some cr then line.dropLast else line

/-- The lines of a text; `done` is the part of the current line before it, reversed. -/
def feedLinesFrom [BEq α] (lf cr : α) (done : List α) : List α → List (List α)
  | [] => if done.isEmpty then [] else [done.reverse]
  | c :: cs =>
    if c == lf then dropReturn cr done.reverse :: feedLinesFrom lf cr [] cs
    else feedLinesFrom lf cr (c :: done) cs

/-- The lines of a text. -/
def feedLines [BEq α] (lf cr : α) (text : List α) : List (List α) := feedLinesFrom lf cr [] text

end Scribe.Text
