import Scribe.Text.Blank

/-!
# Tidy Markdown

The last pass over rendered Markdown: lines of spaces are emptied, at most one empty line stands
between two others, a single space at the end of a line goes (two of them are a line break), and
nothing blank stands at the ends of the text but spaces at its start.
-/

namespace Scribe.Export

open Text

/-- The lines of a text, split at line feeds. -/
def lineList (cs : List Char) : List (List Char) := cs.splitOn '\n'

/-- A line that holds only spaces, emptied. -/
def emptyLine (cs : List Char) : List Char := if cs.all (· == ' ') then [] else cs

/-- A line without a single space at its end. -/
def dropLastSpace (cs : List Char) : List Char :=
  match cs.reverse with
  | ' ' :: c :: rest => if isBlank c then cs else (c :: rest).reverse
  | _ => cs

/-- Lines as one text. -/
def joinLines (lines : List (List Char)) : List Char := ['\n'].intercalate lines

/-- Change each line of a text. -/
def mapLines (f : List Char → List Char) (cs : List Char) : List Char :=
  joinLines ((lineList cs).map f)

/-- A text with no more than `limit` line feeds in a row; `run` of them come directly before. -/
def limitLineFeeds (limit : Nat) : Nat → List Char → List Char
  | _, [] => []
  | run, c :: cs =>
    if c = '\n' then
      if run < limit then c :: limitLineFeeds limit (run + 1) cs else limitLineFeeds limit run cs
    else c :: limitLineFeeds limit 0 cs

/-- The tidy form of a text. -/
def tidy (cs : List Char) : List Char :=
  dropWhileEnd isBlank
    ((mapLines dropLastSpace (limitLineFeeds 2 0 (mapLines emptyLine cs))).dropWhile (· == '\n'))

end Scribe.Export
