import Scribe.Export.Link
import Scribe.Export.Render
import Scribe.Html.Document

/-!
# Markdown of exported documents

A document is exported as HTML and read as Markdown. Targets of links are dropped and their text is
kept; images stay. The result is empty or ends in exactly one line feed.
-/

namespace Scribe.Export

open Text

/-- A text without line feeds at its start and blanks at its end; one line feed ends it, if anything
is left. -/
def finishLine (cs : List Char) : List Char :=
  match dropWhileEnd isBlank (cs.dropWhile (· == '\n')) with
  | [] => []
  | cs => cs ++ ['\n']

/-- The Markdown of a document. -/
def markdown (html : String) : String :=
  .ofList (finishLine (dropTargets (renderNodes (Html.Document.read html))))

end Scribe.Export
