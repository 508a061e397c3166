import Scribe.Markdown.Line
import Scribe.Markdown.Span

/-!
# Blocks

Every line of a text is one block: a paragraph with its style, its list role and its spans. A blank
line is a block whose only span is empty, also when a marker gives it a style.
-/

namespace Scribe.Markdown

open Scribe.Text

/-- One paragraph: its spans, its style, and whether it is a list item. -/
structure Block where
  spans : List Span
  style : ParagraphStyle
  listItem : Bool
  deriving DecidableEq, Repr

/-- The block of one line. -/
def Block.ofLine (line : List Char) : Block :=
  let role := classify line
  { spans := if line.all isBlank then [.plain ""] else spansOf role.content
    style := role.style
    listItem := role.listItem }

/-- The text of a block, without the line feed that ends it. -/
def Block.text (b : Block) : String := String.join (b.spans.map (·.text))

/-- The text of a block with the line feed that ends it. -/
def Block.rendered (b : Block) : String := b.text ++ "\n"

/-- The blocks of a text, one for each line. -/
def parseBlocks (markdown : String) : List Block :=
  (linesOf markdown.toList).map .ofLine

end Scribe.Markdown
