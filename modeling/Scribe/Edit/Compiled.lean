import Scribe.Edit.Request
import Scribe.Markdown.Block
import Scribe.Text.Units

/-!
# Compiled documents

Blocks compile to one blob of text, in which a line feed ends every block, and to the formattings of
that text. A block starts where the blocks before it end, and a span where the spans before it end;
all lengths are in UTF-16 units. The edit that fills an empty body inserts the blob and then applies
the formattings in order.
-/

namespace Scribe.Edit

open Scribe.Text Scribe.Markdown

/-- The offset of the first unit of a body. -/
def bodyStart : Nat := 1

/-- The emphasis formattings of spans that stand one after the other from `offset` on. -/
def emphases : Nat → List Span → List Formatting
  | _, [] => []
  | offset, s :: rest =>
    let here :=
      if s.isEmphasized then
        (Extent.ofLength? offset (units s.text)).toList.map
          (.emphasis · s.bold s.italicOrCode)
      else []
    here ++ emphases (offset + units s.text) rest

/-- The formattings of a block that starts at `offset`: its style, its bullet, its emphases. -/
def formattingsOf (offset : Nat) (b : Block) : List Formatting :=
  let whole : Extent := ⟨offset, offset + units b.rendered⟩
  (if b.style = .body then [] else [.paragraph whole b.style])
    ++ (if b.listItem then [.bullet whole] else [])
    ++ emphases offset b.spans

/-- The formattings of blocks that stand one after the other from `offset` on. -/
def formattingsFrom : Nat → List Block → List Formatting
  | _, [] => []
  | offset, b :: rest =>
    formattingsOf offset b ++ formattingsFrom (offset + units b.rendered) rest

/-- A text with its formattings. -/
structure Compiled where
  text : String
  formattings : List Formatting
  deriving DecidableEq, Repr

namespace Compiled

/-- Whether there is no text. -/
def isEmpty (c : Compiled) : Bool := c.text.isEmpty

/-- The offset behind the last unit of the text. -/
def endOffset (c : Compiled) : Nat := bodyStart + units c.text

/-- The requests that bring the text and its formattings into an empty body. -/
def requests (c : Compiled) : List Request :=
  if c.isEmpty then [] else .insert bodyStart c.text :: c.formattings.map .format

end Compiled

/-- Compile blocks. -/
def compileBlocks (blocks : List Block) : Compiled :=
  ⟨String.join (blocks.map (·.rendered)), formattingsFrom bodyStart blocks⟩

/-- Compile a Markdown text. -/
def compile (markdown : String) : Compiled := compileBlocks (parseBlocks markdown)

end Scribe.Edit
