import Scribe.Export.Embed
import Scribe.Export.Escape
import Scribe.Export.Tidy
import Scribe.Export.Written
import Scribe.Html.Node
import Scribe.Text.Percent
import Scribe.Text.Search

/-!
# Nodes as Markdown

A tree is rendered by one walk that appends to what has been written. An element may write before
its content and, behind it, change what its content has written: quotes and list items indent it,
emphasis puts marks around it. Such places are offsets in bytes into the written text.
-/

namespace Scribe.Export

open Text Html

/-- Where a node stands: the names of the elements around it, innermost first, and the number of
elements in front of it among its siblings. -/
structure Position where
  around : List String
  index : Nat

/-- A text with an indent behind each line feed. -/
def indentLines (indent : List Char) (cs : List Char) : List Char :=
  cs.flatMap fun c => if c = '\n' then '\n' :: indent else [c]

/-! ### Text and tags -/

/-- Write text behind what has been written. -/
def writeText (around : List String) (w : Written) (content : String) : Written :=
  let cs := content.toList
  if around.contains "pre" then w.push cs
  else if cs.all isBlank && (w.last? == some '\n' || w.last? == some ' ') then w
  else
    let cs := if around.contains "code" then cs else escape w.atLineStart cs
    w.push (trimLineEnds (collapse cs))

/-- An attribute as it is written in a tag, without escapes. -/
def plainAttribute (a : Attribute) : String := " " ++ a.1 ++ "=\"" ++ a.2 ++ "\""

/-- Whether a character of an address is encoded in an image. -/
def isEncodedInImage (c : Char) : Bool :=
  c.toNat < 0x20 || c.toNat = 0x7F || [' ', '"', '<', '>', '\x60'].contains c

/-- An image; one with a size or an alignment stays HTML. -/
def image (n : Node) : String :=
  let sized := ["height", "width", "align"].any fun key => (n.attribute? key).isSome
  if sized then n.markup
  else
    let source := (n.attribute? "src").getD ""
    let source :=
      if source.toList.contains ' ' then percentEncode isEncodedInImage source else source
    "![" ++ (n.attribute? "alt").getD "" ++ "](" ++ source ++
      ((n.attribute? "title").elim "" fun title => " \"" ++ title ++ "\"") ++ ")"

/-- Whether an image is set apart from the text around it, which its source says. -/
def isBlockImage (n : Node) : Bool :=
  (n.attribute? "src").any fun source => contains "display: block" source

/-- A frame: a work of a known service, or HTML. One without a source shows nothing. -/
def frame (n : Node) : String :=
  (n.attribute? "src").elim "" fun source =>
    (Embed.ofSource? source).elim n.markup Embed.markdown

/-- The target of a link; an address whose encoded bytes are no text is none. -/
def target (n : Node) : String :=
  let url := (percentDecode? ((n.attribute? "href").getD "")).getD ""
  if url.toList.any fun c => c.isWhitespace || c == '\x0c' then "<" ++ url ++ ">" else url

/-- The language of preformatted text, which a class of the first code in it names. -/
def language (n : Node) : String :=
  let classes : List (List Char) :=
    match n.children.find? fun c => c.name == "code" with
    | none => []
    | some code => ((code.attribute? "class").getD "").toList.splitOnP isBlank
  ((classes.findSome? (dropPattern? "language-".toList)).map String.ofList).getD ""

/-! ### Before and behind the content -/

/-- The names of the lists. -/
def listNames : List String := ["ul", "ol", "menu"]

/-- The mark of an emphasis. -/
def emphasisMark? (name : String) : Option String :=
  if name = "b" || name = "strong" then some "**"
  else if name = "i" || name = "em" then some "*"
  else if name = "s" || name = "del" then some "~~"
  else none

/-- The number signs of a heading; the two largest are underlined instead. -/
def headingSigns? (name : String) : Option String :=
  match name with
  | "h3" => some "###"
  | "h4" => some "####"
  | "h5" => some "#####"
  | "h6" => some "######"
  | _ => none

/-- What an element writes before its content. -/
def opening (p : Position) (n : Node) (w : Written) : String :=
  match n.name with
  | "div" | "section" | "header" | "footer" | "p" | "h1" | "h2" => "\n\n"
  | "h3" | "h4" | "h5" | "h6" => "\n\n" ++ (headingSigns? n.name).getD "" ++ " "
  | "q" | "cite" | "blockquote" => "\n"
  | "details" | "summary" =>
    match n with
    | .element _ name _ _ =>
      "<" ++ name ++ String.join (n.attributes.map plainAttribute) ++ ">"
    | _ => ""
  | "pre" => "\n\n\x60\x60\x60" ++ language n ++ "\n"
  | "code" => "\x60"
  | "img" => (if isBlockImage n then "\n\n" else "") ++ image n
  | "iframe" => "\n\n" ++ frame n
  | "a" => if (n.attribute? "name").isSome then n.markup else ""
  | "sub" | "sup" => n.markup
  | "ul" | "ol" | "menu" => if p.around.any listNames.contains then "\n" else "\n\n"
  | "li" =>
    match p.around.find? listNames.contains with
    | none => ""
    | some list =>
      (if w.last? == some '\n' then "" else "\n") ++
        if list = "ol" then toString (p.index + 1) ++ ". " else "* "
  | _ => ""

/-- Put a mark around the text from an offset on, blanks at its ends apart. -/
def markFrom (mark : List Char) (start : Nat) (w : Written) : Written :=
  let (before, content) := w.cutAt start
  let middle := dropWhileEnd isBlank (content.dropWhile isBlank)
  if middle.isEmpty then w
  else
    before.push (content.takeWhile isBlank ++ mark ++ middle ++ mark ++
      (content.reverse.takeWhile isBlank).reverse)

/-- Make a quote of the text from an offset on. -/
def quoteFrom (start : Nat) (w : Written) : Written :=
  let (before, content) := w.cutAt start
  before.push (['>', ' '] ++ indentLines ['>', ' '] content ++ ['\n', '\n'])

/-- Make a list item of the text from an offset on. -/
def itemFrom (start padding : Nat) (w : Written) : Written :=
  let (before, content) := w.cutAt start
  before.push
    (indentLines (List.replicate padding ' ') (content.dropWhile fun c => c == '\n' || c == ' '))

/-- The text with what an element does behind its content, which starts at an offset. -/
def closing (p : Position) (n : Node) (start : Nat) (w : Written) : Written :=
  match n.name with
  | "div" | "section" | "header" | "footer" | "p" | "ul" | "ol" | "menu" | "iframe" =>
    w.pushText "\n\n"
  | "img" => if isBlockImage n then w.pushText "\n\n" else w
  | "br" => w.pushText "  \n"
  | "hr" => w.pushText "\n---\n"
  | "h1" => w.pushText "\n==========\n\n"
  | "h2" => w.pushText "\n----------\n\n"
  | "h3" | "h4" | "h5" | "h6" => w.pushText (" " ++ (headingSigns? n.name).getD "" ++ "\n\n")
  | "b" | "strong" | "i" | "em" | "s" | "del" =>
    markFrom ((emphasisMark? n.name).getD "").toList start w
  | "q" | "cite" | "blockquote" => quoteFrom start w
  | "details" | "summary" => w.pushText ("</" ++ n.name ++ ">")
  | "pre" => w.pushText "\n\x60\x60\x60\n\n"
  | "code" => w.pushText "\x60"
  | "a" =>
    if (n.attribute? "name").isSome then w
    else
      let (before, content) := w.cutAt start
      before.push ('[' :: content ++ (']' :: '(' :: (target n).toList) ++ [')'])
  | "li" =>
    match p.around.find? listNames.contains with
    | none => itemFrom 0 4 w
    | some "ul" => itemFrom start 2 w
    | some "ol" => itemFrom start 3 w
    | some _ => itemFrom start 4 w
  | _ => w

/-! ### Tables -/

/-- A text centred in a column; an odd space goes behind it. -/
def centred (width : Nat) (cs : List Char) : List Char :=
  let missing := width - cs.length
  List.replicate (missing / 2) ' ' ++ cs ++ List.replicate (missing - missing / 2) ' '

/-- The divider below a header cell. -/
def divider (width : Nat) (align : String) : List Char :=
  let dashes (n : Nat) : List Char := List.replicate n '-'
  match align with
  | "left" => ':' :: dashes (width - 1)
  | "center" => ':' :: dashes (width - 2) ++ [':']
  | "right" => dashes (width - 1) ++ [':']
  | _ => dashes width

/-- The cells of one row between bars, and a line feed. -/
def rowLine (cells : List (List Char)) : List Char :=
  '|' :: cells.flatMap (fun cell => cell ++ ['|']) ++ ['\n']

/-- A table of rows, each a list of cells with alignment and text. The first row is the header. -/
def tableText (rows : List (List (String × List Char))) : List Char :=
  let count := (rows.map List.length).foldl max 0
  let columns := List.range count
  let width (i : Nat) : Nat := (rows.filterMap fun r => r[i]?.map fun c => c.2.length).foldl max 3
  let line (row : List (String × List Char)) : List Char :=
    rowLine (columns.map fun i => centred (width i) (row[i]?.elim [] (·.2)))
  match rows with
  | [] => []
  | header :: rest =>
    line header ++ rowLine (columns.map fun i => divider (width i) (header[i]?.elim "" (·.1))) ++
      rest.flatMap line

mutual

/-- The elements with a name below a node, in document order. -/
def descendants (name : String) : Node → List Node
  | .element _ _ _ children => descendantsOf name children
  | _ => []

/-- The elements with a name among some nodes and below them, in document order. -/
def descendantsOf (name : String) : List Node → List Node
  | [] => []
  | n :: rest =>
    (if n.name == name then [n] else []) ++ descendants name n ++ descendantsOf name rest

end

/-! ### The walk -/

mutual

/-- Write a node behind what has been written. The depth bounds the levels that are visited. -/
def render (depth : Nat) (p : Position) (n : Node) (w : Written) : Written :=
  match depth with
  | 0 => w
  | depth + 1 =>
    match n with
    | .text content => writeText p.around w content
    | .comment _ => w
    | .element _ name _ children =>
      let inside := name :: p.around
      if p.around.contains "pre" then renderAll depth inside 0 children w
      else if name = "table" then
        let cells (row : Node) : List Node :=
          row.children.filter fun c => c.name == "td" || c.name == "th"
        let rows := (descendants "tr" n).map fun row => (cells row).map fun cell =>
          ((cell.attribute? "align").getD "",
            replaceAll ['\n'] "<br/>".toList (tidy (render depth ⟨[], 0⟩ cell .empty).text))
        if rows.isEmpty then w else w.push ('\n' :: '\n' :: tableText rows)
      else
        let opened := w.pushText (opening p n w)
        let content :=
          if ["sub", "sup", "iframe"].contains name then opened
          else renderAll depth inside 0 children opened
        closing p n opened.size content

/-- Write siblings one after the other; `index` elements stand in front of them. -/
def renderAll (depth : Nat) (around : List String) (index : Nat) (ns : List Node)
    (w : Written) : Written :=
  match ns with
  | [] => w
  | n :: rest =>
    renderAll depth around (if n.isElement then index + 1 else index) rest
      (render depth ⟨around, index⟩ n w)

end

/-- Nodes as Markdown. -/
def renderNodes (nodes : List Node) : List Char :=
  tidy (renderAll (Node.heightOfAll nodes) [] 0 nodes .empty).text

end Scribe.Export
