import Scribe.Html.Draft
import Scribe.Html.Token

/-!
# Open elements

While a document is read, some elements are open, and some formatting is in force: it is taken up
again when a tag has closed it in passing. This module holds that state and the steps that all parts
of the reading share: where a node goes, which elements a tag closes, and how formatting elements
that overlap other elements are split. Both lists have the innermost element first.
-/

namespace Scribe.Html

/-- The part of a document that is being read. -/
inductive Section where
  | initial
  | beforeHtml
  | beforeHead
  | inHead
  | afterHead
  | inBody
  | rawText
  | inTable
  | inTableText
  | inCaption
  | inColumnGroup
  | inTableBody
  | inRow
  | inCell
  | inTemplate
  | afterBody
  | inFrameset
  | afterFrameset
  | afterAfterBody
  | afterAfterFrameset
  deriving DecidableEq, Repr

/-- A start tag. -/
structure Tag where
  name : String
  attributes : List Attribute
  selfClosing : Bool
  deriving Repr

/-- Formatting in force: an element with the tag that made it, or the edge of a part of the document
that formatting does not reach across. -/
inductive Formatting where
  | edge
  | entry (id : Nat) (tag : Tag)
  deriving Repr

/-- The state of reading a document. -/
structure Standing where
  draft : Draft
  opened : List Nat
  formatting : List Formatting
  part : Section
  partBehind : Section
  templates : List Section
  contents : List (Nat × Nat)
  head : Option Nat
  form : Option Nat
  framesetAllowed : Bool
  fostering : Bool
  dropLineFeed : Bool
  tableText : List Char
  paragraphsHoldTables : Bool
  textMode : TextMode
  textName : String
  deriving Repr

/-- The state before the first token. -/
def Standing.start : Standing :=
  ⟨.empty, [], [], .initial, .initial, [], [], none, none, true, false, false, [], false, .data, ""⟩

/-- A step of reading a document. -/
abbrev Reading := StateM Standing

namespace Standing

/-- The innermost open element; the document if there is none. -/
def current (s : Standing) : Nat := s.opened.headD 0

/-- The name of the innermost open element. -/
def currentName (s : Standing) : String := s.draft.name s.current

/-- Whether the innermost open element has one of some names. -/
def currentIn (s : Standing) (names : List String) : Bool := names.contains s.currentName

/-- Whether an element with a name is open. -/
def hasOpen (s : Standing) (name : String) : Bool := s.opened.any fun id => s.draft.name id == name

end Standing

/-! ### Classes of elements -/

/-- Elements that have a role of their own in the structure of a document. -/
def specialNames : List String :=
  ["address", "applet", "area", "article", "aside", "base", "basefont", "bgsound", "blockquote",
   "body", "br", "button", "caption", "center", "col", "colgroup", "dd", "details", "dir", "div",
   "dl", "dt", "embed", "fieldset", "figcaption", "figure", "footer", "form", "frame", "frameset",
   "h1", "h2", "h3", "h4", "h5", "h6", "head", "header", "hgroup", "hr", "html", "iframe", "img",
   "input", "isindex", "li", "link", "listing", "main", "marquee", "menu", "meta", "nav",
   "noembed", "noframes", "noscript", "object", "ol", "p", "param", "plaintext", "pre", "script",
   "section", "select", "source", "style", "summary", "table", "tbody", "td", "template",
   "textarea", "tfoot", "th", "thead", "title", "tr", "track", "ul", "wbr", "xmp"]

/-- Elements whose end tag may be missing. -/
def impliedNames : List String :=
  ["dd", "dt", "li", "option", "optgroup", "p", "rb", "rp", "rt", "rtc"]

/-- Elements whose end tag may be missing when a template ends. -/
def impliedThoroughNames : List String :=
  impliedNames ++ ["caption", "colgroup", "tbody", "td", "tfoot", "th", "thead", "tr"]

/-- The headings. -/
def headingNames : List String := ["h1", "h2", "h3", "h4", "h5", "h6"]

/-- Whether an element of another vocabulary holds text of HTML. -/
def isTextPoint (d : Draft) (id : Nat) : Bool :=
  d.vocabulary id = .math && ["mi", "mo", "mn", "ms", "mtext"].contains (d.anyName id)

/-- Whether an element of another vocabulary holds elements of HTML. -/
def isHtmlPoint (d : Draft) (id : Nat) : Bool :=
  d.vocabulary id = .svg && ["foreignObject", "desc", "title"].contains (d.anyName id)

/-- Whether an element is an annotation that names HTML as its encoding. -/
def holdsHtml (d : Draft) (id : Nat) : Bool :=
  match (d.get id).kind with
  | .element .math "annotation-xml" attributes =>
    (attributes.lookup "encoding").any fun e =>
      ["text/html", "application/xhtml+xml"].contains e.toLower
  | _ => false

/-- Whether an element is special. Elements of other vocabularies are not. -/
def isSpecial (d : Draft) (id : Nat) : Bool := specialNames.contains (d.name id)

/-- The elements that an end tag does not reach across. -/
inductive Scope where
  | ordinary
  | listItem
  | button
  | table
  deriving DecidableEq, Repr

/-- Whether an element is an edge of a scope. -/
def Scope.stopsAt (scope : Scope) (d : Draft) (id : Nat) : Bool :=
  let name := d.name id
  match scope with
  | .table => ["html", "table", "template"].contains name
  | _ =>
    ["applet", "caption", "html", "table", "td", "th", "marquee", "object", "select",
        "template"].contains name ||
      isTextPoint d id || isHtmlPoint d id ||
      (scope = .listItem && ["ol", "ul"].contains name) || (scope = .button && name == "button")

/-- Whether a scan of the open elements, innermost first, meets a wanted one before an edge. -/
def Standing.reaches (s : Standing) (scope : Scope) (wanted : Nat → Bool) : Bool :=
  go s.opened
where
  go : List Nat → Bool
    | [] => false
    | id :: rest => wanted id || (!scope.stopsAt s.draft id && go rest)

/-- Whether an element with one of some names is in scope. -/
def Standing.inScope (s : Standing) (scope : Scope) (names : List String) : Bool :=
  s.reaches scope fun id => names.contains (s.draft.name id)

namespace Reading

/-! ### Placing nodes -/

/-- Where a node goes: behind the children of a node, or in front of a sibling. -/
inductive Place where
  | inside (id : Nat)
  | before (sibling : Nat)

/-- The node that holds the content of an element. -/
def contentOf (s : Standing) (id : Nat) : Nat := (s.contents.lookup id).getD id

/-- The place for a node that the innermost element, or `target`, should hold. What a table cannot
hold goes in front of the table. -/
def place (s : Standing) (target : Option Nat) : Place :=
  let target := target.getD s.current
  if s.fostering && ["table", "tbody", "tfoot", "thead", "tr"].contains (s.draft.name target) then
    go s s.opened
  else .inside (contentOf s target)
where
  go (s : Standing) : List Nat → Place
    | [] => .inside (s.opened.getLastD 0)
    | id :: rest =>
      if s.draft.name id == "template" then .inside (contentOf s id)
      else if s.draft.name id == "table" then
        if (s.draft.get id).parent.isSome then .before id else .inside (rest.headD 0)
      else go s rest

/-- Put a node in its place. -/
def placeNode (id : Nat) (target : Option Nat) : Reading Unit :=
  modify fun s =>
    match place s target with
    | .inside parent => { s with draft := s.draft.append parent id }
    | .before sibling => { s with draft := s.draft.insertBefore sibling id }

/-- Write text at the current place. -/
def writeText (content : List Char) : Reading Unit :=
  modify fun s =>
    match place s none with
    | .inside parent => { s with draft := s.draft.appendText parent (.ofList content) }
    | .before sibling => { s with draft := s.draft.insertTextBefore sibling (.ofList content) }

/-- Add a node to the draft and give its number. -/
def newNode (kind : DraftKind) : Reading Nat :=
  modifyGet fun s => (s.draft.nodes.size, { s with draft := s.draft.add kind })

/-- Write a comment at the current place. -/
def writeComment (content : String) : Reading Unit := do
  placeNode (← newNode (.comment content)) none

/-- Write a comment behind the children of a node. -/
def writeCommentIn (parent : Nat) (content : String) : Reading Unit := do
  let id ← newNode (.comment content)
  modify fun s => { s with draft := s.draft.append parent id }

/-- Add an element to the draft. -/
def newElement (vocabulary : Vocabulary) (name : String) (attributes : List Attribute) :
    Reading Nat := do
  let id ← newNode (.element vocabulary name attributes)
  if vocabulary = .html && name = "template" then
    let content ← newNode .root
    modify fun s => { s with contents := (id, content) :: s.contents }
  return id

/-- Open an element. -/
def push (id : Nat) : Reading Unit := modify fun s => { s with opened := id :: s.opened }

/-- Close the innermost element. -/
def pop : Reading Unit := modify fun s => { s with opened := s.opened.drop 1 }

/-- Write an element at the current place and open it. -/
def insertIn (vocabulary : Vocabulary) (tag : Tag) : Reading Nat := do
  let id ← newElement vocabulary tag.name tag.attributes
  placeNode id none
  push id
  return id

/-- Write an element of HTML and open it. -/
def insert (tag : Tag) : Reading Unit := do let _ ← insertIn .html tag

/-- Write an element of HTML without attributes and open it. -/
def insertNamed (name : String) : Reading Unit := insert ⟨name, [], false⟩

/-- Write an element that has no content. -/
def insertEmpty (tag : Tag) : Reading Unit := do insert tag; pop

/-! ### Closing elements -/

/-- Close elements up to the first that satisfies `p`, which stays open. -/
def popUntil (p : Standing → Nat → Bool) : Reading Unit :=
  modify fun s => { s with opened := s.opened.dropWhile fun id => !p s id }

/-- Close elements up to the first with one of some names, and that one. -/
def popThrough (names : List String) : Reading Unit := do
  popUntil fun s id => names.contains (s.draft.name id)
  pop

/-- Close the innermost elements whose end tag may be missing. -/
def closeImplied (names : List String) : Reading Unit :=
  popUntil fun s id => !names.contains (s.draft.name id)

/-- Close the innermost elements whose end tag may be missing, but none with this name. -/
def closeImpliedExcept (name : String) : Reading Unit := closeImplied (impliedNames.erase name)

/-- Close a paragraph. -/
def closeParagraph : Reading Unit := do
  closeImpliedExcept "p"
  popThrough ["p"]

/-- Close the paragraph that a block would stand in. -/
def closeParagraphInScope : Reading Unit := do
  if (← get).inScope .button ["p"] then closeParagraph

/-- Take an element off the open ones. -/
def unopen (id : Nat) : Reading Unit :=
  modify fun s => { s with opened := s.opened.filter (· != id) }

/-! ### Formatting -/

/-- Whether an entry is the element with a number. -/
def isEntry (id : Nat) : Formatting → Bool
  | .edge => false
  | .entry i _ => i == id

/-- The entries in force up to the next edge. -/
def reachableFormatting (fs : List Formatting) : List (Nat × Tag) :=
  (fs.takeWhile fun | .edge => false | .entry .. => true).filterMap fun
    | .edge => none
    | .entry id tag => some (id, tag)

/-- Take an element out of the formatting in force. -/
def unformat (id : Nat) : Reading Unit :=
  modify fun s => { s with formatting := s.formatting.filter (!isEntry id ·) }

/-- Mark an edge that formatting does not reach across. -/
def pushEdge : Reading Unit := modify fun s => { s with formatting := .edge :: s.formatting }

/-- Forget the formatting up to the last edge, and the edge. -/
def clearToEdge : Reading Unit :=
  modify fun s => { s with
    formatting := (s.formatting.dropWhile fun | .edge => false | .entry .. => true).drop 1 }

/-- Open the formatting elements again that have been closed in passing. -/
def reopenFormatting : Reading Unit := do
  let s ← get
  let closed := s.formatting.takeWhile fun
    | .edge => false
    | .entry id _ => !s.opened.contains id
  let tags := closed.filterMap fun
    | .edge => none
    | .entry _ tag => some tag
  modify fun s => { s with formatting := s.formatting.drop closed.length }
  for tag in tags.reverse do
    let id ← insertIn .html tag
    modify fun s => { s with formatting := .entry id tag :: s.formatting }

/-- Whether two tags have the same name and the same attributes. -/
def sameTag (a b : Tag) : Bool :=
  a.name == b.name && a.attributes.length == b.attributes.length &&
    a.attributes.all fun x => b.attributes.lookup x.1 == some x.2

/-- Write a formatting element and open it. Of equal ones at most three are in force. -/
def insertFormatting (tag : Tag) : Reading Unit := do
  let same := (reachableFormatting (← get).formatting).filter fun e => sameTag tag e.2
  if 3 ≤ same.length then
    for e in same.getLast? do unformat e.1
  let id ← insertIn .html tag
  modify fun s => { s with formatting := .entry id tag :: s.formatting }

/-- An end tag without a rule of its own closes the innermost element of its name, but reaches
across no special element. -/
def closeOrdinary (name : String) : Reading Unit := do
  let s ← get
  match s.opened.find? fun id => s.draft.name id == name || isSpecial s.draft id with
  | none => return
  | some id =>
    if s.draft.name id == name then
      closeImpliedExcept name
      modify fun s => { s with opened := (s.opened.dropWhile (· != id)).drop 1 }

/-- Replace an element of a list. -/
def replaceId (old new : Nat) (ids : List Nat) : List Nat :=
  ids.map fun x => if x = old then new else x

/-- Split the elements between a formatting element and a block inside it: each formatting element
between them is opened anew around what was split off, the others are closed. The result is the
outermost of the new elements, and the one behind which the formatting element comes into force. -/
def splitBetween (formattingId block : Nat) : List Nat → Nat → Nat → Option Nat →
    Reading (Nat × Option Nat)
  | [], _, last, mark => return (last, mark)
  | node :: rest, count, last, mark => do
    if node = formattingId then return (last, mark)
    let s ← get
    match (if 3 ≤ count then none else s.formatting.find? (isEntry node)) with
    | some (.entry _ tag) =>
      let new ← newElement .html tag.name tag.attributes
      modify fun s => { s with
        opened := replaceId node new s.opened
        formatting := s.formatting.map fun f => if isEntry node f then .entry new tag else f }
      modify fun s => { s with draft := (s.draft.detach last).append new last }
      splitBetween formattingId block rest (count + 1) new (if last = block then some new else mark)
    | _ =>
      unformat node
      unopen node
      splitBetween formattingId block rest (count + 1) last mark

/-- The list with an entry in front of the one for an element. -/
def putBefore (id : Nat) (entry : Formatting) : List Formatting → List Formatting
  | [] => [entry]
  | f :: fs => if isEntry id f then entry :: f :: fs else f :: putBefore id entry fs

/-- The list with a number in front of another. -/
def openInside (outer id : Nat) : List Nat → List Nat
  | [] => [id]
  | x :: xs => if x = outer then id :: x :: xs else x :: openInside outer id xs

/-- Move the formatting element into the block that it overlaps. -/
def adoptInto (formattingId : Nat) (tag : Tag) (block : Nat) : Reading Unit := do
  let s ← get
  let inner := (s.opened.dropWhile (· != block)).drop 1
  let ancestor := ((inner.dropWhile (· != formattingId)).drop 1).headD 0
  let (last, mark) ← splitBetween formattingId block inner 0 block none
  modify fun s => { s with draft := s.draft.detach last }
  placeNode last (some ancestor)
  let new ← newElement .html tag.name tag.attributes
  modify fun s =>
    { s with draft := (s.draft.moveChildren block new).append block new }
  modify fun s =>
    match mark with
    | none => { s with
        formatting := s.formatting.map fun f =>
          if isEntry formattingId f then .entry new tag else f }
    | some m => { s with
        formatting := (putBefore m (.entry new tag) s.formatting).filter
          (!isEntry formattingId ·) }
  unopen formattingId
  modify fun s => { s with opened := openInside block new s.opened }

/-- The end tag of a formatting element that may overlap other elements. -/
def closeOverlapping (name : String) : Nat → Reading Unit
  | 0 => return
  | rounds + 1 => do
    let s ← get
    match (reachableFormatting s.formatting).find? fun e => e.2.name == name with
    | none => closeOrdinary name
    | some (id, tag) =>
      if !s.opened.contains id then unformat id
      else if !s.reaches .ordinary (· == id) then return
      else
        match (s.opened.takeWhile (· != id)).reverse.find? (isSpecial s.draft) with
        | none =>
          modify fun s => { s with opened := (s.opened.dropWhile (· != id)).drop 1 }
          unformat id
        | some block =>
          adoptInto id tag block
          closeOverlapping name rounds

/-- The end tag of a formatting element. -/
def closeFormatting (name : String) : Reading Unit := do
  let s ← get
  if s.currentName == name && !s.formatting.any (isEntry s.current) then pop
  else closeOverlapping name 8

end Reading

end Scribe.Html
