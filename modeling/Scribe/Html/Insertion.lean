import Scribe.Html.Spelling
import Scribe.Html.Standing

/-!
# Building the tree

Each part of a document has rules for what a tag or a run of text does there: which elements it
opens without being asked, which it closes, and whether another part takes over. A piece is handled
by the rules of the current part; when they end the part, the next one handles the piece again.
-/

namespace Scribe.Html

/-- What the rules handle at a time: a tag, a run of blanks or of other characters, a NUL, a
comment, or the end of the text. -/
inductive Piece where
  | start (tag : Tag)
  | stop (name : String)
  | blank (content : List Char)
  | null
  | chars (content : List Char)
  | comment (content : String)
  | finish
  deriving Repr

/-- The text of a piece. -/
def Piece.text : Piece → List Char
  | .blank content | .chars content => content
  | _ => []

/-- What follows a step: the next piece, or the same piece in another part. -/
inductive Next where
  | done
  | again (part : Section)

namespace Reading

/-- Go over to another part. -/
def enter (part : Section) : Reading Next := do
  modify fun s => { s with part }
  return .done

/-- Forbid a frameset. -/
def noFrameset : Reading Unit := modify fun s => { s with framesetAllowed := false }

/-- Write an element whose content is read without markup. -/
def insertRaw (mode : TextMode) (tag : Tag) : Reading Next := do
  insert tag
  modify fun s => { s with
    partBehind := s.part, part := .rawText, textMode := mode, textName := tag.name }
  return .done

/-- The part that the open elements put the reader in. -/
def partOf (s : Standing) : Section := go s.opened
where
  go : List Nat → Section
    | [] => .inBody
    | id :: rest =>
      match s.draft.name id with
      | "td" | "th" => .inCell
      | "tr" => .inRow
      | "tbody" | "thead" | "tfoot" => .inTableBody
      | "caption" => .inCaption
      | "colgroup" => .inColumnGroup
      | "table" => .inTable
      | "template" => s.templates.headD .inBody
      | "head" => .inHead
      | "body" => .inBody
      | "frameset" => .inFrameset
      | "html" => if s.head.isSome then .afterHead else .beforeHead
      | _ => go rest

/-- Go over to the part that the open elements put the reader in. -/
def resetPart : Reading Section :=
  modifyGet fun s => (partOf s, { s with part := partOf s })

/-- A second `html` tag adds attributes to the first. -/
def mergeHtml (tag : Tag) : Reading Next := do
  let s ← get
  if !s.hasOpen "template" then
    for root in s.opened.getLast? do
      modify fun s => { s with draft := s.draft.addAttributes root tag.attributes }
  return .done

/-- Close a template. -/
def closeTemplate : Reading Section := do
  popThrough ["template"]
  clearToEdge
  modify fun s => { s with templates := s.templates.drop 1 }
  resetPart

/-- The body, if it is open. -/
def body? (s : Standing) : Option Nat :=
  (s.opened.reverse[1]?).filter fun id => s.draft.name id == "body"

/-! ### Before the body -/

/-- Open the root element. -/
def openRoot (attributes : List Attribute) : Reading Unit := do
  let id ← newElement .html "html" attributes
  modify fun s => { s with draft := s.draft.append 0 id }
  push id

/-- Whether a document type makes a document follow the rules that all but the oldest follow. -/
def isCurrentType (name : String) (publicId systemId : Option String) (correct : Bool) : Bool :=
  let publicId := publicId.map fun s => s.toLower
  let startsWith (p : String) := publicId.any fun s => s.startsWith p
  correct && name == "html" &&
    !(["-//w3o//dtd w3 html strict 3.0//en//", "-/w3c/dtd html 4.0 transitional/en", "html"].any
        fun p => publicId == some p) &&
    systemId.map (fun s => s.toLower) !=
      some "http://www.ibm.com/data/dtd/v11/ibmxhtml1-transitional.dtd" &&
    !oldTypes.any startsWith &&
    !(systemId.isNone &&
      ["-//w3c//dtd html 4.01 frameset//", "-//w3c//dtd html 4.01 transitional//"].any startsWith)
where
  oldTypes : List String :=
    ["-//advasoft ltd//dtd html 3.0 aswedit + extensions//",
     "-//as//dtd html 3.0 aswedit + extensions//",
     "-//ietf//dtd html 2.0 level 1//", "-//ietf//dtd html 2.0 level 2//",
     "-//ietf//dtd html 2.0 strict level 1//", "-//ietf//dtd html 2.0 strict level 2//",
     "-//ietf//dtd html 2.0 strict//", "-//ietf//dtd html 2.0//", "-//ietf//dtd html 2.1e//",
     "-//ietf//dtd html 3.0//", "-//ietf//dtd html 3.2 final//", "-//ietf//dtd html 3.2//",
     "-//ietf//dtd html 3//", "-//ietf//dtd html level 0//", "-//ietf//dtd html level 1//",
     "-//ietf//dtd html level 2//", "-//ietf//dtd html level 3//",
     "-//ietf//dtd html strict level 0//", "-//ietf//dtd html strict level 1//",
     "-//ietf//dtd html strict level 2//", "-//ietf//dtd html strict level 3//",
     "-//ietf//dtd html strict//", "-//ietf//dtd html//",
     "-//metrius//dtd metrius presentational//",
     "-//microsoft//dtd internet explorer 2.0 html strict//",
     "-//microsoft//dtd internet explorer 2.0 html//",
     "-//microsoft//dtd internet explorer 2.0 tables//",
     "-//microsoft//dtd internet explorer 3.0 html strict//",
     "-//microsoft//dtd internet explorer 3.0 html//",
     "-//microsoft//dtd internet explorer 3.0 tables//",
     "-//netscape comm. corp.//dtd html//", "-//netscape comm. corp.//dtd strict html//",
     "-//o'reilly and associates//dtd html 2.0//",
     "-//o'reilly and associates//dtd html extended 1.0//",
     "-//o'reilly and associates//dtd html extended relaxed 1.0//",
     "-//softquad software//dtd hotmetal pro 6.0::19990601::extensions to html 4.0//",
     "-//softquad//dtd hotmetal pro 4.0::19971010::extensions to html 4.0//",
     "-//spyglass//dtd html 2.0 extended//", "-//sq//dtd html 2.0 hotmetal + extensions//",
     "-//sun microsystems corp.//dtd hotjava html//",
     "-//sun microsystems corp.//dtd hotjava strict html//",
     "-//w3c//dtd html 3 1995-03-24//", "-//w3c//dtd html 3.2 draft//",
     "-//w3c//dtd html 3.2 final//", "-//w3c//dtd html 3.2//", "-//w3c//dtd html 3.2s draft//",
     "-//w3c//dtd html 4.0 frameset//", "-//w3c//dtd html 4.0 transitional//",
     "-//w3c//dtd html experimental 19960712//", "-//w3c//dtd html experimental 970421//",
     "-//w3c//dtd w3 html//", "-//w3o//dtd w3 html 3.0//",
     "-//webtechs//dtd mozilla html 2.0//", "-//webtechs//dtd mozilla html//"]

/-- A document type counts only in front of everything but comments. -/
def documentType (name : String) (publicId systemId : Option String) (correct : Bool) :
    Reading Unit :=
  modify fun s =>
    if s.part = .initial then
      { s with
        paragraphsHoldTables := !isCurrentType name publicId systemId correct
        part := .beforeHtml }
    else s

/-- In front of the root element and its document type. -/
def initial : Piece → Reading Next
  | .blank _ => return .done
  | .comment c => do writeCommentIn 0 c; return .done
  | _ => do
    modify fun s => { s with paragraphsHoldTables := true }
    return .again .beforeHtml

/-- In front of the root element. -/
def beforeHtml : Piece → Reading Next
  | .comment c => do writeCommentIn 0 c; return .done
  | .blank _ => return .done
  | .start tag => do
    if tag.name = "html" then openRoot tag.attributes; enter .beforeHead
    else openRoot []; return .again .beforeHead
  | .stop name => do
    if ["head", "body", "html", "br"].contains name then openRoot []; return .again .beforeHead
    else return .done
  | _ => do openRoot []; return .again .beforeHead

/-- Open the head. -/
def openHead (tag : Tag) : Reading Unit := do
  insert tag
  modify fun s => { s with head := some s.current }

/-- In front of the head. -/
def beforeHead : Piece → Reading Next
  | .blank _ => return .done
  | .comment c => do writeComment c; return .done
  | .start tag => do
    if tag.name = "html" then mergeHtml tag
    else if tag.name = "head" then openHead tag; enter .inHead
    else openHead ⟨"head", [], false⟩; return .again .inHead
  | .stop name => do
    if ["head", "body", "html", "br"].contains name then
      openHead ⟨"head", [], false⟩
      return .again .inHead
    else return .done
  | _ => do openHead ⟨"head", [], false⟩; return .again .inHead

/-- Start tags that have the same effect in the head and behind it. -/
def headNames : List String :=
  ["base", "basefont", "bgsound", "link", "meta", "noframes", "script", "style", "template",
   "title"]

/-- In the head. -/
def inHead : Piece → Reading Next
  | .blank content => do writeText content; return .done
  | .comment c => do writeComment c; return .done
  | .start tag => do
    match tag.name with
    | "html" => mergeHtml tag
    | "base" | "basefont" | "bgsound" | "link" | "meta" => insertEmpty tag; return .done
    | "title" => insertRaw .references tag
    | "noframes" | "style" | "noscript" => insertRaw .raw tag
    | "script" => insertRaw .script tag
    | "template" =>
      insert tag
      pushEdge
      noFrameset
      modify fun s => { s with templates := .inTemplate :: s.templates }
      enter .inTemplate
    | "head" => return .done
    | _ => pop; return .again .afterHead
  | .stop name => do
    match name with
    | "head" => pop; enter .afterHead
    | "body" | "html" | "br" => pop; return .again .afterHead
    | "template" =>
      if (← get).hasOpen "template" then
        closeImplied impliedThoroughNames
        let _ ← closeTemplate
      return .done
    | _ => return .done
  | _ => do pop; return .again .afterHead

/-- Between the head and the body. -/
def afterHead : Piece → Reading Next
  | .blank content => do writeText content; return .done
  | .comment c => do writeComment c; return .done
  | .start tag => do
    if tag.name = "html" then mergeHtml tag
    else if tag.name = "body" then insert tag; noFrameset; enter .inBody
    else if tag.name = "frameset" then insert tag; enter .inFrameset
    else if headNames.contains tag.name then
      let head := (← get).head.getD 0
      push head
      let next ← inHead (.start tag)
      unopen head
      return next
    else if tag.name = "head" then return .done
    else insertNamed "body"; return .again .inBody
  | .stop name => do
    if name = "template" then inHead (.stop name)
    else if ["body", "html", "br"].contains name then insertNamed "body"; return .again .inBody
    else return .done
  | _ => do insertNamed "body"; return .again .inBody

/-! ### The body -/

/-- The end of the text. -/
def finish : Reading Next := do
  let s ← get
  if s.templates.isEmpty || !s.hasOpen "template" then return .done
  else return .again (← closeTemplate)

/-- Blocks that close a paragraph in front of them. -/
def blockNames : List String :=
  ["address", "article", "aside", "blockquote", "center", "details", "dialog", "dir", "div", "dl",
   "fieldset", "figcaption", "figure", "footer", "header", "hgroup", "main", "menu", "nav", "ol",
   "p", "search", "section", "summary", "ul"]

/-- Formatting elements but for links. -/
def formattingNames : List String :=
  ["b", "big", "code", "em", "font", "i", "s", "small", "strike", "strong", "tt", "u"]

/-- Open an item of a list, after closing the one before it. -/
def openItem (closes : List String) (tag : Tag) : Reading Unit := do
  noFrameset
  let s ← get
  let found := s.opened.find? fun id =>
    closes.contains (s.draft.name id) ||
      (isSpecial s.draft id && !(["address", "div", "p"].contains (s.draft.name id)))
  for id in found do
    let name := s.draft.name id
    if closes.contains name then
      closeImpliedExcept name
      popThrough [name]
  closeParagraphInScope
  insert tag

/-- Write an element of a foreign vocabulary, whose attributes have spellings of their own. -/
def insertForeign (vocabulary : Vocabulary) (tag : Tag) : Reading Next := do
  let _ ← insertIn vocabulary { tag with
    attributes := tag.attributes.map fun a => (attributeSpelling vocabulary a.1, a.2) }
  if tag.selfClosing then pop
  return .done

/-- Whether a tag is that of a hidden input. -/
def isHidden (tag : Tag) : Bool :=
  (tag.attributes.lookup "type").any fun t => t.toLower == "hidden"

/-- A start tag in the body. -/
def startInBody (given : Tag) : Reading Next := do
  let tag := if given.name = "image" then { given with name := "img" } else given
  let s ← get
  let name := tag.name
  if name = "html" then mergeHtml tag
  else if headNames.contains name then inHead (.start tag)
  else if name = "body" then
    if !s.hasOpen "template" then
      for id in body? s do
        noFrameset
        modify fun s => { s with draft := s.draft.addAttributes id tag.attributes }
    return .done
  else if name = "frameset" then
    if s.framesetAllowed then
      for id in body? s do
        modify fun s => { s with
          draft := s.draft.detach id, opened := s.opened.drop (s.opened.length - 1) }
        insert tag
        modify fun s => { s with part := .inFrameset }
    return .done
  else if blockNames.contains name then closeParagraphInScope; insert tag; return .done
  else if headingNames.contains name then
    closeParagraphInScope
    if (← get).currentIn headingNames then pop
    insert tag
    return .done
  else if name = "pre" || name = "listing" then
    closeParagraphInScope
    insert tag
    noFrameset
    modify fun s => { s with dropLineFeed := true }
    return .done
  else if name = "form" then
    if s.form.isNone || s.hasOpen "template" then
      closeParagraphInScope
      insert tag
      if !s.hasOpen "template" then modify fun s => { s with form := some s.current }
    return .done
  else if name = "li" then openItem ["li"] tag; return .done
  else if name = "dd" || name = "dt" then openItem ["dd", "dt"] tag; return .done
  else if name = "plaintext" then
    closeParagraphInScope
    insert tag
    modify fun s => { s with textMode := .plain }
    return .done
  else if name = "button" then
    if s.inScope .ordinary ["button"] then
      closeImplied impliedNames
      popThrough ["button"]
    reopenFormatting
    insert tag
    noFrameset
    return .done
  else if name = "a" then
    for e in (reachableFormatting s.formatting).find? fun e => e.2.name == "a" do
      closeFormatting "a"
      unformat e.1
      unopen e.1
    reopenFormatting
    insertFormatting tag
    return .done
  else if formattingNames.contains name then reopenFormatting; insertFormatting tag; return .done
  else if name = "nobr" then
    reopenFormatting
    if (← get).inScope .ordinary ["nobr"] then
      closeFormatting "nobr"
      reopenFormatting
    insertFormatting tag
    return .done
  else if ["applet", "marquee", "object"].contains name then
    reopenFormatting
    insert tag
    pushEdge
    noFrameset
    return .done
  else if name = "table" then
    if !s.paragraphsHoldTables then closeParagraphInScope
    insert tag
    noFrameset
    enter .inTable
  else if ["area", "br", "embed", "img", "keygen", "wbr", "input"].contains name then
    if name = "input" && s.inScope .ordinary ["select"] then popThrough ["select"]
    reopenFormatting
    insertEmpty tag
    if !(name = "input" && isHidden tag) then noFrameset
    return .done
  else if ["param", "source", "track"].contains name then insertEmpty tag; return .done
  else if name = "hr" then
    closeParagraphInScope
    if (← get).inScope .ordinary ["select"] then closeImplied impliedNames
    insertEmpty tag
    noFrameset
    return .done
  else if name = "textarea" then
    modify fun s => { s with dropLineFeed := true }
    noFrameset
    insertRaw .references tag
  else if name = "xmp" then
    closeParagraphInScope
    reopenFormatting
    noFrameset
    insertRaw .raw tag
  else if name = "iframe" then noFrameset; insertRaw .raw tag
  else if name = "noembed" || name = "noscript" then insertRaw .raw tag
  else if name = "select" then
    if s.inScope .ordinary ["select"] then popThrough ["select"]
    else
      reopenFormatting
      insert tag
      noFrameset
    return .done
  else if name = "optgroup" || name = "option" then
    if s.inScope .ordinary ["select"] then
      closeImplied (if name = "option" then impliedNames.erase "optgroup" else impliedNames)
    else if s.currentName == "option" then pop
    reopenFormatting
    insert tag
    return .done
  else if ["rb", "rtc", "rp", "rt"].contains name then
    if s.inScope .ordinary ["ruby"] then
      closeImplied (if name = "rb" || name = "rtc" then impliedNames else impliedNames.erase "rtc")
    insert tag
    return .done
  else if name = "math" then insertForeign .math tag
  else if name = "svg" then insertForeign .svg tag
  else if ["caption", "col", "colgroup", "frame", "head", "tbody", "td", "tfoot", "th", "thead",
      "tr"].contains name then return .done
  else reopenFormatting; insert tag; return .done

/-- The choice that an option belongs to, from the nodes around it. Another option or a second group
on the way leaves it alone. -/
def choiceOf? (d : Draft) : Bool → List Nat → Option Nat
  | _, [] => none
  | inGroup, id :: rest =>
    match d.name id with
    | "datalist" | "hr" | "option" => none
    | "optgroup" => if inGroup then none else choiceOf? d true rest
    | "select" => some id
    | _ => choiceOf? d inGroup rest

/-- Show the content of an option where its choice, of one option only, shows what is chosen. -/
def showChosen (d : Draft) (option : Nat) : Draft :=
  let isSingle (id : Nat) : Bool :=
    match (d.get id).kind with
    | .element _ _ attributes => (attributes.lookup "multiple").isNone
    | _ => false
  let size := d.nodes.size
  let shown : Option Nat := do
    let choice ← (choiceOf? d false (d.ancestors option size)).filter isSingle
    (d.levels (d.get choice).children size).find? fun id => d.name id == "selectedcontent"
  match shown with
  | none => d
  | some id =>
    (d.modify id fun n => { n with children := [] }).appendCopies id (d.get option).children size

/-- An end tag in the body. -/
def stopInBody (name : String) : Reading Next := do
  let s ← get
  if name = "template" then inHead (.stop name)
  else if name = "body" then
    if s.inScope .ordinary ["body"] then enter .afterBody else return .done
  else if name = "html" then
    if s.inScope .ordinary ["body"] then return .again .afterBody else return .done
  else if name = "form" && !s.hasOpen "template" then
    modify fun s => { s with form := none }
    for id in s.form do
      if s.reaches .ordinary (· == id) then
        closeImplied impliedNames
        unopen id
    return .done
  else if name = "p" then
    if !s.inScope .button ["p"] then insertNamed "p"
    closeParagraph
    return .done
  else if ["button", "form", "listing", "pre", "select"].contains name ||
      blockNames.contains name then
    if s.inScope .ordinary [name] then
      closeImplied impliedNames
      popThrough [name]
    return .done
  else if name = "li" || name = "dd" || name = "dt" then
    if s.inScope (if name = "li" then .listItem else .ordinary) [name] then
      closeImpliedExcept name
      popThrough [name]
    return .done
  else if headingNames.contains name then
    if s.inScope .ordinary headingNames then
      closeImplied impliedNames
      popThrough headingNames
    return .done
  else if name = "a" || name = "nobr" || formattingNames.contains name then
    closeFormatting name
    return .done
  else if ["applet", "marquee", "object"].contains name then
    if s.inScope .ordinary [name] then
      closeImplied impliedNames
      popThrough [name]
      clearToEdge
    return .done
  else if name = "br" then startInBody ⟨"br", [], false⟩
  else
    closeOrdinary name
    if name = "option" then
      let opened := (← get).opened
      for id in s.opened.reverse.find? fun id => s.draft.name id == "option" do
        if !opened.contains id then modify fun s => { s with draft := showChosen s.draft id }
    return .done

/-- In the body. -/
def inBody : Piece → Reading Next
  | .null => return .done
  | .blank content => do reopenFormatting; writeText content; return .done
  | .chars content => do reopenFormatting; noFrameset; writeText content; return .done
  | .comment c => do writeComment c; return .done
  | .start tag => startInBody tag
  | .stop name => stopInBody name
  | .finish => finish

/-- In an element whose content is read without markup. -/
def rawText : Piece → Reading Next
  | .blank content | .chars content => do writeText content; return .done
  | .finish => do pop; return .again (← get).partBehind
  | .stop _ => do
    pop
    modify fun s => { s with textMode := .data }
    enter (← get).partBehind
  | _ => return .done

/-! ### Tables -/

/-- Handle a piece by the rules of the body, but write what a table cannot hold in front of it. -/
def fosterInBody (p : Piece) : Reading Next := do
  modify fun s => { s with fostering := true }
  let next ← inBody p
  modify fun s => { s with fostering := false }
  return next

/-- Close elements up to one that can hold the next part of a table. -/
def clearTo (names : List String) : Reading Unit :=
  popUntil fun s id => ("template" :: "html" :: names).contains (s.draft.name id)

/-- In a table, but in none of its parts. -/
def inTable (p : Piece) : Reading Next := do
  let s ← get
  match p with
  | .blank _ | .chars _ | .null =>
    if s.currentIn ["table", "tbody", "tfoot", "thead", "tr"] then
      modify fun s => { s with tableText := [], partBehind := s.part }
      return .again .inTableText
    else fosterInBody p
  | .comment c => writeComment c; return .done
  | .start tag =>
    match tag.name with
    | "caption" => clearTo ["table"]; pushEdge; insert tag; enter .inCaption
    | "colgroup" => clearTo ["table"]; insert tag; enter .inColumnGroup
    | "col" => clearTo ["table"]; insertNamed "colgroup"; return .again .inColumnGroup
    | "tbody" | "tfoot" | "thead" => clearTo ["table"]; insert tag; enter .inTableBody
    | "td" | "th" | "tr" => clearTo ["table"]; insertNamed "tbody"; return .again .inTableBody
    | "table" =>
      if s.inScope .table ["table"] then
        popThrough ["table"]
        return .again (← resetPart)
      else return .done
    | "style" | "script" | "template" => inHead p
    | "input" => if isHidden tag then insertEmpty tag; return .done else fosterInBody p
    | "form" =>
      if s.form.isNone && !s.hasOpen "template" then
        insert tag
        modify fun s => { s with form := some s.current }
        pop
      return .done
    | _ => fosterInBody p
  | .stop name =>
    if name = "table" then
      if s.inScope .table ["table"] then
        popThrough ["table"]
        let _ ← resetPart
      return .done
    else if name = "template" then inHead p
    else if ["body", "caption", "col", "colgroup", "html", "tbody", "td", "tfoot", "th", "thead",
        "tr"].contains name then return .done
    else fosterInBody p
  | .finish => finish

/-- Text directly in a table: blanks stay, but with anything else the text goes in front. -/
def inTableText (p : Piece) : Reading Next := do
  match p with
  | .null => return .done
  | .blank content | .chars content =>
    modify fun s => { s with tableText := s.tableText ++ content }
    return .done
  | _ =>
    let s ← get
    if s.tableText.all isHtmlSpace then writeText s.tableText
    else
      let _ ← fosterInBody (.chars s.tableText)
    return .again s.partBehind

/-- Tags of the parts of a table. -/
def tablePartNames : List String :=
  ["caption", "col", "colgroup", "tbody", "td", "tfoot", "th", "thead", "tr"]

/-- In the caption of a table. -/
def inCaption (p : Piece) : Reading Next := do
  let close (next : Next) : Reading Next := do
    if (← get).inScope .table ["caption"] then
      closeImplied impliedNames
      popThrough ["caption"]
      clearToEdge
      match next with
      | .done => enter .inTable
      | next => return next
    else return .done
  match p with
  | .start tag =>
    if tablePartNames.contains tag.name then close (.again .inTable) else inBody p
  | .stop name =>
    if name = "caption" then close .done
    else if name = "table" then close (.again .inTable)
    else if name = "body" || name = "html" || tablePartNames.contains name then return .done
    else inBody p
  | p => inBody p

/-- In a group of columns. -/
def inColumnGroup (p : Piece) : Reading Next := do
  let leave : Reading Next := do
    if (← get).currentName == "colgroup" then
      pop
      return .again .inTable
    else return .done
  match p with
  | .blank content => writeText content; return .done
  | .comment c => writeComment c; return .done
  | .start tag =>
    match tag.name with
    | "html" => mergeHtml tag
    | "col" => insertEmpty tag; return .done
    | "template" => inHead p
    | _ => leave
  | .stop name =>
    match name with
    | "colgroup" =>
      if (← get).currentName == "colgroup" then pop; enter .inTable else return .done
    | "col" => return .done
    | "template" => inHead p
    | _ => leave
  | .finish => finish
  | _ => leave

/-- In a group of rows. -/
def inTableBody (p : Piece) : Reading Next := do
  let groups := ["tbody", "tfoot", "thead"]
  let leave : Reading Next := do
    if (← get).inScope .table ["table", "tbody", "tfoot"] then
      clearTo groups
      pop
      return .again .inTable
    else return .done
  match p with
  | .start tag =>
    match tag.name with
    | "tr" => clearTo groups; insert tag; enter .inRow
    | "td" | "th" => clearTo groups; insertNamed "tr"; return .again .inRow
    | "caption" | "col" | "colgroup" | "tbody" | "tfoot" | "thead" => leave
    | _ => inTable p
  | .stop name =>
    if groups.contains name then
      if (← get).inScope .table [name] then clearTo groups; pop; enter .inTable else return .done
    else if name = "table" then leave
    else if ["body", "caption", "col", "colgroup", "html", "td", "th", "tr"].contains name then
      return .done
    else inTable p
  | p => inTable p

/-- In a row. -/
def inRow (p : Piece) : Reading Next := do
  let leave (next : Next) : Reading Next := do
    if (← get).inScope .table ["tr"] then
      clearTo ["tr"]
      pop
      match next with
      | .done => enter .inTableBody
      | next => return next
    else return .done
  match p with
  | .start tag =>
    if tag.name = "td" || tag.name = "th" then
      clearTo ["tr"]
      insert tag
      pushEdge
      enter .inCell
    else if tablePartNames.contains tag.name then leave (.again .inTableBody)
    else inTable p
  | .stop name =>
    if name = "tr" then leave .done
    else if name = "table" then leave (.again .inTableBody)
    else if ["tbody", "tfoot", "thead"].contains name then
      if (← get).inScope .table [name] then leave (.again .inTableBody) else return .done
    else if ["body", "caption", "col", "colgroup", "html", "td", "th"].contains name then
      return .done
    else inTable p
  | p => inTable p

/-- In a cell. -/
def inCell (p : Piece) : Reading Next := do
  let leave : Reading Next := do
    closeImplied impliedNames
    popThrough ["td", "th"]
    clearToEdge
    return .again .inRow
  match p with
  | .start tag =>
    if tablePartNames.contains tag.name then
      if (← get).inScope .table ["td", "th"] then leave else return .done
    else inBody p
  | .stop name =>
    if name = "td" || name = "th" then
      if (← get).inScope .table [name] then
        closeImplied impliedNames
        popThrough [name]
        clearToEdge
        enter .inRow
      else return .done
    else if ["table", "tbody", "tfoot", "thead", "tr"].contains name then
      if (← get).inScope .table [name] then leave else return .done
    else if ["body", "caption", "col", "colgroup", "html"].contains name then return .done
    else inBody p
  | p => inBody p

/-! ### The other parts -/

/-- In a template. -/
def inTemplate (p : Piece) : Reading Next := do
  let become (part : Section) : Reading Next := do
    modify fun s => { s with templates := part :: s.templates.drop 1 }
    return .again part
  match p with
  | .start tag =>
    if headNames.contains tag.name then inHead p
    else
      match tag.name with
      | "caption" | "colgroup" | "tbody" | "tfoot" | "thead" => become .inTable
      | "col" => become .inColumnGroup
      | "tr" => become .inTableBody
      | "td" | "th" => become .inRow
      | _ => become .inBody
  | .stop name => if name = "template" then inHead p else return .done
  | .finish => finish
  | p => inBody p

/-- Behind the body. -/
def afterBody (p : Piece) : Reading Next := do
  match p with
  | .blank _ => inBody p
  | .comment c => writeCommentIn ((← get).opened.getLastD 0) c; return .done
  | .finish => return .done
  | .start tag => if tag.name = "html" then mergeHtml tag else return .again .inBody
  | .stop name => if name = "html" then enter .afterAfterBody else return .again .inBody
  | _ => return .again .inBody

/-- In a frameset. -/
def inFrameset (p : Piece) : Reading Next := do
  match p with
  | .blank content => writeText content; return .done
  | .comment c => writeComment c; return .done
  | .start tag =>
    match tag.name with
    | "html" => mergeHtml tag
    | "frameset" => insert tag; return .done
    | "frame" => insertEmpty tag; return .done
    | "noframes" => inHead p
    | _ => return .done
  | .stop name =>
    if name = "frameset" && 1 < (← get).opened.length then
      pop
      if (← get).currentName != "frameset" then
        modify fun s => { s with part := .afterFrameset }
    return .done
  | _ => return .done

/-- Behind a frameset. -/
def afterFrameset (p : Piece) : Reading Next := do
  match p with
  | .blank content => writeText content; return .done
  | .comment c => writeComment c; return .done
  | .start tag =>
    if tag.name = "html" then mergeHtml tag
    else if tag.name = "noframes" then inHead p
    else return .done
  | .stop name => if name = "html" then enter .afterAfterFrameset else return .done
  | _ => return .done

/-- Behind the root element. -/
def afterAfterBody (p : Piece) : Reading Next := do
  match p with
  | .blank _ => inBody p
  | .comment c => writeCommentIn 0 c; return .done
  | .finish => return .done
  | .start tag => if tag.name = "html" then mergeHtml tag else return .again .inBody
  | _ => return .again .inBody

/-- Behind the root element of a document with a frameset. -/
def afterAfterFrameset (p : Piece) : Reading Next := do
  match p with
  | .blank _ => inBody p
  | .comment c => writeCommentIn 0 c; return .done
  | .start tag =>
    if tag.name = "html" then mergeHtml tag
    else if tag.name = "noframes" then inHead p
    else return .done
  | _ => return .done

/-- The rules of a part. -/
def rules : Section → Piece → Reading Next
  | .initial => initial
  | .beforeHtml => beforeHtml
  | .beforeHead => beforeHead
  | .inHead => inHead
  | .afterHead => afterHead
  | .inBody => inBody
  | .rawText => rawText
  | .inTable => inTable
  | .inTableText => inTableText
  | .inCaption => inCaption
  | .inColumnGroup => inColumnGroup
  | .inTableBody => inTableBody
  | .inRow => inRow
  | .inCell => inCell
  | .inTemplate => inTemplate
  | .afterBody => afterBody
  | .inFrameset => inFrameset
  | .afterFrameset => afterFrameset
  | .afterAfterBody => afterAfterBody
  | .afterAfterFrameset => afterAfterFrameset

end Reading

end Scribe.Html
