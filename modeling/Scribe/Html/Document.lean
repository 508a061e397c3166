import Scribe.Html.Insertion

/-!
# Documents

`Document.read` makes a tree of any text. No text is refused: what is missing is supplied, what is
misplaced is moved, and what closes nothing is dropped. Elements of other vocabularies follow rules
of their own until a tag of HTML breaks out of them.
-/

namespace Scribe.Html

namespace Reading

/-! ### Other vocabularies -/

/-- Tags of HTML that close all elements of other vocabularies around them. -/
def breakoutNames : List String :=
  ["b", "big", "blockquote", "body", "br", "center", "code", "dd", "div", "dl", "dt", "em", "embed",
   "h1", "h2", "h3", "h4", "h5", "h6", "head", "hr", "i", "img", "li", "listing", "menu", "meta",
   "nobr", "ol", "p", "pre", "ruby", "s", "small", "span", "strong", "strike", "sub", "sup",
   "table", "tt", "u", "ul", "var"]

/-- Whether a start tag closes the elements of other vocabularies around it. -/
def breaksOut (tag : Tag) : Bool :=
  breakoutNames.contains tag.name ||
    (tag.name == "font" &&
      tag.attributes.any fun a => ["color", "face", "size"].contains a.1)

/-- Whether a piece is read by the rules of the vocabulary around it. -/
def isForeign (s : Standing) (p : Piece) : Bool :=
  let id := s.current
  match p, s.draft.vocabulary id with
  | .finish, _ => false
  | _, .html => false
  | p, _ =>
    let isText := match p with | .blank _ | .chars _ | .null => true | _ => false
    let startName := match p with | .start tag => some tag.name | _ => none
    !(isTextPoint s.draft id &&
        (isText || startName.any fun n => n != "mglyph" && n != "malignmark")) &&
      !(isHtmlPoint s.draft id && (isText || startName.isSome)) &&
      !(s.draft.vocabulary id = .math && s.draft.anyName id == "annotation-xml" &&
        (startName == some "svg" ||
          (holdsHtml s.draft id && (isText || startName.isSome))))

/-- What an end tag does inside other vocabularies. -/
inductive ForeignStop where
  | leaves (opened : List Nat)
  | nothing
  | handOver

/-- An end tag closes the innermost element of its name in any case. An element of HTML on the way
hands the tag over to the rules of the current part. -/
def foreignStop (d : Draft) (name : String) : Bool → List Nat → ForeignStop
  | _, [] | _, [_] => .nothing
  | isFirst, id :: rest =>
    if !isFirst && d.vocabulary id = .html then .handOver
    else if (d.anyName id).toLower == name then .leaves rest
    else foreignStop d name false rest

/-- The rules inside other vocabularies; `none` hands the piece over to the current part. -/
def foreign (p : Piece) : Reading (Option Next) := do
  let s ← get
  let breakOut : Reading (Option Next) := do
    popUntil fun s id => s.draft.vocabulary id = .html || isTextPoint s.draft id ||
      isHtmlPoint s.draft id
    return none
  match p with
  | .null => writeText ['\ufffd']; return some .done
  | .blank content => writeText content; return some .done
  | .chars content => noFrameset; writeText content; return some .done
  | .comment c => writeComment c; return some .done
  | .start tag =>
    if breaksOut tag then breakOut
    else
      let vocabulary := s.draft.vocabulary s.current
      let spelt := { tag with name := elementSpelling vocabulary tag.name }
      return some (← insertForeign vocabulary spelt)
  | .stop name =>
    if name = "br" || name = "p" then breakOut
    else
      match foreignStop s.draft name true s.opened with
      | .handOver => return none
      | .nothing => return some .done
      | .leaves opened =>
        modify fun s => { s with opened }
        return some .done
  | _ => return some .done

/-! ### Pieces and tokens -/

/-- Handle a piece until a part is done with it. -/
def handle : Nat → Piece → Reading Unit
  | 0, _ => return
  | fuel + 1, p => do
    let s ← get
    let own ← if isForeign s p then foreign p else pure none
    let next ← match own with
      | some next => pure next
      | none => rules s.part p
    match next with
    | .done => return
    | .again part =>
      modify fun s => { s with part }
      handle fuel p

/-- Handle a piece. Each part hands it on at most a few times for each open element. -/
def feed (p : Piece) : Reading Unit := do
  let s ← get
  handle (8 * s.opened.length + 32) p

/-- The runs of a text: blanks, other characters, and each NUL for itself. -/
def runs : List Char → List Piece
  | [] => []
  | c :: cs =>
    let rest := runs cs
    if c = '\x00' then .null :: rest
    else if isHtmlSpace c then
      match rest with
      | .blank content :: rest => .blank (c :: content) :: rest
      | rest => .blank [c] :: rest
    else
      match rest with
      | .chars content :: rest => .chars (c :: content) :: rest
      | rest => .chars [c] :: rest

/-- Handle a token. A line feed directly behind some start tags is dropped. -/
def take (t : Token) : Reading Unit := do
  let dropping ← modifyGet fun s => (s.dropLineFeed, { s with dropLineFeed := false })
  match t with
  | .startTag name attributes selfClosing => feed (.start ⟨name, attributes, selfClosing⟩)
  | .endTag name => feed (.stop name)
  | .comment c => feed (.comment c)
  | .doctype name publicId systemId correct => documentType name publicId systemId correct
  | .text content =>
    let content := match content with
      | '\n' :: rest => if dropping then rest else content
      | _ => content
    for p in runs content do feed p

/-- Read a text to its end. -/
def readAll : Nat → List Char → Reading Unit
  | 0, _ | _, [] => feed .finish
  | fuel + 1, cs => do
    let s ← get
    let mode := if s.textMode = .data && s.draft.vocabulary s.current ≠ .html then .foreign
      else s.textMode
    let (token, rest) := nextToken mode s.textName cs
    if token.isNone || startsUnterminated cs then modify fun s => { s with dropLineFeed := false }
    for t in token do take t
    readAll fuel rest

end Reading

/-- The nodes of the document that a text describes. -/
def Document.read (text : String) : List Node :=
  let cs := normalize text.toList
  ((Reading.readAll (cs.length + 1) cs).run .start).2.draft.document

end Scribe.Html
