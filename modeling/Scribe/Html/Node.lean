import Scribe.Text.Search

/-!
# HTML trees

A document is a tree of elements, texts and comments. An element belongs to one of three
vocabularies. `Node.markup` writes a node back as HTML: text is escaped, elements of HTML without
content have no end tag, and the text of those that hold raw text stays as it is.
-/

namespace Scribe.Html

/-- The vocabulary that an element belongs to. -/
inductive Vocabulary where
  | html
  | svg
  | math
  deriving DecidableEq, Repr

/-- An attribute: its name as it is written, and a value. -/
abbrev Attribute := String × String

/-- Names of attributes that are qualified outside HTML, with their unqualified forms. -/
def qualifiedNames : List (String × String) :=
  [("xlink:actuate", "actuate"), ("xlink:arcrole", "arcrole"), ("xlink:href", "href"),
   ("xlink:role", "role"), ("xlink:show", "show"), ("xlink:title", "title"),
   ("xlink:type", "type"), ("xml:lang", "lang"), ("xml:space", "space"), ("xmlns:xlink", "xlink")]

/-- The name of an attribute without its qualifier. In HTML no attribute is qualified. -/
def localName (v : Vocabulary) (name : String) : String :=
  if v = .html then name else (qualifiedNames.lookup name).getD name

/-- A node of a document. -/
inductive Node where
  | element (vocabulary : Vocabulary) (name : String) (attributes : List Attribute)
      (children : List Node)
  | text (content : String)
  | comment (content : String)
  deriving Repr, Inhabited

namespace Node

mutual

/-- Whether two nodes are the same. -/
def decEq : (m n : Node) → Decidable (m = n)
  | .element v name attributes children, .element v' name' attributes' children' =>
    have := decEqAll children children'
    decidable_of_iff (v = v' ∧ name = name' ∧ attributes = attributes' ∧ children = children')
      (by rw [element.injEq])
  | .text content, .text content' => decidable_of_iff (content = content') (by rw [text.injEq])
  | .comment content, .comment content' =>
    decidable_of_iff (content = content') (by rw [comment.injEq])
  | .element .., .text _ | .element .., .comment _ | .text _, .element ..
  | .text _, .comment _ | .comment _, .element .. | .comment _, .text _ => isFalse nofun

/-- Whether two lists hold the same nodes. -/
def decEqAll : (ms ns : List Node) → Decidable (ms = ns)
  | [], [] => isTrue rfl
  | m :: ms, n :: ns =>
    have := decEq m n
    have := decEqAll ms ns
    decidable_of_iff (m = n ∧ ms = ns) (by rw [List.cons.injEq])
  | [], _ :: _ | _ :: _, [] => isFalse nofun

end

instance : DecidableEq Node := decEq

/-- The name of an element; any other node has the empty name. -/
def name : Node → String
  | .element _ n _ _ => n
  | _ => ""

/-- Whether a node is an element. -/
def isElement : Node → Bool
  | .element .. => true
  | _ => false

/-- The children of an element. -/
def children : Node → List Node
  | .element _ _ _ cs => cs
  | _ => []

/-- The attributes of an element by their unqualified names. -/
def attributes : Node → List Attribute
  | .element v _ attributes _ => attributes.map fun a => (localName v a.1, a.2)
  | _ => []

/-- The value of the first attribute with an unqualified name. -/
def attribute? (n : Node) (key : String) : Option String := n.attributes.lookup key

/-- Elements that have no content and no end tag. -/
def voidNames : List String :=
  ["area", "base", "basefont", "bgsound", "br", "col", "embed", "frame", "hr", "img", "input",
   "keygen", "link", "meta", "param", "source", "track", "wbr"]

/-- Elements whose text is written as it is. -/
def rawNames : List String :=
  ["style", "script", "xmp", "iframe", "noembed", "noframes", "plaintext", "noscript"]

/-- The written form of a character in text. -/
def escapeText (c : Char) : List Char :=
  match c with
  | '&' => ['&', 'a', 'm', 'p', ';']
  | '\u00a0' => ['&', 'n', 'b', 's', 'p', ';']
  | '<' => ['&', 'l', 't', ';']
  | '>' => ['&', 'g', 't', ';']
  | c => [c]

/-- The written form of a character in the value of an attribute. -/
def escapeValue (c : Char) : List Char :=
  match c with
  | '&' => ['&', 'a', 'm', 'p', ';']
  | '\u00a0' => ['&', 'n', 'b', 's', 'p', ';']
  | '"' => ['&', 'q', 'u', 'o', 't', ';']
  | '<' => ['&', 'l', 't', ';']
  | '>' => ['&', 'g', 't', ';']
  | c => [c]

/-- The start tag of an element. -/
def startTag (name : String) (attributes : List Attribute) : String :=
  "<" ++ name ++ String.join (attributes.map fun a =>
    " " ++ a.1 ++ "=\"" ++ .ofList (a.2.toList.flatMap escapeValue) ++ "\"") ++ ">"

mutual

/-- A node as HTML; `isRaw` says that text is written as it is. -/
def markupIn (isRaw : Bool) : Node → String
  | .element v name attributes children =>
    startTag name attributes ++
      if v = .html && voidNames.contains name then ""
      else markupAll (v = .html && rawNames.contains name) children ++ "</" ++ name ++ ">"
  | .text content => if isRaw then content else .ofList (content.toList.flatMap escapeText)
  | .comment content => "<!--" ++ content ++ "-->"

/-- Nodes as HTML, one after the other. -/
def markupAll (isRaw : Bool) : List Node → String
  | [] => ""
  | n :: rest => markupIn isRaw n ++ markupAll isRaw rest

end

/-- A node as HTML. -/
def markup (n : Node) : String := markupIn false n

mutual

/-- The number of levels of a tree. -/
def height : Node → Nat
  | .element _ _ _ children => heightOfAll children + 1
  | _ => 1

/-- The number of levels of the highest tree. -/
def heightOfAll : List Node → Nat
  | [] => 0
  | n :: rest => max n.height (heightOfAll rest)

end

end Node

end Scribe.Html
