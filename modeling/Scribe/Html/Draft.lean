import Scribe.Html.Node

/-!
# Trees under construction

While a document is read, nodes move: text that a table cannot hold goes in front of it, and a
misplaced end tag splits elements. A draft is therefore a table of nodes by number with a link to
the parent and the children in order. Node 0 is the document itself. Text beside text is one node.
-/

namespace Scribe.Html

/-- What a node of a draft is. A root stands for the document or for the content of a template. -/
inductive DraftKind where
  | root
  | element (vocabulary : Vocabulary) (name : String) (attributes : List Attribute)
  | text (content : String)
  | comment (content : String)
  deriving Repr, Inhabited

/-- A node of a draft. -/
structure DraftNode where
  kind : DraftKind
  parent : Option Nat
  children : List Nat
  deriving Repr, Inhabited

/-- A tree under construction. -/
structure Draft where
  nodes : Array DraftNode
  deriving Repr

namespace Draft

/-- The draft of a document without content. -/
def empty : Draft := ⟨#[⟨.root, none, []⟩]⟩

/-- The node with a number; a number out of the table stands for an empty root. -/
def get (d : Draft) (id : Nat) : DraftNode := d.nodes[id]?.getD ⟨.root, none, []⟩

/-- The name of an element of HTML; empty for any other node. -/
def name (d : Draft) (id : Nat) : String :=
  match (d.get id).kind with
  | .element .html n _ => n
  | _ => ""

/-- The name of an element of any vocabulary. -/
def anyName (d : Draft) (id : Nat) : String :=
  match (d.get id).kind with
  | .element _ n _ => n
  | _ => ""

/-- The vocabulary of an element. -/
def vocabulary (d : Draft) (id : Nat) : Vocabulary :=
  match (d.get id).kind with
  | .element v _ _ => v
  | _ => .html

/-- Change a node. -/
def modify (d : Draft) (id : Nat) (f : DraftNode → DraftNode) : Draft :=
  ⟨d.nodes.modify id f⟩

/-- Add a node without a parent; its number is the size of the table before. -/
def add (d : Draft) (kind : DraftKind) : Draft := ⟨d.nodes.push ⟨kind, none, []⟩⟩

/-- Take a node away from its parent. -/
def detach (d : Draft) (id : Nat) : Draft :=
  match (d.get id).parent with
  | none => d
  | some p =>
    (d.modify p fun n => { n with children := n.children.filter (· != id) }).modify id
      fun n => { n with parent := none }

/-- Put a node that has no parent behind the children of another. -/
def append (d : Draft) (parent id : Nat) : Draft :=
  (d.modify parent fun n => { n with children := n.children ++ [id] }).modify id
    fun n => { n with parent := some parent }

/-- The list with a number in front of another. -/
def placeBefore (sibling id : Nat) : List Nat → List Nat
  | [] => [id]
  | x :: xs => if x = sibling then id :: x :: xs else x :: placeBefore sibling id xs

/-- Put a node that has no parent in front of a sibling. -/
def insertBefore (d : Draft) (sibling id : Nat) : Draft :=
  match (d.get sibling).parent with
  | none => d
  | some p =>
    (d.modify p fun n => { n with children := placeBefore sibling id n.children }).modify id
      fun n => { n with parent := some p }

/-- The child in front of a sibling. -/
def previous? (d : Draft) (sibling : Nat) : Option Nat :=
  (d.get sibling).parent.bind fun p => ((d.get p).children.takeWhile (· != sibling)).getLast?

/-- Write text behind a text node, if the node is one. -/
def extend? (d : Draft) (id : Option Nat) (content : String) : Option Draft :=
  id.bind fun id =>
    match (d.get id).kind with
    | .text old => some (d.modify id fun n => { n with kind := .text (old ++ content) })
    | _ => none

/-- Write text behind the children of a node. -/
def appendText (d : Draft) (parent : Nat) (content : String) : Draft :=
  (d.extend? (d.get parent).children.getLast? content).getD
    ((d.add (.text content)).append parent d.nodes.size)

/-- Write text in front of a sibling. -/
def insertTextBefore (d : Draft) (sibling : Nat) (content : String) : Draft :=
  (d.extend? (d.previous? sibling) content).getD
    ((d.add (.text content)).insertBefore sibling d.nodes.size)

/-- Give the children of one node to another, behind those that it has. -/
def moveChildren (d : Draft) (source target : Nat) : Draft :=
  (d.get source).children.foldl (fun d id => (d.detach id).append target id) d

/-- Write copies of nodes, with all below them to a depth, behind the children of a node. -/
def appendCopies (d : Draft) (parent : Nat) (ids : List Nat) : Nat → Draft
  | 0 => d
  | depth + 1 =>
    ids.foldl (fun d id =>
      let new := d.nodes.size
      let n := d.get id
      ((d.add n.kind).append parent new).appendCopies new n.children depth) d

/-- The nodes around a node, innermost first, as many as `limit` at most. -/
def ancestors (d : Draft) (id : Nat) : Nat → List Nat
  | 0 => []
  | limit + 1 =>
    match (d.get id).parent with
    | none => []
    | some p => p :: d.ancestors p limit

/-- The nodes below some nodes and they themselves, level by level, to a depth. -/
def levels (d : Draft) (ids : List Nat) : Nat → List Nat
  | 0 => []
  | depth + 1 =>
    match ids with
    | [] => []
    | ids => ids ++ d.levels (ids.flatMap fun id => (d.get id).children) depth

/-- Give an element the attributes that it does not have yet. -/
def addAttributes (d : Draft) (id : Nat) (attributes : List Attribute) : Draft :=
  d.modify id fun n =>
    match n.kind with
    | .element v name old =>
      let more := attributes.filter fun a => (old.lookup a.1).isNone
      { n with kind := .element v name (old ++ more) }
    | _ => n

/-- The nodes that a draft describes, to a depth that the number of its nodes bounds. -/
def toNodes (d : Draft) : Nat → List Nat → List Node
  | 0, _ => []
  | depth + 1, ids => ids.filterMap fun id =>
    let n := d.get id
    match n.kind with
    | .root => none
    | .element v name attributes => some (.element v name attributes (d.toNodes depth n.children))
    | .text content => some (.text content)
    | .comment content => some (.comment content)

/-- The nodes of the document. -/
def document (d : Draft) : List Node := d.toNodes d.nodes.size (d.get 0).children

end Draft

end Scribe.Html
