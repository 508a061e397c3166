import Scribe.Document.Reference
import Scribe.Store.Basic
import Scribe.Text.Lines
import Scribe.Text.Utf8

/-!
# A store in memory

The store keeps folders and documents in lists and writes down every call. One clock numbers all
that is created, so that no two ids are equal until it runs over. A body is kept without the final
line feed that every document has, and its offsets count UTF-16 units from 1.
-/

namespace Scribe.Store

open Text Edit

/-- A folder. -/
structure Folder where
  id : String
  parent : String
  name : String
  deriving DecidableEq, Repr

/-- A document. A given export stands for it until its body is edited. -/
structure StoredDocument where
  id : String
  parent : String
  title : String
  modifiedTime : String
  body : String
  html : Option String
  batches : List Plan
  comments : List Comment
  deriving DecidableEq, Repr

/-- The end index of a body, as a document service counts it. -/
def StoredDocument.endIndex (d : StoredDocument) : Nat := units d.body + 2

/-- The state of the store: what it holds, the calls so far, and the clock. -/
structure Memory where
  folders : List Folder
  documents : List StoredDocument
  calls : List String
  clock : UInt32
  deriving Repr

namespace Memory

/-- The empty store. -/
def empty : Memory := ⟨[], [], [], 0⟩

/-! ### Bodies -/

/-- The fault of an edit that does not fit the body. -/
def refused (reason : String) : Fault := .remote 400 reason

/-- The byte of a body that an offset stands for. -/
def byteOffset (body : List Char) (offset : Nat) : Except Fault Nat :=
  let outside := refused ("offset " ++ toString offset ++ " is outside the body")
  if offset = 0 then .error outside
  else
    match byteAfter? (offset - 1) 0 0 body with
    | some byte => .ok byte
    | none => .error outside

/-- A body, cut at an offset. -/
def cutBody (body : List Char) (offset : Nat) : Except Fault (List Char × List Char) := do
  return splitAtByte (← byteOffset body offset) body

/-- A body after one request. A formatting leaves the text as it is. -/
def applyRequest (body : List Char) : Request → Except Fault (List Char)
  | .delete e => do
    let (before, _) ← cutBody body e.start
    let (_, after) ← cutBody body e.stop
    return before ++ after
  | .insert offset text => do
    let (before, after) ← cutBody body offset
    return before ++ text.toList ++ after
  | .format f =>
    let limit := unitCount body + 2
    if limit < f.extent.stop then
      .error (refused ("range " ++ f.extent.toText ++ " exceeds body end " ++ toString limit))
    else .ok body

/-- A body after the requests of a plan, up to the first that is refused. -/
def applyRequests (body : List Char) : Plan → List Char × Except Fault Unit
  | [] => (body, .ok ())
  | r :: rest =>
    match applyRequest body r with
    | .ok body => applyRequests body rest
    | .error f => (body, .error f)

/-- The HTML of a body: a paragraph for each line, as it is. -/
def paragraphs (body : String) : String :=
  String.join ((feedLines '\n' '\r' body.toList).map fun line => "<p>" ++ .ofList line ++ "</p>")

/-! ### Ids and times -/

/-- The next id with a given start, and the clock behind it. -/
def drawId (start : String) (m : Memory) : String × Memory :=
  let tick := m.clock + 1
  (start ++ "-" ++ toString tick.toNat, { m with clock := tick })

/-- The time that the clock shows. -/
def timestamp (m : Memory) : String :=
  let n := toString m.clock.toNat
  "2026-01-01T00:00:" ++ (if n.length < 2 then "0" ++ n else n) ++ ".000Z"

/-! ### Content -/

/-- Add a document. -/
def addDocument (parent title body : String) (html : Option String) (m : Memory) :
    String × Memory :=
  let (id, m) := m.drawId "doc"
  let d : StoredDocument := ⟨id, parent, title, m.timestamp, body, html, [], []⟩
  (id, { m with documents := m.documents ++ [d] })

/-- Add a folder. -/
def addFolder (parent name : String) (m : Memory) : String × Memory :=
  let (id, m) := m.drawId "folder"
  (id, { m with folders := m.folders ++ [⟨id, parent, name⟩] })

/-- The document with an id. -/
def document? (m : Memory) (id : String) : Option StoredDocument :=
  m.documents.find? (·.id == id)

/-- Change the first element that satisfies `p`. -/
def modifyFirst (p : α → Bool) (f : α → α) : List α → List α
  | [] => []
  | x :: xs => if p x then f x :: xs else x :: modifyFirst p f xs

/-- Change the document with an id. -/
def modifyDocument (id : String) (f : StoredDocument → StoredDocument) (m : Memory) : Memory :=
  { m with documents := modifyFirst (·.id == id) f m.documents }

/-- Add a comment to a document, if it exists. -/
def addComment (id : String) (comment : Comment) (m : Memory) : Memory :=
  m.modifyDocument id fun d => { d with comments := d.comments ++ [comment] }

/-! ### Calls -/

/-- Write down a call. -/
def record (call : String) : Action Memory Unit :=
  Action.modifyStore fun m => { m with calls := m.calls ++ [call] }

/-- The document with an id; it is a fault if there is none. -/
def find (id : String) : Action Memory StoredDocument := do
  match (← Action.store).document? id with
  | some d => return d
  | none => throw (.notFound ("document " ++ id))

/-- Take what a function draws from the store. -/
def draw (f : Memory → α × Memory) : Action Memory α := do
  let (a, m) := f (← Action.store)
  Action.modifyStore fun _ => m
  return a

/-- The comment with an id; it is a fault if there is none. -/
def findComment (d : StoredDocument) (id : String) : Except Fault Comment :=
  match d.comments.find? (·.id == id) with
  | some c => .ok c
  | none => .error (.notFound ("comment " ++ id))

/-- Change a comment on a document. -/
def modifyComment (document comment : String) (f : Comment → Comment) : Action Memory Unit := do
  let d ← find document
  let _ ← ofExcept (findComment d comment)
  Action.modifyStore (modifyDocument document fun d =>
    { d with comments := modifyFirst (·.id == comment) f d.comments })

/-- A document in a listing. -/
def summary (d : StoredDocument) : Summary := ⟨d.id, d.title, Document.url d.id, d.modifiedTime⟩

/-- The documents in a folder, the most recently modified first. -/
def listing (m : Memory) (parent : String) : List Summary :=
  ((m.documents.filter (·.parent == parent)).map summary).mergeSort
    fun a b => b.modifiedTime ≤ a.modifiedTime

/-- Apply a plan to the body of a document. A refused request leaves what the requests before it
have done. -/
def applyPlan (id : String) (plan : Plan) : Action Memory Unit := do
  record ("batch_update " ++ id ++ " " ++ toString plan.length)
  let now := (← Action.store).timestamp
  let d ← find id
  let (body, result) := applyRequests d.body.toList plan
  Action.modifyStore (modifyDocument id fun d => { d with body := .ofList body })
  ofExcept result
  Action.modifyStore (modifyDocument id fun d =>
    { d with batches := d.batches ++ [plan], html := none, modifiedTime := now })

/-- The operations of the store. -/
def store : Store Memory where
  findFolder parent name := do
    record ("find_folder " ++ parent ++ " " ++ name)
    let m ← Action.store
    return (m.folders.find? fun f => f.parent == parent && f.name == name).map (·.id)
  createFolder parent name := do
    record ("create_folder " ++ parent ++ " " ++ name)
    draw (addFolder parent name)
  createDocument parent title := do
    record ("create_document " ++ parent ++ " " ++ title)
    draw (addDocument parent title "" none)
  bodyEnd id := do
    record ("body_end_index " ++ id)
    return some (← find id).endIndex
  applyPlan := applyPlan
  exportHtml id := do
    record ("export_html " ++ id)
    let d ← find id
    return d.html.getD (paragraphs d.body)
  listDocuments parent := do
    record ("list_documents " ++ parent)
    return (← Action.store).listing parent
  listComments id := do
    record ("list_comments " ++ id)
    return (← find id).comments
  createReply document comment content := do
    record ("create_reply " ++ document ++ " " ++ comment)
    let id ← draw (drawId "reply")
    modifyComment document comment fun c =>
      { c with replies := c.replies ++ [⟨id, some "docs-mcp", some content, none⟩] }
  resolveComment document comment := do
    record ("resolve_comment " ++ document ++ " " ++ comment)
    modifyComment document comment fun c => { c with resolved := true }

end Memory

end Scribe.Store
