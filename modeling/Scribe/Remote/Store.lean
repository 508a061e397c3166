import Scribe.Edit.Wire
import Scribe.Remote.Page
import Scribe.Remote.Query
import Scribe.Remote.Token

/-!
# The remote store

A store whose folders and documents are kept by a web service. Each operation sends requests, one
after the other, and stops at the first that fails. A list is asked for page by page. Of the replies
only those are read whose data is needed.
-/

namespace Scribe.Remote

open Scribe.Action Json

/-- Where the service is, for documents and for files, and what grants access to it. -/
structure Site where
  documents : String
  files : String
  credentials : Credentials
  deriving DecidableEq, Repr

/-- A service at two addresses; slashes at their ends do not count. -/
def Site.new (documents files : String) (credentials : Credentials) : Site :=
  let bare (url : String) : String := .ofList (Text.dropWhileEnd (· == '/') url.toList)
  ⟨bare documents, bare files, credentials⟩

/-- Report an event of the remote store. -/
def noteRemote (level : Log.Level) (message : String) : Action σ Unit :=
  report level .drive message

/-! ### Requests -/

/-- What is asked of the service: the address, the parameters, and what is sent along. -/
structure Question where
  method : Method
  url : String
  params : List (String × String)
  body : Body
  deriving DecidableEq, Repr

/-- The request for a question, unless its address or the token is not valid. -/
def Question.request? (q : Question) (token : String) : Option Request := do
  let address ← Address.parse? q.url
  return ⟨q.method, address.withParams q.params, some (← bearer? token), q.body⟩

/-- Ask the service. Gives the text of a reply that tells of success. -/
def ask (r : Site) (t : Transport ρ) (q : Question) : Action (Connection ρ) String := do
  let token ← currentToken t r.credentials
  match q.request? token with
  | none => throw .transport
  | some request =>
    match ← deliver t request with
    | .lost => throw .transport
    | .reply status body =>
      if isSuccess status then return body
      else
        let reason := errorReason body
        noteRemote .warn
          ("Google API request failed with " ++ shownStatus status ++ ": " ++ reason)
        throw (.remote status reason)

/-- Ask the service and read the reply. -/
def askFor (r : Site) (t : Transport ρ) (q : Question) (read : String → Except Fault α) :
    Action (Connection ρ) α := do
  ofExcept (read (← ask r t q))

/-- A question with a place in a list. -/
def Question.atPage (q : Question) (page : Option String) : Question :=
  { q with params := q.params ++ (page.map fun token => ("pageToken", token)).toList }

/-- Ask for the pages of a list from one on; `fuel` bounds their number. -/
def askPages (r : Site) (t : Transport ρ) (q : Question)
    (read : String → Except Fault (Page α)) : Nat → Option String → Action (Connection ρ) (List α)
  | 0, _ => throw .transport
  | fuel + 1, page => do
    let p ← askFor r t (q.atPage page) read
    match p.next with
    | none => return p.items
    | some token => return p.items ++ (← askPages r t q read fuel (some token))

/-- Ask for a whole list. -/
def askAll (r : Site) (t : Transport ρ) (q : Question) (read : String → Except Fault (Page α)) :
    Action (Connection ρ) (List α) := do
  let c ← Action.store
  askPages r t q read (t.left c.transport + 1) none

/-! ### Questions -/

/-- The question for files. -/
def filesQuestion (r : Site) (query fields : String) : Question :=
  ⟨.get, r.files ++ "/files",
   [("q", query), ("fields", fields), ("orderBy", "modifiedTime desc"),
    ("supportsAllDrives", "true"), ("includeItemsFromAllDrives", "true")],
   .nothing⟩

/-- The order to create a file. -/
def createQuestion (r : Site) (parent name type : String) : Question :=
  ⟨.post, r.files ++ "/files", [("fields", "id"), ("supportsAllDrives", "true")],
   .json (Value.compact (.object
     [("mimeType", .string type), ("name", .string name), ("parents", .array [.string parent])]))⟩

/-- The question for the elements of a body. -/
def bodyQuestion (r : Site) (document : String) : Question :=
  ⟨.get, r.documents ++ "/documents/" ++ document, [("fields", "body/content/endIndex")], .nothing⟩

/-- The order to apply a plan. -/
def planQuestion (r : Site) (document : String) (plan : Edit.Plan) : Question :=
  ⟨.post, r.documents ++ "/documents/" ++ document ++ ":batchUpdate", [], .json plan.body⟩

/-- The question for the HTML of a document. -/
def exportQuestion (r : Site) (document : String) : Question :=
  ⟨.get, r.files ++ "/files/" ++ document ++ "/export", [("mimeType", "text/html")], .nothing⟩

/-- The fields of comments that are asked for. -/
def commentFields : String :=
  "nextPageToken,comments(id,author/displayName,content,resolved,createdTime,modifiedTime,"
    ++ "quotedFileContent/value,replies(id,author/displayName,content,createdTime))"

/-- The question for comments. -/
def commentsQuestion (r : Site) (document : String) : Question :=
  ⟨.get, r.files ++ "/files/" ++ document ++ "/comments",
   [("includeDeleted", "false"), ("fields", commentFields)], .nothing⟩

/-- The order to reply to a comment. -/
def replyQuestion (r : Site) (document comment content : String) : Question :=
  ⟨.post, r.files ++ "/files/" ++ document ++ "/comments/" ++ comment ++ "/replies",
   [("fields", "id")], .json (Value.compact (.object [("content", .string content)]))⟩

/-- The order to resolve a comment. -/
def resolveQuestion (r : Site) (document comment : String) : Question :=
  ⟨.patch, r.files ++ "/files/" ++ document ++ "/comments/" ++ comment, [("fields", "id")],
   .json (Value.compact (.object [("resolved", .bool true)]))⟩

/-! ### The store -/

/-- Create a file of a type. -/
def createFile (r : Site) (t : Transport ρ) (parent name type : String) :
    Action (Connection ρ) String := do
  let id ← askFor r t (createQuestion r parent name type) readCreated
  noteRemote .debug ("Created " ++ type ++ " '" ++ name ++ "' as " ++ id)
  return id

/-- The remote store. -/
def store (r : Site) (t : Transport ρ) : Store (Connection ρ) where
  findFolder parent name := do
    let found ← askAll r t
      (filesQuestion r (folderQuery parent name) "nextPageToken,files(id)") readFiles
    return found.head?.map (·.id)
  createFolder parent name := createFile r t parent name folderType
  createDocument parent title := createFile r t parent title documentType
  bodyEnd document := askFor r t (bodyQuestion r document) readBodyEnd
  applyPlan document plan := do
    noteRemote .debug
      ("Sending batch of " ++ toString plan.length ++ " requests to document " ++ document)
    let _ ← ask r t (planQuestion r document plan)
  exportHtml document := ask r t (exportQuestion r document)
  listDocuments parent := do
    let found ← askAll r t
      (filesQuestion r (documentsQuery parent) "nextPageToken,files(id,name,modifiedTime)")
      readFiles
    return found.map (·.summary)
  listComments document := askAll r t (commentsQuestion r document) readComments
  createReply document comment content := do
    let _ ← ask r t (replyQuestion r document comment content)
  resolveComment document comment := do
    let _ ← ask r t (resolveQuestion r document comment)

end Scribe.Remote
