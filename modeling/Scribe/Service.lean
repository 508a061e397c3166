import Scribe.Diff.Unified
import Scribe.Document.Reference
import Scribe.Export
import Scribe.Store.Basic

/-!
# The document service

The operations that agents are offered, over any store. Arguments are checked before the store is
asked for anything, and a document is filled or replaced by one plan. A dry run compares the new
content with what the document reads back as, and writes nothing.
-/

namespace Scribe

open Edit

/-- What the service works with: the folder that all documents live under, and the content limit. -/
structure Settings where
  rootFolder : Option String
  maxContentUnits : Nat
  deriving DecidableEq, Repr

/-- The content limit unless another is set. -/
def Settings.defaultMaxContentUnits : Nat := 1000000

/-- What the creation of a document reports. -/
structure Created where
  id : String
  url : String
  title : String
  deriving DecidableEq, Repr

/-- What an update reports: the requests it sends or would send, and in a dry run the difference. -/
structure Updated where
  document : String
  requests : Nat
  diff : Option String
  deriving DecidableEq, Repr

namespace Service

open Scribe.Action

/-- Report an event of the service. -/
def note (level : Log.Level) (message : String) : Action σ Unit := report level .service message

/-- The folder that all documents live under. -/
def rootFolder (s : Settings) : Except Fault String :=
  match s.rootFolder with
  | some id => if id.isEmpty then missing else .ok id
  | none => missing
where
  missing : Except Fault String := .error (.configuration "DRIVE_FOLDER_ID is required")

/-- The name of a subfolder, if an argument names one. -/
def subfolderName (subfolder : Option String) : Option String :=
  (subfolder.map Text.trim).filter fun name => !name.isEmpty

/-- The folder to work in: the root, or the named subfolder of it, created on first use. -/
def folder (store : Store σ) (s : Settings) (subfolder : Option String) : Action σ String := do
  let root ← ofExcept (rootFolder s)
  match subfolderName subfolder with
  | none => return root
  | some name =>
    match ← store.findFolder root name with
    | some id => return id
    | none =>
      let id ← store.createFolder root name
      note .info ("Created subfolder '" ++ name ++ "' (" ++ id ++ ")")
      return id

/-- Refuse a blank argument. -/
def requireText (name value : String) : Except Fault Unit :=
  if Text.allBlank value then .error (.invalidArguments (name ++ " must not be empty")) else .ok ()

/-- Create a document with a content. -/
def createDoc (store : Store σ) (s : Settings) (title content : String)
    (subfolder : Option String) : Action σ Created := do
  ofExcept (requireText "document title" title)
  let plan ← ofExcept (Plan.forNew content s.maxContentUnits)
  let parent ← folder store s subfolder
  let id ← store.createDocument parent title
  note .info ("Created document '" ++ title ++ "' (" ++ id ++ ")")
  if !plan.isEmpty then
    note .debug ("Filling document " ++ id ++ " with " ++ toString plan.length ++ " requests")
    store.applyPlan id plan
  return ⟨id, Document.url id, title⟩

/-- The shown form of a number that may be missing. -/
def shownOption : Option Nat → String
  | none => "None"
  | some n => "Some(" ++ toString n ++ ")"

/-- Replace the whole body of a document, or in a dry run say what that would change. -/
def updateDoc (store : Store σ) (s : Settings) (reference content : String) (dryRun : Bool) :
    Action σ Updated := do
  let id ← ofExcept (Document.resolve reference)
  let stop ← store.bodyEnd id
  let plan ← ofExcept (Plan.forReplacement content stop s.maxContentUnits)
  if dryRun then
    let current := Export.markdown (← store.exportHtml id)
    return ⟨id, plan.length, Diff.unified? current content id⟩
  if !plan.isEmpty then
    note .debug ("Replacing body of " ++ id ++ " (end index " ++ shownOption stop ++ ") with "
      ++ toString plan.length ++ " requests")
    store.applyPlan id plan
  return ⟨id, plan.length, none⟩

/-- Read a document as Markdown. -/
def readDoc (store : Store σ) (reference : String) : Action σ String := do
  let id ← ofExcept (Document.resolve reference)
  return Export.markdown (← store.exportHtml id)

/-- List the documents of a folder. -/
def listDocs (store : Store σ) (s : Settings) (subfolder : Option String) :
    Action σ (List Summary) := do
  store.listDocuments (← folder store s subfolder)

/-- The comments on a document. -/
def getComments (store : Store σ) (reference : String) : Action σ (List Comment) := do
  store.listComments (← ofExcept (Document.resolve reference))

/-- Reply to a comment. -/
def replyToComment (store : Store σ) (reference comment content : String) : Action σ Unit := do
  let id ← ofExcept (Document.resolve reference)
  ofExcept (requireText "comment_id" comment)
  ofExcept (requireText "reply" content)
  store.createReply id comment content

/-- Mark a comment as resolved. -/
def resolveComment (store : Store σ) (reference comment : String) : Action σ Unit := do
  let id ← ofExcept (Document.resolve reference)
  ofExcept (requireText "comment_id" comment)
  store.resolveComment id comment

end Service

end Scribe
