import Scribe.Document.Reference
import Scribe.Json.Schema
import Scribe.Store.Basic

/-!
# What replies hold

The data of replies, as far as it is read. Lists come in pages, each of which names the next one
unless it is the last.
-/

namespace Scribe.Remote

open Json

/-- A page of a list. -/
structure Page (α : Type) where
  items : List α
  next : Option String
  deriving DecidableEq, Repr

/-- A file in a list. -/
structure RemoteFile where
  id : String
  name : String
  modifiedTime : Option String
  deriving DecidableEq, Repr

/-! ### What is expected -/

/-- A text that may be missing. -/
def optionalText (name : String) : String × Presence × Schema :=
  (name, .required, .optional .string)

/-- A text that has to be there. -/
def requiredText (name : String) : String × Presence × Schema := (name, .required, .string)

/-- A list that is empty if it is missing. -/
def listOf (name : String) (s : Schema) : String × Presence × Schema :=
  (name, .fallback (.array []), .list s)

/-- A file. -/
def fileSchema : Schema :=
  .record "DriveFile" false
    [requiredText "id", ("name", .fallback (.string ""), .string), optionalText "modifiedTime"]

/-- A page of files. -/
def filesSchema : Schema :=
  .record "FileList" false [listOf "files" fileSchema, optionalText "nextPageToken"]

/-- A file that was created. -/
def createdSchema : Schema := .record "CreatedFile" false [requiredText "id"]

/-- The elements of a body. -/
def elementSchema : Schema :=
  .record "StructuralElement" false [("endIndex", .required, .optional (.word "usize"))]

/-- The body of a document. -/
def bodySchema : Schema := .record "DocumentBody" false [listOf "content" elementSchema]

/-- A document. -/
def documentSchema : Schema :=
  .record "DocumentResource" false
    [("body", .fallback (.object [("content", .array [])]), bodySchema)]

/-- The author of a comment. -/
def authorSchema : Schema := .record "Author" false [optionalText "displayName"]

/-- The passage that a comment is about. -/
def quotedSchema : Schema := .record "QuotedContent" false [optionalText "value"]

/-- A reply to a comment. -/
def replySchema : Schema :=
  .record "RemoteReply" false
    [requiredText "id", ("author", .required, .optional authorSchema), optionalText "content",
     optionalText "createdTime"]

/-- A comment. -/
def commentSchema : Schema :=
  .record "RemoteComment" false
    [requiredText "id", ("author", .required, .optional authorSchema), optionalText "content",
     ("resolved", .fallback (.bool false), .flag), optionalText "createdTime",
     ("quotedFileContent", .required, .optional quotedSchema), listOf "replies" replySchema]

/-- A page of comments. -/
def commentsSchema : Schema :=
  .record "CommentList" false [listOf "comments" commentSchema, optionalText "nextPageToken"]

/-- A refusal. -/
def errorSchema : Schema :=
  .record "ErrorEnvelope" false
    [("error", .required, .record "ErrorDetail" false [optionalText "message"])]

/-! ### Reading -/

/-- A text field. -/
def textOf (v : Value) (name : String) : Option String := (v.get? name).bind (·.string?)

/-- A text field of a field. -/
def innerTextOf (v : Value) (outer name : String) : Option String :=
  (v.get? outer).bind (textOf · name)

/-- The items of a list field. -/
def itemsOf (v : Value) (name : String) : List Value := ((v.get? name).map (·.items)).getD []

/-- A file. -/
def RemoteFile.ofValue (v : Value) : RemoteFile :=
  ⟨(textOf v "id").getD "", (textOf v "name").getD "", textOf v "modifiedTime"⟩

/-- A file in the listing of documents. -/
def RemoteFile.summary (f : RemoteFile) : Summary :=
  ⟨f.id, f.name, Document.url f.id, f.modifiedTime.getD ""⟩

/-- A reply to a comment. -/
def replyOf (v : Value) : Reply :=
  ⟨(textOf v "id").getD "", innerTextOf v "author" "displayName", textOf v "content",
   textOf v "createdTime"⟩

/-- A comment. -/
def commentOf (v : Value) : Comment :=
  ⟨(textOf v "id").getD "", innerTextOf v "author" "displayName", textOf v "content",
   ((v.get? "resolved").bind (·.bool?)).getD false, textOf v "createdTime",
   innerTextOf v "quotedFileContent" "value", (itemsOf v "replies").map replyOf⟩

/-- Read data of a kind from a reply. -/
def readReply (s : Schema) (body : String) : Except Fault Value := (s.read body).mapError .malformed

/-- Read a page of a list from a reply. -/
def readPage (s : Schema) (name : String) (item : Value → α) (body : String) :
    Except Fault (Page α) :=
  (readReply s body).map fun v => ⟨(itemsOf v name).map item, textOf v "nextPageToken"⟩

/-- Read a page of files. -/
def readFiles : String → Except Fault (Page RemoteFile) :=
  readPage filesSchema "files" RemoteFile.ofValue

/-- Read a page of comments. -/
def readComments : String → Except Fault (Page Comment) :=
  readPage commentsSchema "comments" commentOf

/-- Read the id of a file that was created. -/
def readCreated (body : String) : Except Fault String :=
  (readReply createdSchema body).map fun v => (textOf v "id").getD ""

/-- Read the end index of the last element of a body. -/
def readBodyEnd (body : String) : Except Fault (Option Nat) :=
  (readReply documentSchema body).map fun v =>
    ((v.get? "body").map (itemsOf · "content")).bind fun elements =>
      elements.getLast?.bind fun e => (e.get? "endIndex").bind (·.nat?)

/-- The reason in a refusal: the message, or else the whole text. -/
def errorReason (body : String) : String :=
  let told := match errorSchema.read body with
    | .error _ => none
    | .ok v => innerTextOf v "error" "message"
  told.getD (Text.trim body)

end Scribe.Remote
