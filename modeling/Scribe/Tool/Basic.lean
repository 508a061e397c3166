import Scribe.Json.Writer

/-!
# The tool catalogue

Agents are offered seven tools. A tool has a name, a description and parameters; the catalogue
publishes them as data.
-/

namespace Scribe

/-- The tools. -/
inductive Tool where
  | createDoc
  | updateDoc
  | readDoc
  | listDocs
  | getComments
  | replyToComment
  | resolveComment
  deriving DecidableEq, Repr

/-- The kind of an argument. -/
inductive ParameterKind where
  | text
  | flag
  deriving DecidableEq, Repr

/-- The name of a kind in the catalogue. -/
def ParameterKind.name : ParameterKind → String
  | .text => "string"
  | .flag => "boolean"

/-- A parameter of a tool. -/
structure Parameter where
  name : String
  kind : ParameterKind
  required : Bool
  description : String
  deriving DecidableEq, Repr

namespace Tool

/-- All tools, in the order of the catalogue. -/
def all : List Tool :=
  [.createDoc, .updateDoc, .readDoc, .listDocs, .getComments, .replyToComment, .resolveComment]

/-- The name of a tool. -/
def name : Tool → String
  | .createDoc => "create_doc"
  | .updateDoc => "update_doc"
  | .readDoc => "read_doc"
  | .listDocs => "list_docs"
  | .getComments => "get_comments"
  | .replyToComment => "reply_to_comment"
  | .resolveComment => "resolve_comment"

/-- What a tool does. -/
def description : Tool → String
  | .createDoc =>
    "Create a new Google Doc from Markdown content in the configured Drive folder. "
      ++ "Returns the doc URL."
  | .updateDoc => "Replace the full content of a Google Doc with new Markdown content."
  | .readDoc => "Read the content of a Google Doc as Markdown."
  | .listDocs =>
    "List Google Docs in the configured Drive folder, optionally filtered to a subfolder."
  | .getComments => "Get all comments (and their replies) on a Google Doc."
  | .replyToComment => "Post a reply to a comment on a Google Doc."
  | .resolveComment => "Mark a comment as resolved on a Google Doc."

/-- A text that a call must give. -/
def requiredText (name description : String) : Parameter := ⟨name, .text, true, description⟩

/-- A text that a call may give. -/
def optionalText (name description : String) : Parameter := ⟨name, .text, false, description⟩

/-- The document that a tool works on. -/
def documentParameter : Parameter := requiredText "doc" "Google Doc URL or document ID"

/-- The parameters of a tool. -/
def parameters : Tool → List Parameter
  | .createDoc =>
    [requiredText "title" "Document title",
     requiredText "content" "Document content in Markdown format",
     optionalText "subfolder"
      "Optional subfolder name (e.g. 'PRDs', 'Specs'). Created if it doesn't exist."]
  | .updateDoc =>
    [documentParameter,
     requiredText "content" "New document content in Markdown format",
     ⟨"dry_run", .flag, false, "Show a diff against the current document without writing"⟩]
  | .readDoc => [documentParameter]
  | .listDocs => [optionalText "subfolder" "Optional subfolder name to list docs from"]
  | .getComments => [documentParameter]
  | .replyToComment =>
    [documentParameter,
     requiredText "comment_id" "The ID of the comment to reply to",
     requiredText "reply" "The reply text"]
  | .resolveComment =>
    [documentParameter,
     requiredText "comment_id" "The ID of the comment to resolve"]

/-- The tool with a name. -/
def ofName? (name : String) : Option Tool := all.find? (·.name == name)

end Tool

/-- The entry of a parameter in the catalogue. -/
def Parameter.toJson (p : Parameter) : Json.Value :=
  .object [("type", .string p.kind.name), ("description", .string p.description)]

namespace Tool

/-- What the arguments of a tool look like. -/
def inputSchema (t : Tool) : Json.Value :=
  .object
    [("type", .string "object"),
     ("properties", .object (t.parameters.map fun p => (p.name, p.toJson))),
     ("required", .array ((t.parameters.filter (·.required)).map fun p => .string p.name))]

/-- The entry of a tool in the catalogue. -/
def toJson (t : Tool) : Json.Value :=
  .object
    [("name", .string t.name), ("description", .string t.description),
     ("inputSchema", t.inputSchema)]

end Tool

end Scribe
