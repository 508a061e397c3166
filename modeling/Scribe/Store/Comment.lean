import Scribe.Json.Value

/-!
# Comments

A comment on a document quotes a passage and has replies. Its author, texts and times may be
unknown.
-/

namespace Scribe

/-- A reply to a comment. -/
structure Reply where
  id : String
  author : Option String
  content : Option String
  createdTime : Option String
  deriving DecidableEq, Repr

/-- A comment with its replies. -/
structure Comment where
  id : String
  author : Option String
  content : Option String
  resolved : Bool
  createdTime : Option String
  quotedText : Option String
  replies : List Reply
  deriving DecidableEq, Repr

/-- A reply as data. -/
def Reply.toJson (r : Reply) : Json.Value :=
  .object
    [("id", .string r.id), ("author", .optional r.author), ("content", .optional r.content),
     ("createdTime", .optional r.createdTime)]

/-- A comment as data. -/
def Comment.toJson (c : Comment) : Json.Value :=
  .object
    [("id", .string c.id), ("author", .optional c.author), ("content", .optional c.content),
     ("resolved", .bool c.resolved), ("createdTime", .optional c.createdTime),
     ("quotedText", .optional c.quotedText), ("replies", .array (c.replies.map Reply.toJson))]

end Scribe
