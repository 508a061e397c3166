import Scribe.Action
import Scribe.Edit.Plan
import Scribe.Store.Comment

/-!
# Document stores

A store holds folders, documents and comments. It moves plans and exports and knows nothing of
Markdown. The operations are a record, so that the service works over any store.
-/

namespace Scribe

/-- A document in a listing. -/
structure Summary where
  id : String
  name : String
  url : String
  modifiedTime : String
  deriving DecidableEq, Repr

/-- The operations of a store whose state is of type `σ`. -/
structure Store (σ : Type) where
  /-- The folder with a name directly under a parent. -/
  findFolder : (parent name : String) → Action σ (Option String)
  /-- Create a folder and give its id. -/
  createFolder : (parent name : String) → Action σ String
  /-- Create an empty document and give its id. -/
  createDocument : (parent title : String) → Action σ String
  /-- The end index of the last element of a body; a body without elements has none. -/
  bodyEnd : (document : String) → Action σ (Option Nat)
  /-- Apply all requests of a plan as one edit. -/
  applyPlan : (document : String) → Edit.Plan → Action σ Unit
  /-- The HTML of a document. -/
  exportHtml : (document : String) → Action σ String
  /-- The documents in a folder, the most recently modified first. -/
  listDocuments : (parent : String) → Action σ (List Summary)
  /-- The comments on a document. -/
  listComments : (document : String) → Action σ (List Comment)
  /-- Reply to a comment. -/
  createReply : (document comment content : String) → Action σ Unit
  /-- Mark a comment as resolved. -/
  resolveComment : (document comment : String) → Action σ Unit

end Scribe
