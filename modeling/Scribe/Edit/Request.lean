import Scribe.Edit.Extent
import Scribe.Markdown.Line

/-!
# Requests

A request is one step of an atomic edit of a document body: it deletes an extent, inserts a text at
an offset, or formats an extent.
-/

namespace Scribe.Edit

open Scribe.Markdown (ParagraphStyle)

/-- A formatting of one extent. -/
inductive Formatting where
  | paragraph (extent : Extent) (style : ParagraphStyle)
  | bullet (extent : Extent)
  | emphasis (extent : Extent) (bold italicOrCode : Bool)
  deriving DecidableEq, Repr

/-- The extent that a formatting covers. -/
def Formatting.extent : Formatting → Extent
  | .paragraph e _ | .bullet e | .emphasis e _ _ => e

/-- One step of an edit. -/
inductive Request where
  | delete (extent : Extent)
  | insert (offset : Nat) (text : String)
  | format (formatting : Formatting)
  deriving DecidableEq, Repr

/-- The extent that a request formats; insertions and deletions format none. -/
def Request.formatted? : Request → Option Extent
  | .format f => some f.extent
  | _ => none

end Scribe.Edit
