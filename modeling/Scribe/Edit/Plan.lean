import Scribe.Edit.Compiled
import Scribe.Fault

/-!
# Plans

A plan is the list of requests that one atomic edit sends. It either fills a new document or
replaces the whole body of an existing one, and it is only made for a content within the limit,
which counts the UTF-16 units of the Markdown.
-/

namespace Scribe.Edit

open Scribe.Text

/-- The end index of a body that holds only its final line feed. -/
def emptyBodyEnd : Nat := 2

/-- Requests in the order in which one edit applies them. -/
abbrev Plan := List Request

/-- Accept a content of at most `limit` units. -/
def checkLimit (markdown : String) (limit : Nat) : Except Fault Unit :=
  if limit < units markdown then .error (.contentTooLarge limit (units markdown)) else .ok ()

namespace Plan

/-- The deletion of an old body that ends at `stop`; its final line feed cannot be deleted. -/
def clearing (stop : Nat) : Plan :=
  if emptyBodyEnd < stop then [.delete ⟨bodyStart, stop - 1⟩] else []

/-- The plan that fills a new, empty document. -/
def forNew (markdown : String) (limit : Nat) : Except Fault Plan := do
  checkLimit markdown limit
  return (compile markdown).requests

/-- The plan that replaces a body which ends at `existingEnd`, or is empty if that is unknown. -/
def forReplacement (markdown : String) (existingEnd : Option Nat) (limit : Nat) :
    Except Fault Plan := do
  checkLimit markdown limit
  return clearing (existingEnd.getD emptyBodyEnd) ++ (compile markdown).requests

end Plan

end Scribe.Edit
