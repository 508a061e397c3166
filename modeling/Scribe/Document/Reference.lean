import Scribe.Fault
import Scribe.Text.Blank
import Scribe.Text.Search

/-!
# Document references

A document is named by its id or by a share URL. The id in a URL is the longest run of id characters
behind the leftmost `/d/` that has such a character behind it; a text without one is an id itself.
-/

namespace Scribe.Document

open Scribe.Text

/-- The characters of an id in a URL. -/
def isIdChar (c : Char) : Bool :=
  c.isAlphanum || c == '_' || c == '-'

/-- The part of a URL in front of an id. -/
def idMarker : List Char := ['/', 'd', '/']

/-- The id behind the leftmost marker that has an id character behind it. -/
def idIn? : List Char → Option (List Char)
  | [] => none
  | c :: cs =>
    match (dropPattern? idMarker (c :: cs)).map (·.takeWhile isIdChar) with
    | some (d :: ds) => some (d :: ds)
    | _ => idIn? cs

/-- The id that a reference names. -/
def resolve (reference : String) : Except Fault String :=
  let trimmed := trim reference
  if trimmed.isEmpty then .error (.invalidArguments "document id or URL must not be empty")
  else match idIn? trimmed.toList with
    | some id => .ok (.ofList id)
    | none => .ok trimmed

/-- The start of every document URL. -/
def urlStart : String := "https://docs.google.com/document/d/"

/-- The URL under which a document is edited. -/
def url (id : String) : String := urlStart ++ id ++ "/edit"

end Scribe.Document
