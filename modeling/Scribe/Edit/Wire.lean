import Scribe.Edit.Plan
import Scribe.Json.Writer

/-!
# The wire form of a plan

A plan is sent as one JSON object with its requests in order. An emphasis names in its field mask
exactly the flags that it sets.
-/

namespace Scribe.Edit

open Scribe.Json Scribe.Markdown

/-- The remote name of a paragraph style. -/
def namedStyle : ParagraphStyle → String
  | .heading1 => "HEADING_1"
  | .heading2 => "HEADING_2"
  | .heading3 => "HEADING_3"
  | .body => "NORMAL_TEXT"

/-- The bullets of a list item. -/
def bulletPreset : String := "BULLET_DISC_CIRCLE_SQUARE"

/-- An extent on the wire. -/
def Extent.toWire (e : Extent) : Value :=
  .object [("startIndex", .nat e.start), ("endIndex", .nat e.stop)]

/-- The names of the emphasis flags that are set. -/
def emphasisFields (bold italicOrCode : Bool) : List String :=
  (if bold then ["bold"] else []) ++ (if italicOrCode then ["italic"] else [])

/-- A formatting on the wire. -/
def Formatting.toWire : Formatting → Value
  | .paragraph e style =>
    .object [("updateParagraphStyle", .object
      [("range", e.toWire),
       ("paragraphStyle", .object [("namedStyleType", .string (namedStyle style))]),
       ("fields", .string "namedStyleType")])]
  | .bullet e =>
    .object [("createParagraphBullets", .object
      [("range", e.toWire), ("bulletPreset", .string bulletPreset)])]
  | .emphasis e bold italicOrCode =>
    let fields := emphasisFields bold italicOrCode
    .object [("updateTextStyle", .object
      [("range", e.toWire),
       ("textStyle", .object (fields.map fun name => (name, .bool true))),
       ("fields", .string (",".intercalate fields))])]

/-- A request on the wire. -/
def Request.toWire : Request → Value
  | .delete e => .object [("deleteContentRange", .object [("range", e.toWire)])]
  | .insert offset text =>
    .object [("insertText", .object
      [("location", .object [("index", .nat offset)]), ("text", .string text)])]
  | .format f => f.toWire

/-- The body that a plan is sent as. -/
def Plan.toWire (p : Plan) : Value := .object [("requests", .array (p.map (·.toWire)))]

/-- The text of the body that a plan is sent as. -/
def Plan.body (p : Plan) : String := p.toWire.compact

end Scribe.Edit
