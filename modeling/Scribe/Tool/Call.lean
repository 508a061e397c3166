import Scribe.Service
import Scribe.Tool.Basic

/-!
# Tool calls

A call names a tool and gives arguments. The arguments are checked against the parameters of the
tool in their order; then the service is asked, and its answer is rendered as text for the agent. A
fault of the service is an answer, too; only an unknown tool and arguments that do not fit are
faults of the call.
-/

namespace Scribe

/-- Why a call cannot be made. -/
inductive CallFault where
  | unknownTool (name : String)
  | invalidArguments (reason : String)
  deriving DecidableEq, Repr

/-- The wording of a fault. -/
def CallFault.message : CallFault → String
  | .unknownTool name => "unknown tool: " ++ name
  | .invalidArguments reason => reason

/-- What a call answers. -/
structure Output where
  text : String
  isError : Bool
  deriving DecidableEq, Repr

/-- An answer as data. -/
def Output.toJson (o : Output) : Json.Value :=
  .object
    [("content", .array [.object [("type", .string "text"), ("text", .string o.text)]]),
     ("isError", .bool o.isError)]

/-! ### Arguments -/

/-- The arguments of a call, by name. -/
abbrev Arguments := List (String × Json.Value)

namespace Arguments

/-- The arguments that a value holds; null holds none. -/
def ofJson : Json.Value → Except CallFault Arguments
  | .null => .ok []
  | .object members => .ok members
  | _ => .error (.invalidArguments "tool arguments must be an object")

/-- An argument; null counts as missing. -/
def get? (args : Arguments) (name : String) : Option Json.Value :=
  match args.lookup name with
  | some .null => none
  | v => v

/-- A text that may be missing. -/
def text? (args : Arguments) (name : String) : Except CallFault (Option String) :=
  match args.get? name with
  | none => .ok none
  | some (.string s) => .ok (some s)
  | some _ => .error (.invalidArguments ("argument '" ++ name ++ "' must be a string"))

/-- A text. -/
def text (args : Arguments) (name : String) : Except CallFault String := do
  match ← args.text? name with
  | some s => return s
  | none => throw (.invalidArguments ("missing required argument '" ++ name ++ "'"))

/-- A flag, which is off if it is missing. -/
def flag (args : Arguments) (name : String) : Except CallFault Bool :=
  match args.get? name with
  | none => .ok false
  | some (.bool b) => .ok b
  | some _ => .error (.invalidArguments ("argument '" ++ name ++ "' must be a boolean"))

end Arguments

/-! ### Operations -/

/-- An operation of the service with its arguments. -/
inductive Operation where
  | createDoc (title content : String) (subfolder : Option String)
  | updateDoc (document content : String) (dryRun : Bool)
  | readDoc (document : String)
  | listDocs (subfolder : Option String)
  | getComments (document : String)
  | replyToComment (document comment content : String)
  | resolveComment (document comment : String)
  deriving DecidableEq, Repr

/-- The operation that a call of a tool asks for. -/
def Tool.operation (t : Tool) (args : Arguments) : Except CallFault Operation :=
  match t with
  | .createDoc =>
    return .createDoc (← args.text "title") (← args.text "content") (← args.text? "subfolder")
  | .updateDoc =>
    return .updateDoc (← args.text "doc") (← args.text "content") (← args.flag "dry_run")
  | .readDoc => return .readDoc (← args.text "doc")
  | .listDocs => return .listDocs (← args.text? "subfolder")
  | .getComments => return .getComments (← args.text "doc")
  | .replyToComment =>
    return .replyToComment (← args.text "doc") (← args.text "comment_id") (← args.text "reply")
  | .resolveComment => return .resolveComment (← args.text "doc") (← args.text "comment_id")

/-! ### Answers as text -/

/-- A created document as text. -/
def Created.toText (c : Created) : String :=
  "Created: **" ++ c.title ++ "**\nURL: " ++ c.url ++ "\nID: " ++ c.id

/-- An update as text. -/
def Updated.toText (u : Updated) (dryRun : Bool) : String :=
  if !dryRun then "Doc updated."
  else
    match u.diff with
    | some diff =>
      Text.trimEnd diff ++ "\n\nWould send " ++ toString u.requests ++ " requests."
    | none => "No changes."

/-- A document in a listing as text. -/
def Summary.toText (s : Summary) : String :=
  "- **" ++ s.name ++ "**\n  " ++ s.url ++ "\n  Modified: " ++ s.modifiedTime

/-- A listing as text. -/
def listingText (docs : List Summary) : String :=
  if docs.isEmpty then "No docs found." else "\n".intercalate (docs.map Summary.toText)

/-- Comments as text. -/
def commentsText (comments : List Comment) : String :=
  if comments.isEmpty then "No comments found."
  else (Json.Value.array (comments.map Comment.toJson)).pretty

/-- Ask the service, and render its answer. -/
def Operation.run (store : Store σ) (s : Settings) : Operation → Action σ String
  | .createDoc title content subfolder =>
    return (← Service.createDoc store s title content subfolder).toText
  | .updateDoc document content dryRun =>
    return (← Service.updateDoc store s document content dryRun).toText dryRun
  | .readDoc document => Service.readDoc store document
  | .listDocs subfolder => return listingText (← Service.listDocs store s subfolder)
  | .getComments document => return commentsText (← Service.getComments store document)
  | .replyToComment document comment content => do
    Service.replyToComment store document comment content
    return "Reply posted."
  | .resolveComment document comment => do
    Service.resolveComment store document comment
    return "Comment resolved."

namespace Tool

/-- Report that a call has failed. A program that came down reports nothing more. -/
def noteFailure : Fault → StateM (World σ) Unit
  | .crash _ => return ()
  | f => do
    let _ ← (Action.report .warn .tools ("Tool call failed: " ++ f.message) : Action σ Unit).run

/-- The answer to an operation. -/
def answer (store : Store σ) (s : Settings) (op : Operation) : StateM (World σ) Output := do
  match ← (op.run store s).run with
  | .ok text => return ⟨text, false⟩
  | .error f =>
    noteFailure f
    return ⟨f.message, true⟩

/-- Call the tool with a name. -/
def call (store : Store σ) (s : Settings) (name : String) (arguments : Json.Value) :
    StateM (World σ) (Except CallFault Output) := do
  match Arguments.ofJson arguments with
  | .error f => return .error f
  | .ok args =>
    let _ ← (Action.report .debug .tools ("Calling tool " ++ name) : Action σ Unit).run
    match ofName? name with
    | none => return .error (.unknownTool name)
    | some t =>
      match t.operation args with
      | .error f => return .error f
      | .ok op => return .ok (← answer store s op)

end Tool

end Scribe
