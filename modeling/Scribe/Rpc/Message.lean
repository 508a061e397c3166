import Scribe.Json.Schema
import Scribe.Tool.Call

/-!
# Messages

The server speaks JSON-RPC 2.0. A message is a request if it has an id, which may be null, and a
notification if it has none; a notification gets no answer and causes nothing. A request is answered
by a result or by an error with a code.
-/

namespace Scribe.Rpc

open Json

/-- Why a request gets no result. -/
inductive ErrorKind where
  | parseError
  | invalidRequest
  | methodNotFound
  | invalidParams
  deriving DecidableEq, Repr

/-- The code of an error. -/
def ErrorKind.code : ErrorKind → Int
  | .parseError => -32700
  | .invalidRequest => -32600
  | .methodNotFound => -32601
  | .invalidParams => -32602

/-- What a request is answered with. -/
inductive Outcome where
  | result (value : Value)
  | error (kind : ErrorKind) (message : String)
  deriving Repr

/-- The answer to a request. -/
structure Response where
  id : Value
  outcome : Outcome
  deriving Repr

/-- The only version of the format that is accepted. -/
def formatVersion : String := "2.0"

/-- An answer as data, with sorted members. -/
def Response.toJson (r : Response) : Value :=
  Value.sorted (.object
    [("jsonrpc", .string formatVersion), ("id", r.id),
     match r.outcome with
     | .result value => ("result", value)
     | .error kind message =>
       ("error", .object
         [("code", .number (.integer kind.code)), ("message", .string message)])])

/-! ### Reading messages -/

/-- What a message must look like. -/
def requestSchema : Schema :=
  .record "Request" false
    [("jsonrpc", .required, .string),
     ("method", .required, .string),
     ("params", .fallback .null, .anything)]

/-- What the parameters of a tool call must look like. -/
def callSchema : Schema :=
  .record "CallParams" false
    [("name", .required, .string), ("arguments", .fallback .null, .anything)]

/-- A method with its parameters. -/
structure Request where
  method : String
  params : Value
  deriving Repr

/-- The text of a field. -/
def textOf (v : Value) (name : String) : String := ((v.get? name).bind (·.string?)).getD ""

/-- The request that a message holds, or what is wrong with it. -/
def Request.ofMessage (message : Value) : Except String Request :=
  match requestSchema.decode message with
  | .error reason => .error ("invalid request: " ++ reason)
  | .ok v =>
    if textOf v "jsonrpc" = formatVersion then
      .ok ⟨textOf v "method", (v.get? "params").getD .null⟩
    else .error "jsonrpc must be \"2.0\""

/-! ### Answers -/

/-- The version of the protocol for tools. -/
def protocolVersion : String := "2024-11-05"

/-- The name of the server. -/
def serverName : String := "docs-mcp"

/-- The version of the server. -/
def serverVersion : String := "0.1.0"

/-- What the server says about itself. -/
def serverInfo : Value :=
  .object
    [("protocolVersion", .string protocolVersion),
     ("capabilities", .object [("tools", .object [("listChanged", .bool false)])]),
     ("serverInfo", .object
       [("name", .string serverName), ("version", .string serverVersion)])]

/-- The answer to a tool call. -/
def callTool (store : Store σ) (s : Settings) (params : Value) : StateM (World σ) Outcome := do
  match callSchema.decode params with
  | .error reason => return .error .invalidParams ("invalid params: " ++ reason)
  | .ok v =>
    match ← Tool.call store s (textOf v "name") ((v.get? "arguments").getD .null) with
    | .ok output => return .result output.toJson
    | .error f => return .error .invalidParams f.message

/-- The answer to a request. -/
def dispatch (store : Store σ) (s : Settings) (r : Request) : StateM (World σ) Outcome := do
  match r.method with
  | "initialize" => return .result serverInfo
  | "ping" => return .result (.object [])
  | "tools/list" => return .result (.object [("tools", .array (Tool.all.map Tool.toJson))])
  | "tools/call" => callTool store s r.params
  | other => return .error .methodNotFound ("method not found: " ++ other)

/-- Report an event of the server. -/
def note (level : Log.Level) (message : String) : StateM (World σ) Unit := do
  let _ ← (Action.report level .server message : Action σ Unit).run

/-- The answer to a message. -/
def handleMessage (store : Store σ) (s : Settings) (message : Value) :
    StateM (World σ) (Option Response) := do
  let id := message.get? "id"
  match Request.ofMessage message with
  | .error reason => return some ⟨id.getD .null, .error .invalidRequest reason⟩
  | .ok r =>
    match id with
    | none =>
      note .debug ("Notification " ++ r.method)
      return none
    | some id =>
      note .debug ("Request " ++ r.method ++ " (" ++ id.compact ++ ")")
      return some ⟨id, ← dispatch store s r⟩

/-- The answer to a line. -/
def handleLine (store : Store σ) (s : Settings) (line : String) :
    StateM (World σ) (Option Response) := do
  match Value.parse line with
  | .ok message => handleMessage store s message.sorted
  | .error stop =>
    let reason := stop.message line
    note .warn ("Unparseable message: " ++ reason)
    return some ⟨.null, .error .parseError ("parse error: " ++ reason)⟩

end Scribe.Rpc
