import Scribe.Json.Writer
import Scribe.Remote.Address
import Scribe.Rpc.Message

/-!
# Exchanges

An exchange is one request and the reply to it. A transport carries requests out and has a state of
its own; a script is a transport whose replies are laid down beforehand. A request for an access
token carries an assertion, which the transport signs.
-/

namespace Scribe.Remote

/-- The methods of requests. -/
inductive Method where
  | get
  | post
  | patch
  deriving DecidableEq, Repr

/-- The name of a method. -/
def Method.name : Method → String
  | .get => "GET"
  | .post => "POST"
  | .patch => "PATCH"

/-- What the holder of a key asserts to be given a token. -/
structure Assertion where
  issuer : String
  scopes : List String
  audience : String
  issuedAt : Nat
  expiresAt : Nat
  deriving DecidableEq, Repr

namespace Assertion

/-- How an assertion is signed, in front of it. -/
def header : Json.Value := .object [("typ", .string "JWT"), ("alg", .string "RS256")]

/-- What an assertion says. -/
def claims (a : Assertion) : Json.Value :=
  .object
    [("iss", .string a.issuer), ("scope", .string (" ".intercalate a.scopes)),
     ("aud", .string a.audience), ("iat", .nat a.issuedAt), ("exp", .nat a.expiresAt)]

/-- The kind of grant that an assertion asks for. -/
def grantType : String := "urn:ietf:params:oauth:grant-type:jwt-bearer"

end Assertion

/-- What a request carries. -/
inductive Body where
  | nothing
  | json (text : String)
  | grant (a : Assertion)
  deriving DecidableEq, Repr

/-- The type of what a request carries. -/
def Body.contentType : Body → Option String
  | .nothing => none
  | .json _ => some "application/json"
  | .grant _ => some "application/x-www-form-urlencoded"

/-- A request. -/
structure Request where
  method : Method
  address : Address
  authorization : Option String
  body : Body
  deriving DecidableEq, Repr

/-- The name under which requests are sent. -/
def userAgent : String := Rpc.serverName ++ "/" ++ Rpc.serverVersion

/-! ### Authorization -/

/-- Whether a character may stand in a header. -/
def isHeaderChar (c : Char) : Bool := c == '\t' || !Host.isControl c

/-- The authorization that a token gives, unless it may not stand in a header. Blanks at its end are
not sent. -/
def bearer? (token : String) : Option String :=
  let value := "Bearer ".toList ++ token.toList
  if value.all isHeaderChar then
    some (.ofList (Text.dropWhileEnd (fun c => c == ' ' || c == '\t') value))
  else none

/-- The authorization that the user in an address gives. -/
def basic? (a : Address) : Option String :=
  a.user.map fun u =>
    "Basic " ++ .ofList
      (Text.encode64 (Text.bytesOf (u.name ++ ":" ++ u.password.getD "").toList))

/-! ### Replies -/

/-- The reply to a request. The connection may be lost instead. -/
inductive Answer where
  | lost
  | reply (status : Nat) (body : String)
  deriving DecidableEq, Repr

/-- Whether a status means success. -/
def isSuccess (status : Nat) : Bool := 200 ≤ status && status < 300

/-- Whether a reply with a status has no body. -/
def isBodiless (status : Nat) : Bool := status == 101 || status == 204 || status == 304

/-- Whether a status ends an exchange. The others announce a reply that is still to come, or are
none of three digits. -/
def isFinal (status : Nat) : Bool := status == 101 || (200 ≤ status && status ≤ 999)

/-- What an answer comes to: one that is not final loses the connection, and a body that the status
rules out does not count. -/
def Answer.settled : Answer → Answer
  | .lost => .lost
  | .reply status body =>
    if !isFinal status then .lost else .reply status (if isBodiless status then "" else body)

/-- The standard reasons of statuses. -/
def reasons : List (Nat × String) :=
  [(100, "Continue"), (101, "Switching Protocols"), (102, "Processing"), (103, "Early Hints"),
   (200, "OK"), (201, "Created"), (202, "Accepted"), (203, "Non Authoritative Information"),
   (204, "No Content"), (205, "Reset Content"), (206, "Partial Content"), (207, "Multi-Status"),
   (208, "Already Reported"), (226, "IM Used"), (300, "Multiple Choices"),
   (301, "Moved Permanently"), (302, "Found"), (303, "See Other"), (304, "Not Modified"),
   (305, "Use Proxy"), (307, "Temporary Redirect"), (308, "Permanent Redirect"),
   (400, "Bad Request"), (401, "Unauthorized"), (402, "Payment Required"), (403, "Forbidden"),
   (404, "Not Found"), (405, "Method Not Allowed"), (406, "Not Acceptable"),
   (407, "Proxy Authentication Required"), (408, "Request Timeout"), (409, "Conflict"),
   (410, "Gone"), (411, "Length Required"), (412, "Precondition Failed"),
   (413, "Payload Too Large"), (414, "URI Too Long"), (415, "Unsupported Media Type"),
   (416, "Range Not Satisfiable"), (417, "Expectation Failed"), (418, "I'm a teapot"),
   (421, "Misdirected Request"), (422, "Unprocessable Entity"), (423, "Locked"),
   (424, "Failed Dependency"), (425, "Too Early"), (426, "Upgrade Required"),
   (428, "Precondition Required"), (429, "Too Many Requests"),
   (431, "Request Header Fields Too Large"), (451, "Unavailable For Legal Reasons"),
   (500, "Internal Server Error"), (501, "Not Implemented"), (502, "Bad Gateway"),
   (503, "Service Unavailable"), (504, "Gateway Timeout"), (505, "HTTP Version Not Supported"),
   (506, "Variant Also Negotiates"), (507, "Insufficient Storage"), (508, "Loop Detected"),
   (510, "Not Extended"), (511, "Network Authentication Required")]

/-- A status with its reason. -/
def shownStatus (status : Nat) : String :=
  toString status ++ " " ++ (reasons.lookup status).getD "<unknown status code>"

/-! ### Transports -/

/-- What carries requests out and brings the replies. -/
structure Transport (ρ : Type) where
  /-- Carry a request out. -/
  send : Request → StateM ρ Answer
  /-- A bound on the replies that are still to come. -/
  left : ρ → Nat

/-- The transport that reaches nothing. -/
def unreachable : Transport Unit := ⟨fun _ => return .lost, fun _ => 0⟩

/-- Answers that are laid down, and the requests so far. -/
structure Script where
  answers : List Answer
  sent : List Request
  deriving Repr

/-- The transport that follows a script; when no answer is left, the connection is lost. -/
def Script.transport : Transport Script where
  send r := do
    let s ← get
    set (Script.mk s.answers.tail (s.sent ++ [r]))
    return s.answers.headD .lost
  left s := s.answers.length

end Scribe.Remote
