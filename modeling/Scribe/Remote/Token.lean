import Scribe.Action
import Scribe.Credential
import Scribe.Remote.Exchange
import Scribe.Remote.Key
import Scribe.Text.Blank

/-!
# Access tokens

A request is authorized by an access token. A token that was given by hand is used as it is. The key
of a service account is exchanged for a token, which is kept until shortly before it expires: a
minute before the time that the reply tells, or at once if it lives no longer than that. A token
that was fetched in vain does not replace the one that is kept.

The time at which a token is replaced is computed without a look at the end of the clock. If it lies
beyond that, the program crashes.
-/

namespace Scribe.Remote

open Scribe.Action

/-- Where tokens are valid. -/
def scopes : List String :=
  ["https://www.googleapis.com/auth/drive", "https://www.googleapis.com/auth/documents"]

/-- How long an assertion holds, in seconds, and a token that does not say. -/
def assertionLifetime : Nat := 3600

/-- How long before its expiry a token is replaced, in seconds. -/
def refreshMargin : Nat := 60

/-- The nanoseconds of a second. -/
def second : Nat := 1000000000

/-- The last instant that a clock can tell, whose seconds are a signed word. -/
def lastInstant : Nat := 0x8000000000000000 * second - 1

/-- The clocks: nanoseconds on the one that never goes back, and seconds of the epoch. -/
structure Clock where
  instant : Nat
  epoch : Nat
  deriving DecidableEq, Repr

/-- A token that was fetched, and the instant from which on it is replaced. -/
structure Token where
  value : String
  refreshAt : Nat
  deriving DecidableEq, Repr

/-- The state of a connection: the token that is kept, the clocks, how much later a request for a
token goes out, the state of the transport, and what the program has crashed of, if it has. -/
structure Connection (ρ : Type) where
  token : Option Token
  clock : Clock
  delay : Nat
  transport : ρ
  crash : Option Crash
  deriving Repr

/-- A connection that has not been used. -/
def Connection.new (clock : Clock) (transport : ρ) : Connection ρ :=
  ⟨none, clock, 0, transport, none⟩

/-- The instant at which a request for a token goes out. -/
def Connection.requestedAt (c : Connection ρ) : Nat := c.clock.instant + c.delay

/-- Send a request and take its answer. -/
def deliver (t : Transport ρ) (r : Request) : Action (Connection ρ) Answer := do
  let c ← store
  let (answer, transport) := (t.send r).run c.transport
  modifyStore fun c => { c with transport }
  return answer.settled

/-- Crash. The fault leaves the operation, and the mark tells the run that it is over. -/
def crash (c : Crash) : Action (Connection ρ) α := do
  modifyStore fun connection => { connection with crash := some c }
  throw (.crash c)

/-- Report an event about tokens. -/
def noteToken (level : Log.Level) (message : String) : Action σ Unit :=
  report level .token message

/-! ### Replies -/

/-- What the reply to a request for a token holds. -/
def tokenSchema : Json.Schema :=
  .record "TokenResponse" false
    [("access_token", .required, .string),
     ("expires_in", .fallback (.nat assertionLifetime), .word "u64")]

/-- What a refusal of a token holds. -/
def refusalSchema : Json.Schema :=
  .record "TokenError" false
    [("error", .required, .optional .string),
     ("error_description", .required, .optional .string)]

/-- The reason in a refusal: the description, or else the error, or else the whole text. -/
def refusalReason (body : String) : String :=
  let told := match refusalSchema.read body with
    | .error _ => none
    | .ok v =>
      ((v.get? "error_description").bind (·.string?)).or ((v.get? "error").bind (·.string?))
  told.getD (Text.trim body)

/-- The token that a reply gives, which was asked for at an instant, and its lifetime. -/
def readToken (requestedAt : Nat) (body : String) : Except Fault (Token × Nat) :=
  match tokenSchema.read body with
  | .error reason => .error (.malformed reason)
  | .ok v =>
    let lifetime := ((v.get? "expires_in").bind (·.nat?)).getD assertionLifetime
    let value := ((v.get? "access_token").bind (·.string?)).getD ""
    .ok (⟨value, requestedAt + (lifetime - refreshMargin) * second⟩, lifetime)

/-! ### Fetching -/

/-- What the holder of a key asserts. -/
def assertion (key : ServiceKey) (now : Nat) : Assertion :=
  ⟨key.clientEmail, scopes, key.tokenUri, now, now + assertionLifetime⟩

/-- The request for a token. -/
def tokenRequest (key : ServiceKey) (now : Nat) : Except Fault Request :=
  match PrivateKey.check key.privateKey, Address.parse? key.tokenUri with
  | .error f, _ => .error (.configuration f.message)
  | .ok (), none => .error .transport
  | .ok (), some address => .ok ⟨.post, address, basic? address, .grant (assertion key now)⟩

/-- Exchange a key for a token. -/
def fetchToken (t : Transport ρ) (key : ServiceKey) : Action (Connection ρ) Token := do
  let c ← store
  let request ← ofExcept (tokenRequest key c.clock.epoch)
  match ← deliver t request with
  | .lost => throw .transport
  | .reply status body =>
    if !isSuccess status then
      let reason := refusalReason body
      noteToken .warn ("Token exchange failed with " ++ shownStatus status ++ ": " ++ reason)
      throw (.remote status reason)
    let (token, lifetime) ← ofExcept (readToken c.requestedAt body)
    noteToken .debug
      ("Fetched access token for " ++ key.clientEmail ++ ", expires in " ++ toString lifetime
        ++ "s")
    if lastInstant < token.refreshAt then crash .clockOverflow else return token

/-- The fault of a request without credentials. -/
def missingCredentials : Fault :=
  .configuration "GOOGLE_SERVICE_ACCOUNT_KEY or GOOGLE_SERVICE_ACCOUNT_KEY_FILE is required"

/-- The token that is kept, if it need not be replaced yet. -/
def Connection.fresh? (c : Connection ρ) : Option String :=
  (c.token.filter fun token => c.clock.instant < token.refreshAt).map (·.value)

/-- A token for the next request. -/
def currentToken (t : Transport ρ) : Credentials → Action (Connection ρ) String
  | .accessToken token => return token
  | .missing => throw missingCredentials
  | .serviceAccount key => do
    let c ← store
    match c.fresh? with
    | some value => return value
    | none =>
      if c.token.isSome then
        noteToken .debug ("Access token for " ++ key.clientEmail ++ " is due for refresh")
      let token ← fetchToken t key
      modifyStore fun c => { c with token := some token }
      return token.value

end Scribe.Remote
