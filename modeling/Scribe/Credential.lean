import Scribe.Fault
import Scribe.Json.Schema

/-!
# Credentials

Access to remote documents is granted by the key of a service account, which is exchanged for
short-lived access tokens, or by an access token as it is. A key is read from JSON. The shown form
of a key names the account and never the private key.
-/

namespace Scribe

/-- The key of a service account. -/
structure ServiceKey where
  clientEmail : String
  privateKey : String
  tokenUri : String
  deriving DecidableEq, Repr

namespace ServiceKey

/-- Where tokens are fetched if the key does not say. -/
def defaultTokenUri : String := "https://oauth2.googleapis.com/token"

/-- The fields of a key. -/
def schema : Json.Schema :=
  .record "ServiceAccountKey" false
    [("client_email", .required, .string),
     ("private_key", .required, .string),
     ("token_uri", .fallback (.string defaultTokenUri), .string)]

/-- A text field of data that was read through a schema. -/
def textField (v : Json.Value) (name : String) : String :=
  ((v.get? name).bind (·.string?)).getD ""

/-- Read a key from the text of its JSON file. -/
def ofJson (json : String) : Except Fault ServiceKey :=
  match schema.read json with
  | .ok v => .ok ⟨textField v "client_email", textField v "private_key", textField v "token_uri"⟩
  | .error reason => .error (.configuration ("invalid service account key: " ++ reason))

/-- The shown form of a key, without the private key. -/
def shown (k : ServiceKey) : String :=
  "ServiceAccountKey \x7b client_email: " ++ Text.quoted k.clientEmail ++ ", token_uri: "
    ++ Text.quoted k.tokenUri ++ ", .. \x7d"

end ServiceKey

/-- What grants access to remote documents. -/
inductive Credentials where
  | serviceAccount (key : ServiceKey)
  | accessToken (token : String)
  | missing
  deriving DecidableEq, Repr

/-- The shown form of credentials. -/
def Credentials.shown : Credentials → String
  | .serviceAccount key => "ServiceAccount(" ++ key.shown ++ ")"
  | .accessToken token => "AccessToken(" ++ Text.quoted token ++ ")"
  | .missing => "Missing"

end Scribe
