import Scribe.Files.Path
import Scribe.Json.Schema
import Scribe.Number.Double
import Scribe.Text.Blank
import Scribe.Text.Quoted
import Scribe.Toml.Document

/-!
# Layers of settings

A layer sets some of the settings. Layers lie on top of each other: each setting is that of the
highest layer which sets it, but the credentials are one group, and the highest layer that sets any
of them gives them all.
-/

namespace Scribe.Config

open Files

/-- The settings that say where credentials are found. -/
structure Auth where
  key : Option String
  keyFile : Option Path
  token : Option String
  tokenFile : Option Path
  deriving DecidableEq, Repr

namespace Auth

/-- No credentials. -/
def unset : Auth := ⟨none, none, none, none⟩

/-- Whether no credential is set. -/
def isEmpty (a : Auth) : Bool :=
  a.key.isNone && a.keyFile.isNone && a.token.isNone && a.tokenFile.isNone

/-- The shown form of a secret. -/
def redacted (secret : Option String) : Option String := secret.map fun _ => "<redacted>"

/-- The shown form of the settings, without the secrets. -/
def shown (a : Auth) : String :=
  "AuthSettings \x7b service_account_key: " ++ Text.quotedOption (redacted a.key)
    ++ ", service_account_key_file: " ++ Text.quotedOption a.keyFile
    ++ ", access_token: " ++ Text.quotedOption (redacted a.token)
    ++ ", access_token_file: " ++ Text.quotedOption a.tokenFile ++ " \x7d"

end Auth

/-- Some of the settings. -/
structure Layer where
  rootFolder : Option String
  auth : Auth
  docsEndpoint : Option String
  driveEndpoint : Option String
  maxContentUnits : Option Nat
  logFilter : Option String
  deriving DecidableEq, Repr

namespace Layer

/-- The layer that sets nothing. -/
def empty : Layer := ⟨none, .unset, none, none, none, none⟩

/-- Whether a layer sets nothing. -/
def isEmpty (l : Layer) : Bool :=
  l.rootFolder.isNone && l.auth.isEmpty && l.docsEndpoint.isNone && l.driveEndpoint.isNone &&
    l.maxContentUnits.isNone && l.logFilter.isNone

/-- One layer with another on top of it. -/
def merge (lower upper : Layer) : Layer where
  rootFolder := upper.rootFolder.or lower.rootFolder
  auth := if upper.auth.isEmpty then lower.auth else upper.auth
  docsEndpoint := upper.docsEndpoint.or lower.docsEndpoint
  driveEndpoint := upper.driveEndpoint.or lower.driveEndpoint
  maxContentUnits := upper.maxContentUnits.or lower.maxContentUnits
  logFilter := upper.logFilter.or lower.logFilter

/-! ### Defaults -/

/-- Where documents are edited unless something else is set. -/
def defaultDocsEndpoint : String := "https://docs.googleapis.com/v1"

/-- Where files are managed unless something else is set. -/
def defaultDriveEndpoint : String := "https://www.googleapis.com/drive/v3"

/-- The content limit unless something else is set. -/
def defaultMaxContentUnits : Nat := 1000000

/-- The log filter unless something else is set. -/
def defaultLogFilter : String := "warn"

/-- The lowest layer. -/
def defaults : Layer :=
  { empty with
    docsEndpoint := some defaultDocsEndpoint
    driveEndpoint := some defaultDriveEndpoint
    maxContentUnits := some defaultMaxContentUnits
    logFilter := some defaultLogFilter }

/-! ### Files -/

/-- A group of settings in a file; all of it may be missing. -/
def group (name : String) (fields : List (String × Json.Schema)) :
    Json.Presence × Json.Schema :=
  (.fallback (.object []),
   .record name true (fields.map fun (key, s) => (key, .required, .optional s)))

/-- What a settings file looks like. -/
def schema : Json.Schema :=
  .record "RawConfig" true
    [("drive", group "RawDrive" [("root_folder_id", .string)]),
     ("auth", group "RawAuth"
       [("service_account_key_file", .text "path string"),
        ("access_token", .string),
        ("access_token_file", .text "path string")]),
     ("endpoints", group "RawEndpoints" [("docs", .string), ("drive", .string)]),
     ("limits", group "RawLimits" [("max_content_chars", .word "usize")]),
     ("log", group "RawLog" [("filter", .string)])]

/-- A double as a fault in a settings file describes it. -/
def shownDouble (bits : UInt64) : String :=
  if Number.magnitude bits < 0x7FF0000000000000 then Number.writePositional bits
  else if Number.magnitude bits = 0x7FF0000000000000 then
    (if Number.isNegative bits then "-inf" else "inf")
  else "NaN"

/-- The wording of faults in a settings file. -/
def wording : Json.Schema.Wording := ⟨"unit value", shownDouble, false⟩

/-- The layer of a settings file in a folder, or the reason why it is invalid, if there is one to
tell. Paths in it are below the folder. -/
def ofFile (folder : Path) (text : String) : Except (Option String) Layer :=
  match Toml.parse? text with
  | none => .error none
  | some v =>
    match schema.decodeWith wording v with
    | .error reason => .error (some reason)
    | .ok v =>
      let setting (groupName key : String) : Option Json.Value :=
        (v.get? groupName).bind (·.get? key)
      let text (groupName key : String) : Option String := (setting groupName key).bind (·.string?)
      .ok
        { rootFolder := text "drive" "root_folder_id"
          auth :=
            { key := none
              keyFile := (text "auth" "service_account_key_file").map (Path.under folder)
              token := text "auth" "access_token"
              tokenFile := (text "auth" "access_token_file").map (Path.under folder) }
          docsEndpoint := text "endpoints" "docs"
          driveEndpoint := text "endpoints" "drive"
          maxContentUnits := (setting "limits" "max_content_chars").bind (·.nat?)
          logFilter := text "log" "filter" }

/-! ### The environment -/

/-- The variables of the environment. -/
abbrev Variables := List (String × String)

/-- The variables that settings are taken from. -/
def variableNames : List String :=
  ["DRIVE_FOLDER_ID", "GOOGLE_SERVICE_ACCOUNT_KEY", "GOOGLE_SERVICE_ACCOUNT_KEY_FILE",
   "GOOGLE_ACCESS_TOKEN", "GOOGLE_ACCESS_TOKEN_FILE", "DOCS_MCP_LOG"]

/-- The value of a variable, unless it is blank. -/
def Variables.get? (vars : Variables) (name : String) : Option String :=
  (vars.lookup name).filter fun value => !Text.allBlank value

/-- The layer of the environment. Paths in it are below the working directory. -/
def ofVariables (workingDir : Path) (vars : Variables) : Layer :=
  { empty with
    rootFolder := vars.get? "DRIVE_FOLDER_ID"
    auth :=
      { key := vars.get? "GOOGLE_SERVICE_ACCOUNT_KEY"
        keyFile := (vars.get? "GOOGLE_SERVICE_ACCOUNT_KEY_FILE").map (Path.under workingDir)
        token := vars.get? "GOOGLE_ACCESS_TOKEN"
        tokenFile := (vars.get? "GOOGLE_ACCESS_TOKEN_FILE").map (Path.under workingDir) }
    logFilter := vars.get? "DOCS_MCP_LOG" }

end Layer

end Scribe.Config
