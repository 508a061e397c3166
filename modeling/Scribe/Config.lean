import Scribe.Config.Layer
import Scribe.Files.Tree
import Scribe.Service
import Scribe.Text.Blank

/-!
# Loading settings

The settings come from built-in defaults, the file at the root of the repository around the working
directory, the file in the working directory, a file that is named by hand, and the environment,
each on top of the ones before. The layers that were applied are kept with the result. A file that
is named by hand is not applied a second time as one of the others when the paths are alike.
-/

namespace Scribe

open Files

namespace Config

/-- A layer that was applied. -/
inductive Source where
  | defaults
  | gitRoot (path : Path)
  | localFile (path : Path)
  | overrideFile (path : Path)
  | environment
  deriving DecidableEq, Repr

/-- The name of a source. -/
def Source.describe : Source → String
  | .defaults => "defaults"
  | .gitRoot path => "git-root config at " ++ path
  | .localFile path => "local config at " ++ path
  | .overrideFile path => "override config at " ++ path
  | .environment => "environment"

/-- Why settings cannot be loaded. -/
inductive LoadFault where
  | workingDirectory (attempted : Path) (cause : FileFault)
  | overrideNotFound (path : Path)
  | io (path : Path) (cause : FileFault)
  | parse (path : Path) (reason : Option String)
  | validation (reason : String)
  deriving DecidableEq, Repr

namespace LoadFault

/-- The wording of a fault. -/
def message : LoadFault → String
  | .workingDirectory attempted cause =>
    "failed to resolve working directory " ++ attempted ++ ": " ++ cause.message
  | .overrideNotFound path => "override config " ++ path ++ " not found"
  | .io path cause => "failed to read " ++ path ++ ": " ++ cause.message
  | .parse path reason =>
    "failed to parse config " ++ path ++ ": TOML parse error" ++ reason.elim "" (": " ++ ·)
  | .validation reason => "configuration validation failed: " ++ reason

/-- The wording of a fault followed by that of its cause. -/
def chain (f : LoadFault) : String :=
  f.message ++
    match f with
    | .workingDirectory _ cause | .io _ cause => ": " ++ cause.message
    | _ => ""

end LoadFault

end Config

open Config in
/-- All settings, the working directory, and the layers that were applied. -/
structure Config where
  rootFolder : Option String
  auth : Auth
  docsEndpoint : String
  driveEndpoint : String
  maxContentUnits : Nat
  logFilter : String
  workingDir : Path
  sources : List Source
  deriving DecidableEq, Repr

namespace Config

/-- The name of a settings file. -/
def fileName : Path := ".docs-mcp.toml"

/-- The nearest folder at or above a path that holds a repository; `fuel` bounds the ascent. -/
def gitRoot? (disk : Disk) : Nat → Path → Option Path
  | 0, _ => none
  | fuel + 1, folder =>
    if disk.has (Path.under folder ".git") then some folder
    else (Path.parent? folder).bind (gitRoot? disk fuel)

/-- The layer of a settings file. -/
def readLayer (disk : Disk) (path : Path) : Except LoadFault Layer :=
  match disk.readText path with
  | .error cause => .error (.io path cause)
  | .ok text =>
    match Layer.ofFile ((Path.parent? path).getD ".") text with
    | .error reason => .error (.parse path reason)
    | .ok layer => .ok layer

/-- The settings files that are applied, the lowest first. -/
def files (disk : Disk) (workingDir : Path) (overridePath : Option Path) : List Source :=
  let overridden (path : Path) : Bool := overridePath.any (Path.alike path)
  let ownPath := Path.under workingDir fileName
  let root := (gitRoot? disk (workingDir.length + 1) workingDir).map (Path.under · fileName)
  ((root.filter fun path => disk.has path && !overridden path && !Path.alike path ownPath).map
      .gitRoot).toList
    ++ (if disk.has ownPath && !overridden ownPath then [.localFile ownPath] else [])
    ++ (overridePath.map .overrideFile).toList

/-- The path of the file behind a source. -/
def Source.path? : Source → Option Path
  | .gitRoot path | .localFile path | .overrideFile path => some path
  | .defaults | .environment => none

/-- The layers of some files on top of a layer. -/
def mergeFiles (disk : Disk) : Layer → List Source → Except LoadFault Layer
  | layer, [] => .ok layer
  | layer, source :: rest =>
    match source.path? with
    | none => mergeFiles disk layer rest
    | some path => do mergeFiles disk (layer.merge (← readLayer disk path)) rest

/-- Whether a text is the address of a web service. -/
def isWebAddress (url : String) : Bool :=
  (Text.dropPattern? "https://".toList url.toList).isSome ||
    (Text.dropPattern? "http://".toList url.toList).isSome

/-- The settings that all layers together give. -/
def Layer.finish (l : Layer) (workingDir : Path) (sources : List Source) :
    Except LoadFault Config :=
  let maxContentUnits := l.maxContentUnits.getD Layer.defaultMaxContentUnits
  let docs := l.docsEndpoint.getD Layer.defaultDocsEndpoint
  let drive := l.driveEndpoint.getD Layer.defaultDriveEndpoint
  let notAnAddress (name url : String) : LoadFault :=
    .validation (name ++ " must be an http(s) URL, got '" ++ url ++ "'")
  if maxContentUnits = 0 then
    .error (.validation "limits.max_content_chars must be greater than 0")
  else if !isWebAddress docs then .error (notAnAddress "endpoints.docs" docs)
  else if !isWebAddress drive then .error (notAnAddress "endpoints.drive" drive)
  else
    .ok
      { rootFolder := l.rootFolder.filter fun id => !Text.allBlank id
        auth := l.auth
        docsEndpoint := docs
        driveEndpoint := drive
        maxContentUnits
        logFilter := l.logFilter.getD Layer.defaultLogFilter
        workingDir
        sources }

/-- The working directory: the given one, or else that of the process. -/
def workingDirectory (disk : Disk) (given : Option Path) : Except LoadFault Path :=
  match given with
  | some path => (disk.canonical path).mapError (.workingDirectory path)
  | none =>
    match disk.currentDir with
    | some path => .ok path
    | none => .error (.workingDirectory "." .notFound)

/-- Load the settings. -/
def load (disk : Disk) (given overridePath : Option Path) (vars : Layer.Variables) :
    Except LoadFault Config := do
  let workingDir ← workingDirectory disk given
  let overridePath := overridePath.map (Path.under workingDir)
  for path in overridePath do
    if !disk.has path then throw (.overrideNotFound path)
  let applied := files disk workingDir overridePath
  let merged ← mergeFiles disk .defaults applied
  let environment := Layer.ofVariables workingDir vars
  (merged.merge environment).finish workingDir
    ([.defaults] ++ applied ++ if environment.isEmpty then [] else [.environment])

/-- What the service works with. -/
def settings (c : Config) : Settings := ⟨c.rootFolder, c.maxContentUnits⟩

/-! ### Credentials -/

/-- A credential that the settings lead to. -/
inductive Credential where
  | key (json : String)
  | token (token : String)
  | missing
  deriving DecidableEq, Repr

/-- The shown form of a credential, without the secret. -/
def Credential.shown : Credential → String
  | .key _ => "ServiceAccountKey(<redacted>)"
  | .token _ => "AccessToken(<redacted>)"
  | .missing => "Missing"

/-- A text without the blanks around it, unless nothing is left. -/
def nonBlank? (text : String) : Option String :=
  if Text.allBlank text then none else some (Text.trim text)

/-- The secret in a file. -/
def readSecret (disk : Disk) (path : Path) (what : String) : Except LoadFault String :=
  match disk.readText path with
  | .error cause => .error (.io path cause)
  | .ok text =>
    match nonBlank? text with
    | some secret => .ok secret
    | none => .error (.validation (what ++ " " ++ path ++ " is empty"))

/-- The credential that the settings lead to. Keys go before tokens, and values before files. -/
def Auth.resolve (disk : Disk) (a : Auth) : Except LoadFault Credential :=
  match a.key.bind nonBlank?, a.keyFile, a.token.bind nonBlank?, a.tokenFile with
  | some json, _, _, _ => .ok (.key json)
  | none, some path, _, _ => (readSecret disk path "service account key file").map .key
  | none, none, some token, _ => .ok (.token token)
  | none, none, none, some path => (readSecret disk path "access token file").map .token
  | none, none, none, none => .ok .missing

end Config

end Scribe
