import Scribe.Command.Line
import Scribe.Config
import Scribe.Content
import Scribe.Edit.Wire
import Scribe.Log.Filter
import Scribe.Remote.Store
import Scribe.Rpc.Serve

/-!
# Running the program

A run reads the command line, loads the settings, sets up the log, and does its job. Whatever goes
wrong before the job, or while it serves, ends the run with a complaint and status 1; a compilation
that fails has a status of its own, and so has a crash. Events below the filter are not shown.
-/

namespace Scribe.Command

open Config Files

/-- What a run leaves: what it wrote, its complaint, its status, and the events that were shown. -/
structure Outcome where
  output : String
  complaint : Option String
  status : Nat
  events : List Log.Event
  deriving DecidableEq, Repr

/-- Why a run ends before its job is done. -/
inductive Halt where
  | settings (f : LoadFault)
  | filter (text : String) (f : Log.FilterFault)
  | key (f : Fault)
  | input (f : Rpc.ServeFault)
  deriving DecidableEq, Repr

namespace Halt

/-- The wording of the reason. -/
def message : Halt → String
  | .settings f => f.message
  | .filter text _ => "invalid log filter '" ++ text ++ "'"
  | .key f => f.message
  | .input f => f.message

/-- The wording of the reason followed by that of its causes. -/
def chain : Halt → String
  | .settings f => f.chain
  | .filter text f => message (.filter text f) ++ ": " ++ f.chain
  | .key f => f.message
  | .input f => f.message

/-- The complaint of a run that ends early. A crash is told as it is. -/
def complaint : Halt → String
  | .input (.crash c) => c.message
  | h => Rpc.serverName ++ " error: " ++ h.chain

/-- The status of a run that ends early. -/
def status : Halt → Nat
  | .input (.crash _) => ExitStatus.crash.code
  | _ => 1

end Halt

/-- The status of a run whose arguments make no sense. -/
def misuseStatus : Nat := 2

/-- The outcome of a run without a job. -/
def Stop.outcome : Stop → Outcome
  | .misuse => ⟨"", none, misuseStatus, []⟩
  | .help => ⟨"", none, ExitStatus.success.code, []⟩
  | .version program =>
    ⟨program ++ " " ++ Rpc.serverVersion ++ "\n", none, ExitStatus.success.code, []⟩

/-! ### Setting up -/

/-- A run that is set up: the settings, the filter of the log, and the job. -/
structure Ready where
  config : Config
  filter : Log.Filter
  job : Job

/-- Load the settings and set up the log. -/
def prepare (disk : Disk) (vars : Layer.Variables) (i : Invocation) : Except Halt Ready := do
  let config ← (load disk none i.config vars).mapError .settings
  let text := Log.Filter.forVerbosity config.logFilter i.verbosity
  let filter ← (Log.Filter.ofText text).mapError (.filter text)
  return ⟨config, filter, i.job⟩

/-- An event of the program itself. -/
def note (message : String) : Log.Event := ⟨.info, .program, message⟩

/-- The events at the start: the layers that were applied. -/
def Ready.opening (r : Ready) : List Log.Event :=
  r.config.sources.map fun s => note ("Loaded " ++ s.describe)

/-! ### Compiling -/

/-- The Markdown to compile. -/
def Origin.markdown (disk : Disk) (input : List UInt8) : Origin → Except Fault String
  | .inline text => Content.ofInline text
  | .file path => Content.ofFile disk path
  | .input => Content.ofInput input

/-- The plan for a compilation. -/
def Compilation.plan (c : Compilation) (markdown : String) (limit : Nat) :
    Except Fault Edit.Plan :=
  match c.existingEnd with
  | some stop => Edit.Plan.forReplacement markdown (some stop) limit
  | none => Edit.Plan.forNew markdown limit

/-- The text that a compilation writes. -/
def Compilation.render (c : Compilation) (plan : Edit.Plan) : String :=
  (if c.pretty then plan.toWire.pretty else plan.body) ++ "\n"

/-- Compile. -/
def Compilation.run (c : Compilation) (disk : Disk) (limit : Nat) (input : List UInt8) :
    Except Fault String := do
  let markdown ← c.origin.markdown disk input
  return c.render (← c.plan markdown limit)

/-! ### Serving -/

/-- The credentials that the settings lead to. -/
def credentials (disk : Disk) (c : Config) : Except Halt Credentials := do
  match ← (c.auth.resolve disk).mapError .settings with
  | .key json => return .serviceAccount (← (ServiceKey.ofJson json).mapError .key)
  | .token token => return .accessToken token
  | .missing => return .missing

/-- The events when credentials are found. -/
def credentialEvents : Credentials → List Log.Event
  | .serviceAccount key => [note ("Using service account " ++ key.clientEmail)]
  | _ => []

/-- The remote store that the settings lead to. -/
def remote (disk : Disk) (c : Config) : Except Halt Remote.Site :=
  (credentials disk c).map (Remote.Site.new c.docsEndpoint c.driveEndpoint)

/-- Serve a whole input over a transport. Gives what is written, why that ended early, and the
events. -/
def serve (disk : Disk) (c : Config) (t : Remote.Transport ρ) (start : Remote.Connection ρ)
    (input : List UInt8) : Except Halt (String × Option Rpc.ServeFault × List Log.Event) := do
  let r ← remote disk c
  let ((written, fault), world) :=
    (Rpc.serve (Remote.store r t) c.settings input Remote.Connection.crash).run
      ⟨start, credentialEvents r.credentials⟩
  return (written, fault, world.events)

/-! ### Runs -/

/-- Do the job of a run. -/
def Ready.finish (r : Ready) (disk : Disk) (t : Remote.Transport ρ) (start : Remote.Connection ρ)
    (input : List UInt8) : Outcome :=
  let shown (events : List Log.Event) : List Log.Event :=
    (r.opening ++ events).filter r.filter.shows
  match r.job with
  | .compile c =>
    match c.run disk r.config.maxContentUnits input with
    | .ok text => ⟨text, none, ExitStatus.success.code, shown []⟩
    | .error f => ⟨"", some (Rpc.serverName ++ ": " ++ f.message), f.status.code, shown []⟩
  | .serve =>
    match serve disk r.config t start input with
    | .error h => ⟨"", some h.complaint, h.status, shown []⟩
    | .ok (written, none, events) => ⟨written, none, ExitStatus.success.code, shown events⟩
    | .ok (written, some f, events) =>
      ⟨written, some (Halt.input f).complaint, (Halt.input f).status, shown events⟩

/-- Run the program. -/
def run (disk : Disk) (vars : Layer.Variables) (t : Remote.Transport ρ)
    (start : Remote.Connection ρ) (args : List String) (input : List UInt8) : Outcome :=
  match read args with
  | .error stop => stop.outcome
  | .ok i =>
    match prepare disk vars i with
    | .error h => ⟨"", some h.complaint, h.status, []⟩
    | .ok r => r.finish disk t start input

end Scribe.Command
