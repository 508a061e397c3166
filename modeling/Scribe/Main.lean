import Scribe.Command.Run

/-!
# The program

The outer layer: it takes in the arguments, the variables of the environment, the files that these
and the settings can name, and standard input, and writes what a run leaves. No transport is built
in, so while it serves every request to the remote store is lost.
-/

namespace Scribe.Main

open Command Config Files

/-! ### Taking in -/

/-- The variables that settings are taken from, as far as they are set. -/
def givenVariables : IO Layer.Variables :=
  Layer.variableNames.filterMapM fun name => return (← IO.getEnv name).map (name, ·)

/-- The working directory, unless it is gone. -/
def currentDir : IO (Option Path) := do
  try return some (toString (← IO.currentDir))
  catch _ => return none

/-- The names on the way to a path, with the dots resolved. -/
def namesOf (path : Path) : List String :=
  let step (names : List String) (part : String) : List String :=
    if part = ".." then names.tail else if Path.counts part then part :: names else names
  ((Path.parts path).foldl step []).reverse

/-- A picture of the files with what is at an absolute path added to it. -/
def look (picture : Tree) (path : Path) : IO Tree := do
  try
    let real ← IO.FS.realPath path
    if ← real.isDir then return Tree.insertFolder (namesOf path) picture
    else return Tree.insert (.file (← IO.FS.readBinFile real).toList) (namesOf path) picture
  catch _ => return picture

/-- The paths at or above a folder where settings or a repository can be. -/
def settingsPaths (folder : Path) : List Path :=
  let names := namesOf folder
  (List.range (names.length + 1)).flatMap fun n =>
    let above := "/" ++ "/".intercalate (names.take n)
    [Path.under above ".git", Path.under above Config.fileName]

/-- The files that credentials are read from. -/
def secretPaths (a : Auth) : List Path := a.keyFile.toList ++ a.tokenFile.toList

/-- The file to compile. -/
def compiledPaths : Job → List Path
  | .compile ⟨.file path, _, _⟩ => [path]
  | _ => []

/-- What the program sees of the files before it has read the settings. -/
def picture (i : Invocation) : IO Disk := do
  let folder ← currentDir
  let base := folder.getD "/"
  let named := (i.config.toList ++ compiledPaths i.job).map (Path.under base)
  let files ← ([base] ++ settingsPaths base ++ named).foldlM look (.folder [])
  return ⟨files, folder⟩

/-- All of standard input. -/
partial def readAll (input : IO.FS.Stream) (done : List UInt8) : IO (List UInt8) := do
  let chunk ← input.read 65536
  if chunk.isEmpty then return done else readAll input (done ++ chunk.toList)

/-! ### Putting out -/

/-- Write events to the log. -/
def log (filter : Log.Filter) (events : List Log.Event) : IO Unit := do
  let output ← IO.getStderr
  for e in events.filter filter.shows do output.putStrLn e.toText

/-- Write what a run leaves. -/
def finish (o : Outcome) : IO UInt32 := do
  let output ← IO.getStdout
  output.putStr o.output
  output.flush
  for line in o.complaint do (← IO.getStderr).putStrLn line
  return o.status.toUInt32

/-- Write the complaint of a run that ends early. -/
def halt (h : Halt) : IO UInt32 := finish ⟨"", some h.complaint, h.status, []⟩

/-! ### Serving -/

/-- Do something on a world, and log the events of it. -/
def act (filter : Log.Filter) (state : σ) (a : StateM (World σ) α) : IO (α × σ) := do
  let (result, world) := a.run ⟨state, []⟩
  log filter world.events
  return (result, world.store)

/-- The bytes of a line with its line feed, behind those in `done`, which are in reverse. -/
partial def readLine (input : IO.FS.Stream) (done : List UInt8) : IO (List UInt8) := do
  match (← input.read 1).toList with
  | [] => return done.reverse
  | b :: _ => if b = 10 then return (b :: done).reverse else readLine input (b :: done)

/-- Answer line after line to the end of the input. -/
partial def answerAll (store : Store σ) (s : Settings) (crash : σ → Option Crash)
    (filter : Log.Filter) (state : σ) : IO UInt32 := do
  let line ← readLine (← IO.getStdin) []
  if line.isEmpty then
    let _ ← act filter state Rpc.shutdown
    return ExitStatus.success.code.toUInt32
  else
    let answers := Rpc.answerLines store s (Text.feedLines 10 13 line) crash
    let ((written, fault), state) ← act filter state answers
    (← IO.getStdout).putStr (String.join written)
    (← IO.getStdout).flush
    match fault with
    | some f => halt (.input f)
    | none => answerAll store s crash filter state

/-- Serve standard input. -/
def serve (disk : Disk) (r : Ready) : IO UInt32 := do
  match remote disk r.config with
  | .error h => halt h
  | .ok remote =>
    log r.filter (credentialEvents remote.credentials)
    let store := Remote.store remote Remote.unreachable
    let (_, state) ← act r.filter (Remote.Connection.new ⟨0, 0⟩ ()) Rpc.opening
    answerAll store r.config.settings Remote.Connection.crash r.filter state

/-- Do what the arguments say. -/
def run (i : Invocation) : IO UInt32 := do
  let disk ← picture i
  match prepare disk (← givenVariables) i with
  | .error h => halt h
  | .ok r =>
    match i.job with
    | .serve =>
      log r.filter r.opening
      let files ← (secretPaths r.config.auth).foldlM look disk.root
      serve { disk with root := files } r
    | .compile c =>
      let input ← if c.origin = .input then readAll (← IO.getStdin) [] else pure []
      let o := r.finish disk Remote.unreachable (.new ⟨0, 0⟩ ()) input
      log [.everything] o.events
      finish o

end Scribe.Main

/-- Run the program. -/
def main (args : List String) : IO UInt32 :=
  match Scribe.Command.read args with
  | .error stop => Scribe.Main.finish stop.outcome
  | .ok i => Scribe.Main.run i
