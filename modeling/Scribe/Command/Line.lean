import Scribe.Files.Path
import Scribe.Rpc.Message
import Scribe.Text.Search

/-!
# The command line

The arguments name a command, `serve` or `compile`, among switches. A switch has a name behind two
dashes or a letter behind one; letters may be joined. Some switches take a value, from behind an
equals sign or from the next argument. The switches that hold for every command stand before or
behind its name, and what stands behind it wins. Every switch but the one for verbosity comes at
most once. Two dashes alone end the switches. The first misuse, or the first request for the version
or for help, ends the reading.
-/

namespace Scribe.Command

open Files

/-- Where the Markdown for a compilation comes from. -/
inductive Origin where
  | inline (text : String)
  | file (path : Path)
  | input
  deriving DecidableEq, Repr

/-- What is compiled and how: the Markdown, the end index of the body to replace, and whether the
result is indented. -/
structure Compilation where
  origin : Origin
  existingEnd : Option Nat
  pretty : Bool
  deriving DecidableEq, Repr

/-- What the program is asked to do. -/
inductive Job where
  | serve
  | compile (c : Compilation)
  deriving DecidableEq, Repr

/-- What the arguments say. -/
structure Invocation where
  config : Option Path
  verbosity : Nat
  job : Job
  deriving DecidableEq, Repr

/-- Why there is no job. -/
inductive Stop where
  | misuse
  | help
  | version (program : String)
  deriving DecidableEq, Repr

/-- The commands. -/
inductive Verb where
  | serve
  | compile
  deriving DecidableEq, Repr

namespace Verb

/-- The name of a command. -/
def name : Verb → String
  | .serve => "serve"
  | .compile => "compile"

/-- The command with a name. -/
def ofName? (s : String) : Option Verb := [serve, compile].find? (·.name = s)

end Verb

/-- The name that the program gives itself, behind a command or before one. -/
def programName (verb : Option Verb) : String :=
  Rpc.serverName ++ verb.elim "" fun v => "-" ++ v.name

/-! ### Switches -/

/-- The switches. -/
inductive Switch where
  | config
  | verbose
  | text
  | existingEnd
  | pretty
  | help
  | version
  deriving DecidableEq, Repr

namespace Switch

/-- The switches that hold for every command, by name. -/
def shared : List (String × Switch) :=
  [("config", config), ("verbose", verbose), ("help", help), ("version", version)]

/-- The switches of a command, by name. -/
def ofVerb : Option Verb → List (String × Switch)
  | some .compile => [("with-string", text), ("existing-end", existingEnd), ("pretty", pretty)]
  | _ => []

/-- The switch with a name. -/
def ofName? (verb : Option Verb) (name : String) : Option Switch :=
  (shared ++ ofVerb verb).lookup name

/-- The switch with a letter. -/
def ofLetter? : Char → Option Switch
  | 'v' => some verbose
  | 'h' => some help
  | 'V' => some version
  | _ => none

/-- Whether a switch takes a value. -/
def takesValue : Switch → Bool
  | .config | .text | .existingEnd => true
  | _ => false

/-- Whether the value of a switch may look like a switch. -/
def takesAnything (s : Switch) : Bool := s == text

end Switch

/-- Whether an argument looks like a switch. -/
def looksLikeSwitch (arg : String) : Bool :=
  match arg.toList with
  | '-' :: _ :: _ => true
  | _ => false

/-! ### Reading -/

/-- What has been read so far. -/
structure Given where
  config : Option Path
  verbosity : Nat
  text : Option String
  existingEnd : Option Nat
  pretty : Bool
  file : Option Path
  deriving DecidableEq, Repr

namespace Given

/-- Nothing has been read. -/
def nothing : Given := ⟨none, 0, none, none, false, none⟩

/-- The offset that a value stands for: digits, perhaps behind a plus sign, below 2 ^ 64. -/
def offset? (value : String) : Option Nat :=
  let digits := (Text.dropPattern? ['+'] value.toList).getD value.toList
  if digits.isEmpty || !digits.all Char.isDigit then none
  else
    let n := digits.foldl (fun n c => 10 * n + (c.toNat - '0'.toNat)) 0
    if n ≤ 0xFFFFFFFFFFFFFFFF then some n else none

/-- Take a switch without a value. -/
def take (g : Given) (verb : Option Verb) : Switch → Except Stop Given
  | .verbose => .ok { g with verbosity := g.verbosity + 1 }
  | .pretty => if g.pretty then .error .misuse else .ok { g with pretty := true }
  | .help => .error .help
  | .version => .error (.version (programName verb))
  | .config | .text | .existingEnd => .error .misuse

/-- Take a switch with its value. -/
def takeValue (g : Given) (value : String) : Switch → Except Stop Given
  | .config =>
    if g.config.isSome || value.isEmpty then .error .misuse
    else .ok { g with config := some value }
  | .text => if g.text.isSome then .error .misuse else .ok { g with text := some value }
  | .existingEnd =>
    match offset? value with
    | some n =>
      if g.existingEnd.isSome then .error .misuse else .ok { g with existingEnd := some n }
    | none => .error .misuse
  | .verbose | .pretty | .help | .version => .error .misuse

/-- Take an argument that is no switch. Only `compile` takes one, the file. -/
def takeFile (g : Given) (verb : Option Verb) (arg : String) : Except Stop Given :=
  if verb != some .compile || g.file.isSome || arg.isEmpty then .error .misuse
  else .ok { g with file := some arg }

/-- Take joined letters. -/
def takeLetters (verb : Option Verb) : Given → List Char → Except Stop Given
  | g, [] => .ok g
  | g, c :: cs =>
    match Switch.ofLetter? c with
    | some s => do takeLetters verb (← g.take verb s) cs
    | none => .error .misuse

/-- Read arguments up to a command, which is given with what stands behind it. -/
def read (verb : Option Verb) : Given → List String → Except Stop (Given × List String)
  | g, [] => .ok (g, [])
  | g, arg :: rest =>
    match arg.toList with
    | ['-', '-'] => (rest.foldlM (takeFile · verb) g).map (·, [])
    | '-' :: '-' :: cs =>
      let name := cs.takeWhile (· != '=')
      match Switch.ofName? verb (.ofList name), cs.drop name.length with
      | none, _ => .error .misuse
      | some s, '=' :: value => do read verb (← g.takeValue (.ofList value) s) rest
      | some s, _ =>
        if !s.takesValue then do read verb (← g.take verb s) rest
        else
          match rest with
          | [] => .error .misuse
          | value :: rest =>
            if looksLikeSwitch value && !s.takesAnything then .error .misuse
            else do read verb (← g.takeValue value s) rest
    | '-' :: c :: cs => do read verb (← takeLetters verb g (c :: cs)) rest
    | _ =>
      if verb.isNone then .ok (g, arg :: rest) else do read verb (← g.takeFile verb arg) rest

/-- The Markdown to compile. A file and a text may not both be given. -/
def origin (g : Given) : Except Stop Origin :=
  match g.text, g.file with
  | some _, some _ => .error .misuse
  | some text, none => .ok (.inline text)
  | none, some path => .ok (if path = "-" then .input else .file path)
  | none, none => .ok .input

/-- What the arguments before and behind a command say. -/
def finish (before behind : Given) (verb : Verb) : Except Stop Invocation := do
  let origin ← behind.origin
  return {
    config := behind.config.or before.config
    verbosity := if behind.verbosity = 0 then before.verbosity else behind.verbosity
    job :=
      match verb with
      | .serve => .serve
      | .compile => .compile ⟨origin, behind.existingEnd, behind.pretty⟩ }

end Given

/-- The answer to a request for help about some commands. -/
def help (topics : List String) : Stop :=
  match topics with
  | [] => .help
  | [topic] => if (Verb.ofName? topic).isSome || topic = "help" then .help else .misuse
  | _ => .misuse

/-- Read the arguments. -/
def read (args : List String) : Except Stop Invocation := do
  match ← Given.nothing.read none args with
  | (_, []) => throw .misuse
  | (before, name :: rest) =>
    match Verb.ofName? name with
    | some verb => before.finish (← Given.nothing.read (some verb) rest).1 verb
    | none => throw (if name = "help" then help rest else .misuse)

end Scribe.Command
