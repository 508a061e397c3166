import Scribe.Log.Event
import Scribe.Text.Blank
import Scribe.Text.Search

/-!
# Log filters

A filter is a list of directives separated by commas. A directive sets how much is shown, either of
everything or of the parts of the program whose name starts with a target: `warn`, `docs_mcp=debug`,
`docs_mcp` for everything of a target. In brackets it may name a span, and in braces a field that
events must have; the program opens no spans, and its events have one field, the message. Of the
directives that concern an event the most specific one decides, and of equally specific ones the
last.
-/

namespace Scribe.Log

/-- What is shown of the events that a directive concerns. -/
structure Directive where
  target : Option String
  /-- Whether only events inside a span are concerned. -/
  inSpan : Bool
  /-- The fields that events must have. -/
  fields : List String
  /-- The highest level that is shown, if anything is. -/
  level : Option Level
  deriving DecidableEq, Repr

/-- Why a filter is invalid. -/
inductive FilterFault where
  | directive
  | level
  deriving DecidableEq, Repr

namespace FilterFault

/-- The wording of a fault. -/
def message : FilterFault → String
  | .directive => "invalid filter directive"
  | .level =>
    "error parsing level filter: expected one of \"off\", \"error\", \"warn\", \"info\", "
      ++ "\"debug\", \"trace\", or a number 0-5"

/-- The wording of a fault and of what caused it. -/
def chain : FilterFault → String
  | .directive => message .directive
  | .level => message .level ++ ": " ++ message .level

end FilterFault

/-! ### Levels -/

/-- The levels by number, from nothing to everything. -/
def levels : List (Option Level) :=
  [none, some .error, some .warn, some .info, some .debug, some .trace]

/-- The number that digits stand for, perhaps behind a plus sign. -/
def digits? (cs : List Char) : Option Nat :=
  let cs := (Text.dropPattern? ['+'] cs).getD cs
  if cs.isEmpty || !cs.all Char.isDigit then none
  else some (cs.foldl (fun n c => 10 * n + (c.toNat - '0'.toNat)) 0)

/-- The name of what a level shows, in small letters. -/
def levelName (level : Option Level) : String :=
  level.elim "off" fun l => .ofList (l.name.toList.map Char.toLower)

/-- The level with a name, in any case, or a number. -/
def level? (cs : List Char) : Option (Option Level) :=
  ((digits? cs).bind (levels[·]?)).or
    (levels.find? fun level => levelName level = .ofList (cs.map Char.toLower))

/-! ### Directives -/

namespace Directive

/-- The directive that shows everything. -/
def everything : Directive := ⟨none, false, [], some .trace⟩

/-- Whether a directive may start with a character. Outside ASCII all characters are let through. -/
def starts (c : Char) : Bool := c.isAlphanum || c == '-' || c == ':' || c == '_' || 128 ≤ c.toNat

/-- Read a level behind an equals sign; without one everything is shown. -/
def readLevel (d : Directive) (cs : List Char) : Except FilterFault Directive :=
  if cs.isEmpty then .ok d
  else
    match level? cs with
    | some level => .ok { d with level }
    | none => .error .level

/-- Read the brackets behind a target. Gives what is left behind them. -/
def readBrackets (d : Directive) (cs : List Char) : Except FilterFault (Directive × List Char) :=
  let name := cs.takeWhile fun c => c != ']' && c != '\x7b'
  match cs.drop name.length with
  | ']' :: rest => .ok ({ d with inSpan := true }, rest)
  | '\x7b' :: inside =>
    let field := inside.takeWhile (· != '\x7d')
    let hasValue := field.contains '='
    if field.isEmpty then .error .directive
    else
      match inside.drop field.length with
      | '\x7d' :: ']' :: rest =>
        .ok
          ({ d with
              inSpan := !name.isEmpty || hasValue
              fields := [.ofList field] }, rest)
      | _ => .error .directive
  | _ => .error .directive

/-- Read a directive. Blanks around it count neither as its start nor as its end, but its parts are
cut from the text at the places that they would have without the blanks. -/
def read (text : List Char) : Except FilterFault Directive :=
  let body := Text.dropWhileEnd Text.isBlank (text.dropWhile Text.isBlank)
  let cut (rest : List Char) : List Char := text.drop (body.length - rest.length)
  let target := body.takeWhile fun c => c != '=' && c != '['
  let named (d : Directive) : Directive :=
    { d with target := some (.ofList (text.take target.length)) }
  match body, body.drop target.length with
  | [], _ => .error .directive
  | '[' :: rest, _ => do finish cut (← readBrackets everything rest)
  | c :: _, rest =>
    if !starts c then .error .directive
    else
      match rest with
      | '=' :: rest => readLevel (named everything) (cut rest)
      | '[' :: rest => do finish cut (← readBrackets (named everything) rest)
      | _ =>
        match level? text with
        | some level => .ok { everything with level }
        | none => .ok { everything with target := some (.ofList text) }
where
  /-- Read what stands behind the brackets. -/
  finish (cut : List Char → List Char) : Directive × List Char → Except FilterFault Directive
    | (d, []) => .ok d
    | (d, '=' :: rest) => readLevel d (cut rest)
    | _ => .error .directive

/-- Whether a directive concerns an event. -/
def concerns (d : Directive) (e : Event) : Bool :=
  !d.inSpan && d.fields.all (· == "message") &&
    d.target.all fun t => t.toList.isPrefixOf e.origin.target.toList

/-- Whether a directive is at least as specific as another one. -/
def atLeast (d other : Directive) : Bool :=
  let size (d : Directive) : Nat := d.target.elim 0 fun t => 1 + t.length
  size other < size d || (size other == size d && other.fields.length ≤ d.fields.length)

end Directive

/-! ### Filters -/

/-- What is shown of the events. -/
abbrev Filter := List Directive

namespace Filter

/-- Read a filter. -/
def ofText (text : String) : Except FilterFault Filter :=
  ((text.toList.splitOn ',').filter fun part => !part.isEmpty).mapM Directive.read

/-- The directive that decides on an event. -/
def deciding? (f : Filter) (e : Event) : Option Directive :=
  f.foldl
    (fun best d =>
      if d.concerns e && best.all d.atLeast then some d else best)
    none

/-- Whether an event is shown. -/
def shows (f : Filter) (e : Event) : Bool :=
  ((f.deciding? e).bind (·.level)).any fun level => e.level.rank ≤ level.rank

/-- The filter to use when the program is asked some times to say more. -/
def forVerbosity (configured : String) : Nat → String
  | 0 => configured
  | 1 => "info"
  | 2 => "debug"
  | _ => "trace"

end Filter

end Scribe.Log
