/-!
# Log events

While it works, the program reports what it does. An event has a level, the part of the program that
reports it, and a message. Which events are shown is the business of a filter.
-/

namespace Scribe.Log

/-- How much an event matters. -/
inductive Level where
  | error
  | warn
  | info
  | debug
  | trace
  deriving DecidableEq, Repr

namespace Level

/-- The place of a level: the more is shown, the higher. -/
def rank : Level → Nat
  | .error => 1
  | .warn => 2
  | .info => 3
  | .debug => 4
  | .trace => 5

/-- The name of a level in front of a message. -/
def name : Level → String
  | .error => "ERROR"
  | .warn => "WARN"
  | .info => "INFO"
  | .debug => "DEBUG"
  | .trace => "TRACE"

end Level

/-- The parts of the program that report events. -/
inductive Origin where
  | program
  | server
  | tools
  | service
  | drive
  | token
  deriving DecidableEq, Repr

/-- The name that filters know a part by. -/
def Origin.target : Origin → String
  | .program => "docs_mcp"
  | .server => "docs_mcp::server"
  | .tools => "docs_mcp::tools"
  | .service => "docs_edit_core::service"
  | .drive => "docs_edit_core::google"
  | .token => "docs_edit_core::auth"

/-- A report of what the program does. -/
structure Event where
  level : Level
  origin : Origin
  message : String
  deriving DecidableEq, Repr

/-- An event as a line of text. -/
def Event.toText (e : Event) : String := e.level.name ++ " " ++ e.message

end Scribe.Log
