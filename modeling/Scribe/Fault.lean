/-!
# Faults

A fault is the reason why an operation on documents failed. Its wording is in `Fault.message` and
its exit status in `Fault.status`; all other modules speak of the constructors.

A crash is another matter. It leaves the operation as a fault does, but nobody is told of it: the
run is over, and its status is that of a crash.
-/

namespace Scribe

/-- The exit statuses of the program. -/
inductive ExitStatus where
  | success
  | notFound
  | invalidArguments
  | io
  | invalidContent
  | contentTooLarge
  | configuration
  | remote
  | crash
  deriving DecidableEq, Repr

namespace ExitStatus

/-- The statuses that the program gives itself, in the order of their codes. -/
def all : List ExitStatus :=
  [.success, .notFound, .invalidArguments, .io, .invalidContent, .contentTooLarge, .configuration,
   .remote]

/-- The code of a status. -/
def code : ExitStatus → Nat
  | .success => 0
  | .notFound => 1
  | .invalidArguments => 2
  | .io => 3
  | .invalidContent => 4
  | .contentTooLarge => 5
  | .configuration => 6
  | .remote => 7
  | .crash => 101

/-- The status with a given code. -/
def ofCode? (n : Nat) : Option ExitStatus := all[n]?

end ExitStatus

/-- Why the program came down in the middle of its work. -/
inductive Crash where
  /-- A time beyond the end of the clock. -/
  | clockOverflow
  deriving DecidableEq, Repr

/-- The wording of a crash. -/
def Crash.message : Crash → String
  | .clockOverflow => "overflow when adding duration to instant"

/-- Why an operation failed. -/
inductive Fault where
  | notFound (what : String)
  | invalidArguments (reason : String)
  | io (reason : String)
  | invalidContent (reason : String)
  | contentTooLarge (limit actual : Nat)
  | configuration (reason : String)
  | remote (status : Nat) (reason : String)
  | transport
  | malformed (reason : String)
  /-- The program came down in the operation. -/
  | crash (c : Crash)
  deriving DecidableEq, Repr

namespace Fault

/-- The wording of a fault. -/
def message : Fault → String
  | .notFound what => "not found: " ++ what
  | .invalidArguments reason => "invalid arguments: " ++ reason
  | .io reason => "i/o error: " ++ reason
  | .invalidContent reason => "invalid content source: " ++ reason
  | .contentTooLarge limit actual =>
    "content is " ++ toString actual ++ " characters, limit is " ++ toString limit
  | .configuration reason => reason
  | .remote status reason => "remote service returned " ++ toString status ++ ": " ++ reason
  | .transport => "http transport error"
  | .malformed reason => "malformed response: " ++ reason
  | .crash c => c.message

/-- The exit status that a fault leads to. -/
def status : Fault → ExitStatus
  | .notFound _ => .notFound
  | .invalidArguments _ => .invalidArguments
  | .io _ => .io
  | .invalidContent _ => .invalidContent
  | .contentTooLarge .. => .contentTooLarge
  | .configuration _ => .configuration
  | .remote .. | .transport | .malformed _ => .remote
  | .crash _ => .crash

end Fault

end Scribe
