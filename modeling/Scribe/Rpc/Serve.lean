import Scribe.Rpc.Message
import Scribe.Text.Blank
import Scribe.Text.Lines
import Scribe.Text.Utf8

/-!
# Serving

The server reads lines of bytes and writes the answers, one on a line. Blank lines are skipped. A
line that is not UTF-8 ends the service, and so does one that the program crashes on; what has been
answered before stays written.

Whether the program has crashed is for the store to tell. The service takes that as a parameter; as
a rule no store crashes.
-/

namespace Scribe.Rpc

open Text

/-- Why the service ends before the input does. -/
inductive ServeFault where
  | invalidUtf8
  | crash (c : Crash)
  deriving DecidableEq, Repr

/-- The wording of a fault. -/
def ServeFault.message : ServeFault → String
  | .invalidUtf8 => "stream did not contain valid UTF-8"
  | .crash c => c.message

/-- The written form of an answer. -/
def Response.line (r : Response) : String := r.toJson.compact ++ "\n"

/-- What is written for a line of bytes. -/
def answerLine (store : Store σ) (s : Settings) (line : List UInt8)
    (crash : σ → Option Crash := fun _ => none) : StateM (World σ) (Except ServeFault String) := do
  match decode? line with
  | none => return .error .invalidUtf8
  | some text =>
    if allBlank text then return .ok ""
    else
      let answer ← handleLine store s text
      match crash (← get).store with
      | some c => return .error (.crash c)
      | none => return .ok ((answer.map Response.line).getD "")

/-- What is written for lines of bytes, and why that ended early. -/
def answerLines (store : Store σ) (s : Settings) (lines : List (List UInt8))
    (crash : σ → Option Crash := fun _ => none) :
    StateM (World σ) (List String × Option ServeFault) :=
  match lines with
  | [] => return ([], none)
  | line :: rest => do
    match ← answerLine store s line crash with
    | .error f => return ([], some f)
    | .ok written =>
      let (more, fault) ← answerLines store s rest crash
      return (written :: more, fault)

/-- The report at the start of the service. -/
def opening : StateM (World σ) Unit := note .info ("Serving " ++ serverName ++ " over stdio")

/-- The report at the end of the input. -/
def shutdown : StateM (World σ) Unit := note .info "Input closed, shutting down"

/-- Serve an input to its end: what is written, and why that ended early. -/
def serve (store : Store σ) (s : Settings) (input : List UInt8)
    (crash : σ → Option Crash := fun _ => none) :
    StateM (World σ) (String × Option ServeFault) := do
  opening
  let (written, fault) ← answerLines store s (feedLines 10 13 input) crash
  if fault.isNone then shutdown
  return (String.join written, fault)

end Scribe.Rpc
