import Scribe.Fault
import Scribe.Log.Event

/-!
# Actions

An action works on a store, may fail, and reports events. What it did to the store before it failed
stays done, and so do its reports.
-/

namespace Scribe

/-- What an action works on: the state of a store, and the events reported so far. -/
structure World (σ : Type) where
  store : σ
  events : List Log.Event

/-- An action on a store of type `σ`. -/
abbrev Action (σ : Type) := ExceptT Fault (StateM (World σ))

namespace Action

/-- Report an event. -/
def report (level : Log.Level) (origin : Log.Origin) (message : String) : Action σ Unit :=
  modify fun w => { w with events := w.events ++ [⟨level, origin, message⟩] }

/-- The state of the store. -/
def store : Action σ σ := do return (← get).store

/-- Change the state of the store. -/
def modifyStore (f : σ → σ) : Action σ Unit := modify fun w => { w with store := f w.store }

end Action

end Scribe
