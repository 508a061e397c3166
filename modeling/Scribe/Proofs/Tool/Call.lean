import Scribe.Proofs.Action
import Scribe.Tool.Call

/-!
# What a call asks for

Whether a call can be made is settled by its name and its arguments alone, before the service is
asked: `requested` is that part of a call, and a call faults exactly as it does. A call that can be
made asks the service once, and its answer is an error exactly if the service failed.
-/

namespace Scribe.Tool

/-- The operation that a call asks for, or why it cannot be made. -/
def requested (name : String) (arguments : Json.Value) : Except CallFault Operation := do
  let args ← Arguments.ofJson arguments
  match ofName? name with
  | none => .error (.unknownTool name)
  | some t => t.operation args

variable {σ : Type} {name : String} {arguments : Json.Value}

/-- The world in which a call asks the service: only the log has noted the call. -/
def called (name : String) (w : World σ) : World σ :=
  { w with events := w.events ++ [⟨.debug, .tools, "Calling tool " ++ name⟩] }

/-- A call that cannot be made faults so on every world and with every store, and leaves the store
alone. -/
theorem call_of_requested_error {f : CallFault} (h : requested name arguments = .error f)
    (s : Settings) (w : World σ) :
    ∃ w', w'.store = w.store ∧
      ∀ store : Store σ, (call store s name arguments).run w = (.error f, w') := by
  unfold requested at h
  unfold call
  cases hargs : Arguments.ofJson arguments with
  | error g =>
    rw [hargs] at h
    cases h
    exact ⟨_, rfl, fun _ => rfl⟩
  | ok args =>
    rw [hargs] at h
    cases htool : ofName? name with
    | none =>
      rw [htool] at h
      cases h
      exact ⟨called name w, rfl, fun _ => rfl⟩
    | some t =>
      rw [htool] at h
      change t.operation args = .error f at h
      simp only [h]
      exact ⟨called name w, rfl, fun _ => rfl⟩

/-- A call that can be made has an answer on every world. -/
theorem call_of_requested_ok {op : Operation} (h : requested name arguments = .ok op)
    (store : Store σ) (s : Settings) (w : World σ) :
    ∃ output w', (call store s name arguments).run w = (.ok output, w') ∧
      (answer store s op).run (called name w) = (output, w') := by
  unfold requested at h
  unfold call
  cases hargs : Arguments.ofJson arguments with
  | error g => rw [hargs] at h; cases h
  | ok args =>
    rw [hargs] at h
    cases htool : ofName? name with
    | none => rw [htool] at h; cases h
    | some t =>
      rw [htool] at h
      change t.operation args = .ok op at h
      simp only [h]
      exact ⟨_, _, rfl, rfl⟩

/-- An answer is an error exactly if the operation fails, and leaves its store. -/
theorem answer_of_outcome {store : Store σ} {s : Settings} {op : Operation} {w w' : World σ}
    {output : Output} (h : (answer store s op).run w = (output, w')) :
    (output.isError = true ↔ ∃ f, (Action.outcome (op.run store s) w).1 = .error f) ∧
      w'.store = (Action.outcome (op.run store s) w).2.store := by
  obtain ⟨result, left, hdone⟩ :
      ∃ result left, Action.outcome (op.run store s) w = (result, left) := ⟨_, _, rfl⟩
  have hrun : ((op.run store s).run).run w = (result, left) := hdone
  rw [answer, StateT.run_bind, hrun] at h
  rw [hdone]
  cases result with
  | ok text =>
    cases h
    simp
  | error f =>
    -- A failure is reported unless it is a crash; the store is left alone either way.
    cases f <;> cases h <;> exact ⟨iff_of_true rfl ⟨_, rfl⟩, rfl⟩

end Scribe.Tool
