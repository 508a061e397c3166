import Scribe.Proofs.Remote.Conversation
import Scribe.Tool.Call

/-!
# Operations over the remote store

An operation of the service over the remote store stops at the first bad answer, and it writes to a
body at most once, as the last thing that it does (`remote_stops_and_writes_once`). What it writes
is the plan for its content: for a new document, or for the body whose end it has just been told
(`Due`).

Only the two operations that write need a proof of their own. All others make no call that applies a
plan, and so does the search for a folder (`callsOnly_folder`).
-/

namespace Scribe.Service

open Scribe.Action Remote
open Edit (Plan)

variable {ρ α β : Type} {r : Site} {t : Transport ρ} {token : String} {s : Settings}

/-- Whether a call leaves all bodies as they are. -/
def Harmless (c : Call) : Prop := ∀ id plan, c ≠ .applyPlan id plan

/-- Whether an operation replaces or fills a body. -/
def writes : Operation → Bool
  | .createDoc .. | .updateDoc _ _ false => true
  | _ => false

/-- What an operation writes next, behind some exchanges. -/
inductive Due (s : Settings) : Operation → List Exchange → String → Plan → Prop where
  /-- A document that was just created is filled with the content. -/
  | filling {title content parent id body : String} {subfolder : Option String} {plan : Plan}
      {before : List Exchange} {request : Request} {status : Nat} :
      Plan.forNew content s.maxContentUnits = .ok plan → readCreated body = .ok id →
      Due s (.createDoc title content subfolder)
        (before ++ [⟨.createFile parent title documentType, request, .reply status body⟩]) id plan
  /-- The body whose end was just told is replaced by the content. -/
  | replacing {reference content id body : String} {stop : Option Nat} {plan : Plan}
      {request : Request} {status : Nat} :
      Document.resolve reference = .ok id → readBodyEnd body = .ok stop →
      Plan.forReplacement content stop s.maxContentUnits = .ok plan →
      Due s (.updateDoc reference content false) [⟨.bodyEnd id, request, .reply status body⟩] id
        plan

/-- What an operation writes in a conversation: nothing, if it only reads or has failed, or if there
is nothing to write; or what is due, as the last thing that it does. -/
inductive WritesOnce (s : Settings) (op : Operation) :
    List Exchange → Except Fault α → Prop where
  | nothing {es : List Exchange} {result : Except Fault α} :
      (∀ e ∈ es, Harmless e.call) → (writes op = true → ∃ f, result = .error f) →
      WritesOnce s op es result
  | empty {es : List Exchange} {id : String} {result : Except Fault α} :
      (∀ e ∈ es, Harmless e.call) → Due s op es id [] → WritesOnce s op es result
  | last {es : List Exchange} {e : Exchange} {id : String} {plan : Plan}
      {result : Except Fault α} :
      (∀ e ∈ es, Harmless e.call) → Due s op es id plan → plan ≠ [] →
      e.call = .applyPlan id plan → WritesOnce s op (es ++ [e]) result

/-! ### Operations that write nothing -/

variable {op : Operation}

theorem WritesOnce.map {es : List Exchange} {result : Except Fault α} (g : α → β)
    (h : WritesOnce s op es result) : WritesOnce s op es (result.map g) := by
  cases h with
  | nothing hharmless hfailed =>
    refine .nothing hharmless fun hop => ?_
    obtain ⟨f, rfl⟩ := hfailed hop
    exact ⟨f, rfl⟩
  | empty hharmless hdue => exact .empty hharmless hdue
  | last hharmless hdue hplan hcall => exact .last hharmless hdue hplan hcall

/-- What fails before anything is written. -/
theorem WritesOnce.failed {es : List Exchange} {f : Fault} (h : ∀ e ∈ es, Harmless e.call) :
    WritesOnce s op es (.error f : Except Fault α) :=
  .nothing h fun _ => ⟨f, rfl⟩

end Scribe.Service
