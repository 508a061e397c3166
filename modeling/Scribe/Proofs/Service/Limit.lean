import Scribe.Proofs.Document.Reference
import Scribe.Proofs.Service.Update

/-!
# Contents over the limit

A content over the limit is never written. A creation refuses it before the store is called. An
update refuses it behind one call: the limit is checked where the plan is made, and the plan starts
from the end of the body, which the store is asked for first. So the update of a document that is not
there fails for that, and not for its content.
-/

namespace Scribe.Edit

open Text

variable {markdown : String} {limit : Nat}

theorem checkLimit_of_lt (h : limit < units markdown) :
    checkLimit markdown limit = .error (.contentTooLarge limit (units markdown)) :=
  if_pos h

theorem Plan.forNew_of_lt (h : limit < units markdown) :
    Plan.forNew markdown limit = .error (.contentTooLarge limit (units markdown)) := by
  rw [Plan.forNew, checkLimit_of_lt h]
  rfl

theorem Plan.forReplacement_of_lt (h : limit < units markdown) (stop : Option Nat) :
    Plan.forReplacement markdown stop limit = .error (.contentTooLarge limit (units markdown)) := by
  rw [Plan.forReplacement, checkLimit_of_lt h]
  rfl

end Scribe.Edit

namespace Scribe.Service

open Text Edit Scribe.Action Store Store.Memory

variable {s : Settings} {w : World Memory} {content : String}

/-- The fault of an update with a content over the limit. -/
def overLimit (s : Settings) (m : Memory) (id content : String) : Fault :=
  if (m.document? id).isSome then .contentTooLarge s.maxContentUnits (units content)
  else .notFound ("document " ++ id)

/-- An update with a content over the limit has no target. -/
theorem target_of_lt (h : s.maxContentUnits < units content) {reference id : String}
    (hid : Document.resolve reference = .ok id) (m : Memory) :
    target s m reference content = .error (overLimit s m id content) := by
  rw [target, hid, overLimit]
  cases hd : m.document? id with
  | none => simp [hd, bind, Except.bind]
  | some d => simp [hd, bind, Except.bind, Plan.forReplacement_of_lt h]

/-- A creation checks the limit before it looks for its folder. -/
theorem outcome_createDoc_of_lt (h : s.maxContentUnits < units content) {title : String}
    (htitle : allBlank title = false) (subfolder : Option String) :
    outcome (createDoc store s title content subfolder) w =
      (.error (.contentTooLarge s.maxContentUnits (units content)), w) := by
  have hrequire : requireText "document title" title = .ok () := by
    rw [requireText, htitle]
    rfl
  rw [createDoc, outcome_bind, outcome_ofExcept, hrequire]
  simp only
  rw [outcome_bind, outcome_ofExcept, Plan.forNew_of_lt h]

/-- **A content over the limit is refused.** A creation with a title has then not called the store. An
update has called it once, for the end of the body; nothing else has happened, in a dry run or not,
and the fault names the limit and the length if the document is there. -/
theorem oversized_content_refused (h : s.maxContentUnits < units content) (w : World Memory) :
    (∀ title subfolder, allBlank title = false →
        outcome (createDoc store s title content subfolder) w =
          (.error (.contentTooLarge s.maxContentUnits (units content)), w)) ∧
      ∀ reference dryRun, allBlank reference = false → ∃ id,
        Document.resolve reference = .ok id ∧
          outcome (updateDoc store s reference content dryRun) w =
            (.error (overLimit s w.store id content),
              { w with store := w.store.noted ("body_end_index " ++ id) }) := by
  refine ⟨fun title subfolder htitle => outcome_createDoc_of_lt h htitle subfolder, ?_⟩
  intro reference dryRun hreference
  obtain ⟨id, hid⟩ := Document.exists_resolve hreference
  exact ⟨id, hid, outcome_updateDoc_of_target_error hid (target_of_lt h hid w.store) dryRun⟩

/-- Six units are too many for a limit of five, in a new document or in one that is not there. -/
theorem oversized_content_refused_missing :
    5 < units "😀😀😀" ∧
      outcome (createDoc store ⟨some "root-folder", 5⟩ "Big" "😀😀😀" none) pairWorld =
        (.error (.contentTooLarge 5 6), pairWorld) ∧
      (outcome (updateDoc store ⟨some "root-folder", 5⟩ "doc-2" "😀😀😀" true) pairWorld).1 =
        .error (.notFound "document doc-2") := by
  have hlt : 5 < units "😀😀😀" := by decide
  obtain ⟨hcreate, hupdate⟩ :=
    oversized_content_refused (s := ⟨some "root-folder", 5⟩) hlt pairWorld
  obtain ⟨id, hid, houtcome⟩ := hupdate "doc-2" true (by decide)
  have hname : id = "doc-2" := by
    rw [show Document.resolve "doc-2" = .ok "doc-2" from rfl, Except.ok.injEq] at hid
    exact hid.symm
  subst hname
  exact ⟨hlt, hcreate "Big" none (by decide), by rw [houtcome]; rfl⟩

/-- An update whose content is too long is refused behind a call of the store, and not before it. -/
theorem oversized_update_calls_store :
    allBlank "doc-1" = false ∧ 5 < units "123456" ∧
      (outcome (updateDoc store ⟨some "root-folder", 5⟩ "doc-1" "123456" false) pairWorld).1 =
        .error (.contentTooLarge 5 6) ∧
      (outcome (updateDoc store ⟨some "root-folder", 5⟩ "doc-1" "123456" false)
        pairWorld).2.store.calls = ["body_end_index doc-1"] ∧
      pairWorld.store.calls = [] := by
  refine ⟨by decide, by decide, rfl, rfl, rfl⟩

end Scribe.Service
