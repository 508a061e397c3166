import Scribe.Proofs.Edit.Extents
import Scribe.Proofs.Edit.Plan
import Scribe.Proofs.Store.Memory
import Scribe.Proofs.Store.Offset

/-!
# Edits are all or nothing

The store applies the requests of a plan one by one and takes nothing back when one is refused. Yet
a plan that was made for a content is never left half done: only its first request can be refused.
Where the deletion of the old text fits, the text can be inserted at the start of what is left, and
then every formatting lies in the body, for the text itself is long enough.

Whether the deletion fits is a matter of the body alone. A plan that deletes `k` units is accepted
exactly when the body has `k` units and the `k`-th is not the second half of a surrogate pair; it was
perhaps made for another body, and then it deletes more or less than the whole.
-/

namespace Scribe.Store.Memory

open Text Markdown Edit Scribe.Action

/-! ### Requests on a body -/

/-- Formattings that lie in a body, or in the line feed behind it, are accepted. -/
theorem applyRequests_format {body : List Char} {fs : List Formatting}
    (h : ∀ f ∈ fs, f.extent.stop ≤ unitCount body + 2) :
    applyRequests body (fs.map .format) = (body, .ok ()) := by
  induction fs with
  | nil => rfl
  | cons f fs ih =>
    have hf : applyRequest body (.format f) = .ok body := by
      simp only [applyRequest]
      rw [if_neg (Nat.not_lt.2 (h f List.mem_cons_self))]
    rw [List.map_cons, applyRequests, hf]
    exact ih fun g hg => h g (List.mem_cons_of_mem _ hg)

/-- A text can always be inserted at the start of a body. -/
theorem applyRequest_insert (body : List Char) (text : String) :
    applyRequest body (.insert bodyStart text) = .ok (text.toList ++ body) := by
  rw [applyRequest, cutBody_bodyStart]
  rfl

/-- The deletion of the first `k` units leaves what is behind the cut. -/
theorem applyRequest_delete (body : List Char) (k : Nat) :
    applyRequest body (.delete ⟨bodyStart, k + bodyStart⟩) =
      match splitUnits? k body with
      | some (_, back) => .ok back
      | none => .error (outsideBody k) := by
  rw [applyRequest, cutBody_bodyStart, cutBody_add_bodyStart]
  cases splitUnits? k body <;> rfl

/-- The requests of compiled blocks put their text in front of any body: the formattings lie in that
text. -/
theorem applyRequests_compileBlocks (body : List Char) (blocks : List Block) :
    applyRequests body (compileBlocks blocks).requests =
      ((compileBlocks blocks).text.toList ++ body, .ok ()) := by
  rw [Compiled.requests]
  split
  · next hempty =>
    have htext : (compileBlocks blocks).text = "" := String.isEmpty_iff.1 hempty
    rw [htext]
    rfl
  · rw [applyRequests, applyRequest_insert]
    apply applyRequests_format
    intro f hf
    have hstop := (extent_compileBlocks hf).le_high
    rw [Compiled.endOffset, bodyStart, units] at hstop
    rw [unitCount_append]
    omega

/-- What a plan makes of a body is decided by the cut behind the units that it deletes: the part
behind the cut stays, with the text in front of it. Without such a cut the plan is refused and the
body is as it was. -/
theorem applyRequests_made {markdown : String} {limit k : Nat} {plan : Plan}
    (h : Plan.Made markdown limit plan k) (body : List Char) :
    (∃ front back, body = front ++ back ∧ unitCount front = k ∧
        applyRequests body plan = ((compile markdown).text.toList ++ back, .ok ())) ∨
      splitUnits? k body = none ∧ applyRequests body plan = (body, .error (outsideBody k)) := by
  rw [h.eq, Plan.clearing]
  by_cases hk : 0 < k
  · rw [if_pos (by omega), List.singleton_append, applyRequests]
    have hdelete : applyRequest body (.delete ⟨bodyStart, k + emptyBodyEnd - 1⟩) = _ :=
      applyRequest_delete body k
    cases hcut : splitUnits? k body with
    | some cut =>
      obtain ⟨front, back⟩ := cut
      obtain ⟨hbody, hfront⟩ := splitUnits?_eq_some_iff.1 hcut
      refine .inl ⟨front, back, hbody, hfront, ?_⟩
      rw [hdelete, hcut]
      exact applyRequests_compileBlocks back (parseBlocks markdown)
    | none =>
      refine .inr ⟨rfl, ?_⟩
      rw [hdelete, hcut]
  · -- nothing to delete
    have hzero : k = 0 := by omega
    subst hzero
    refine .inl ⟨[], body, rfl, rfl, ?_⟩
    exact applyRequests_compileBlocks body (parseBlocks markdown)

/-! ### Edits of a document -/

/-- **An edit is all or nothing**, whatever body end its plan was made for. The store accepts a plan
that deletes `k` units exactly when the body has `k` units and the cut behind them divides no
surrogate pair. Then the text of the content stands in place of these units. Otherwise the plan is
refused as a bad request, and the store holds what it held before. -/
theorem applyPlan_all_or_nothing {w : World Memory} {id : String} {d : StoredDocument}
    (hd : w.store.document? id = some d) {markdown : String} {limit k : Nat} {plan : Plan}
    (hplan : Plan.Made markdown limit plan k) :
    ((outcome (applyPlan id plan) w).1 = .ok () ↔
        k ≤ (utf16 d.body.toList).length ∧ insidePair (utf16 d.body.toList) k = false) ∧
      ((outcome (applyPlan id plan) w).1 = .ok () →
        ∃ front back, d.body = front ++ back ∧ units front = k ∧
          (outcome (applyPlan id plan) w).2.store.document? id =
            some { d with
              body := (compile markdown).text ++ back
              html := none
              batches := d.batches ++ [plan]
              modifiedTime := w.store.timestamp }) ∧
      ((outcome (applyPlan id plan) w).1 ≠ .ok () →
        (∃ reason, (outcome (applyPlan id plan) w).1 = .error (.remote 400 reason)) ∧
          (outcome (applyPlan id plan) w).2.store = w.store.noted (batchCall id plan)) := by
  have hcut : k ≤ (utf16 d.body.toList).length ∧ insidePair (utf16 d.body.toList) k = false ↔
      splitUnits? k d.body.toList ≠ none := by
    rw [Ne, splitUnits?_eq_none_iff, not_or, Nat.not_lt, Bool.not_eq_true]
  rw [hcut]
  rcases applyRequests_made hplan d.body.toList with
    ⟨front, back, hbody, hfront, happly⟩ | ⟨hnone, happly⟩
  · have hsome : splitUnits? k d.body.toList = some (front, back) :=
      splitUnits?_eq_some_iff.2 ⟨hbody, hfront⟩
    rw [outcome_applyPlan_ok hd happly, hsome]
    refine ⟨⟨fun _ => Option.some_ne_none _, fun _ => rfl⟩, fun _ => ?_, fun h => absurd rfl h⟩
    refine ⟨.ofList front, .ofList back, ?_, ?_, ?_⟩
    · rw [← String.ofList_append, ← hbody, String.ofList_toList]
    · rw [units, String.toList_ofList, hfront]
    · rw [document?_modifyDocument (f := edited _ _ _) fun _ => rfl, document?_noted, hd]
      simp [edited, String.ofList_append, String.ofList_toList]
  · have hsame : (w.store.noted (batchCall id plan)).modifyDocument id
        (fun e => { e with body := .ofList d.body.toList }) = w.store.noted (batchCall id plan) := by
      apply modifyDocument_eq_self
      intro e he
      rw [document?_noted, hd, Option.some.injEq] at he
      rw [he, String.ofList_toList, ← he]
    rw [outcome_applyPlan_error hd happly, hsame]
    refine ⟨⟨?_, fun h => absurd hnone h⟩, ?_, fun _ => ⟨⟨_, rfl⟩, rfl⟩⟩
    · intro hok
      cases hok
    · intro hok
      cases hok

/-- A document whose body has a surrogate pair behind its first unit. -/
def pairDocument : StoredDocument := ⟨"doc-1", "root", "Pair", "", "a😀b", none, [], []⟩

/-- A world with nothing but that document. -/
def pairWorld : World Memory := ⟨⟨[], [pairDocument], [], 1⟩, []⟩

/-- A plan that was made for a shorter body would divide the pair, and is refused. -/
theorem applyPlan_inside_pair :
    pairWorld.store.document? "doc-1" = some pairDocument ∧
      Plan.Made "x" 10 (Plan.clearing 4 ++ (compile "x").requests) 2 ∧
      (outcome (applyPlan "doc-1" (Plan.clearing 4 ++ (compile "x").requests)) pairWorld).1 ≠
        .ok () := by
  have hmade : Plan.Made "x" 10 (Plan.clearing 4 ++ (compile "x").requests) 2 :=
    .replace (some 4) (Plan.forReplacement_eq_ok_iff.2 ⟨by decide, rfl⟩)
  have hd : pairWorld.store.document? "doc-1" = some pairDocument := by decide
  refine ⟨hd, hmade, ?_⟩
  rw [Ne, (applyPlan_all_or_nothing hd hmade).1]
  decide

end Scribe.Store.Memory
