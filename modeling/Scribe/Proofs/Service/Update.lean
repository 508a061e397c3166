import Scribe.Service
import Scribe.Proofs.Store.Atomic

/-!
# Updates of a document

An update first finds the document that it names and makes the plan for its body. This much is a
function of the store (`target`), and it decides how the update ends: what it refuses is refused
with its fault, and behind it nothing fails. A run then replaces the body, for its plan is the one
for exactly that body (`outcome_run_of_target`); a dry run reads the document
(`outcome_dryRun_of_target`).
-/

namespace Scribe.Service

open Text Edit Scribe.Action Store Store.Memory

/-! ### Planning for the body that is there -/

/-- A plan for the end of the body that it is applied to replaces the whole body. -/
theorem applyRequests_forReplacement {d : StoredDocument} {content : String} {limit : Nat}
    {plan : Plan} (h : Plan.forReplacement content (some d.endIndex) limit = .ok plan) :
    applyRequests d.body.toList plan = ((compile content).text.toList, .ok ()) := by
  have hmade := Plan.Made.replace _ h
  have hk : max ((some d.endIndex).getD emptyBodyEnd) emptyBodyEnd - emptyBodyEnd =
      unitCount d.body.toList := by
    simp only [Option.getD_some, StoredDocument.endIndex, emptyBodyEnd, units]
    omega
  rw [hk] at hmade
  rcases applyRequests_made hmade d.body.toList with
    ⟨front, back, hbody, hfront, happly⟩ | ⟨hnone, -⟩
  · have hback : back = [] := by
      have hcount := congrArg unitCount hbody
      rw [unitCount_append, hfront] at hcount
      exact unitCount_eq_zero.1 (by omega)
    rw [happly, hback, List.append_nil]
  · -- The whole body is a cut.
    rw [splitUnits?_eq_some_iff.2 ⟨(List.append_nil _).symm, rfl⟩] at hnone
    cases hnone

/-- A plan without requests is made only where the body is what it should become. -/
theorem body_eq_of_plan_nil {d : StoredDocument} {content : String} {limit : Nat}
    (h : Plan.forReplacement content (some d.endIndex) limit = .ok []) :
    d.body = (compile content).text :=
  String.toList_inj.1 (congrArg Prod.fst (applyRequests_forReplacement h))

/-! ### Documents with a new content -/

/-- The batches that a plan becomes: a plan without requests is not sent. -/
def sent (plan : Plan) : List Plan := if plan.isEmpty then [] else [plan]

/-- A document with a new content. -/
def replaced (content : String) (plan : Plan) (now : String) (d : StoredDocument) :
    StoredDocument :=
  { d with
    body := (compile content).text
    html := if plan.isEmpty then d.html else none
    batches := d.batches ++ sent plan
    modifiedTime := if plan.isEmpty then d.modifiedTime else now }

theorem replaced_nil (content now : String) (d : StoredDocument) :
    replaced content [] now d = { d with body := (compile content).text } := by
  simp [replaced, sent]

theorem replaced_of_ne_nil {plan : Plan} (h : plan ≠ []) (content now : String) :
    replaced content plan now = edited (compile content).text.toList plan now := by
  funext d
  simp [replaced, sent, edited, h]

/-! ### The target of an update -/

/-- The document that an update names, and the plan for its body. -/
def target (s : Settings) (m : Memory) (reference content : String) :
    Except Fault (StoredDocument × Plan) := do
  let id ← Document.resolve reference
  match m.document? id with
  | none => .error (.notFound ("document " ++ id))
  | some d =>
    let plan ← Plan.forReplacement content (some d.endIndex) s.maxContentUnits
    return (d, plan)

/-- What a document reads back as. -/
def readBack (d : StoredDocument) : String := Export.markdown (d.html.getD (paragraphs d.body))

variable {s : Settings} {w : World Memory} {reference content : String} {d : StoredDocument}
  {plan : Plan}

theorem target_eq_ok_iff {m : Memory} :
    target s m reference content = .ok (d, plan) ↔
      Document.resolve reference = .ok d.id ∧ m.document? d.id = some d ∧
        Plan.forReplacement content (some d.endIndex) s.maxContentUnits = .ok plan := by
  unfold target
  constructor
  · intro h
    cases hid : Document.resolve reference with
    | error e => rw [hid] at h; cases h
    | ok id =>
      cases hd : m.document? id with
      | none => simp [hid, hd, bind, Except.bind] at h
      | some d' =>
        cases hplan : Plan.forReplacement content (some d'.endIndex) s.maxContentUnits with
        | error e => simp [hid, hd, hplan, bind, Except.bind] at h
        | ok plan' =>
          simp only [hid, hd, hplan, bind, Except.bind, pure, Except.pure, Except.ok.injEq,
            Prod.mk.injEq] at h
          obtain ⟨rfl, rfl⟩ := h
          have hname := id_of_document? hd
          subst hname
          exact ⟨rfl, hd, hplan⟩
  · rintro ⟨hid, hd, hplan⟩
    simp [hid, hd, hplan, bind, Except.bind, pure, Except.pure]

/-- A reference that names nothing is refused before the store is asked. -/
theorem outcome_updateDoc_of_resolve_error {e : Fault} (hid : Document.resolve reference = .error e)
    (dryRun : Bool) :
    outcome (updateDoc store s reference content dryRun) w = (.error e, w) := by
  rw [updateDoc, outcome_bind, outcome_ofExcept, hid]

/-- An update without a target has only asked where the body ends. -/
theorem outcome_updateDoc_of_target_error {id : String} {e : Fault}
    (hid : Document.resolve reference = .ok id)
    (h : target s w.store reference content = .error e) (dryRun : Bool) :
    outcome (updateDoc store s reference content dryRun) w =
      (.error e, { w with store := w.store.noted ("body_end_index " ++ id) }) := by
  rw [updateDoc, outcome_bind, outcome_ofExcept, hid]
  simp only
  rw [target, hid] at h
  simp only [bind, Except.bind] at h
  cases hd : w.store.document? id with
  | none =>
    rw [hd] at h
    rw [outcome_bind, outcome_bodyEnd_none hd]
    cases h
    rfl
  | some d =>
    rw [hd] at h
    rw [outcome_bind_ok (outcome_bodyEnd hd), outcome_bind, outcome_ofExcept]
    cases hplan : Plan.forReplacement content (some d.endIndex) s.maxContentUnits with
    | error f =>
      simp only [hplan] at h
      cases h
      rfl
    | ok plan =>
      simp only [hplan] at h
      cases h

/-- A dry run reads its target, and compares. -/
theorem outcome_dryRun_of_target (h : target s w.store reference content = .ok (d, plan)) :
    outcome (updateDoc store s reference content true) w =
      (.ok ⟨d.id, plan.length, Diff.unified? (readBack d) content d.id⟩,
        { w with store :=
          (w.store.noted ("body_end_index " ++ d.id)).noted ("export_html " ++ d.id) }) := by
  obtain ⟨hid, hd, hplan⟩ := target_eq_ok_iff.1 h
  simp only [updateDoc, outcome_bind, outcome_ofExcept, hid, outcome_bodyEnd hd, hplan, if_true,
    outcome_exportHtml (w := ⟨w.store.noted _, _⟩) (d := d) hd, outcome_pure]
  rfl

/-- A run replaces the body of its target by the plan. -/
theorem outcome_run_of_target (h : target s w.store reference content = .ok (d, plan)) :
    ∃ w', outcome (updateDoc store s reference content false) w =
        (.ok ⟨d.id, plan.length, none⟩, w') ∧
      w'.store.content =
        (w.store.modifyDocument d.id (replaced content plan w.store.timestamp)).content := by
  obtain ⟨hid, hd, hplan⟩ := target_eq_ok_iff.1 h
  simp only [updateDoc, outcome_bind, outcome_ofExcept, hid, outcome_bodyEnd hd, hplan,
    Bool.false_eq_true, if_false]
  by_cases hnil : plan = []
  · -- Nothing is sent, and the body is what it should become.
    subst hnil
    refine ⟨_, rfl, ?_⟩
    rw [modifyDocument_eq_self]
    · rfl
    · intro e he
      rw [hd, Option.some.injEq] at he
      rw [replaced_nil, ← he, ← body_eq_of_plan_nil hplan]
  · have happly := applyRequests_forReplacement hplan
    rw [if_pos (by simpa using hnil)]
    simp only [outcome_bind, note, outcome_report, store_applyPlan, outcome_pure,
      outcome_applyPlan_ok (w := ⟨w.store.noted _, _⟩) (d := d) hd happly]
    refine ⟨_, rfl, ?_⟩
    rw [replaced_of_ne_nil hnil]
    rfl

end Scribe.Service
