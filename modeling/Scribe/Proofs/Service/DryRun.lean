import Scribe.Proofs.Service.Update

/-!
# Dry runs

A dry run of an update foretells the run on the same store and writes nothing itself
(`dryRun_foretells_run`). Both have the same target. Without one both fail, with the same fault; with
one neither can fail, for the plan of the run is accepted and the export of the dry run finds the
document that was found before.
-/

namespace Scribe.Diff

/-- Two texts have a difference exactly if they are different. -/
theorem unified?_eq_none_iff {current proposed id : String} :
    unified? current proposed id = none ↔ current = proposed := by
  unfold unified?
  split
  · next h => exact ⟨fun _ => h, fun _ => rfl⟩
  · next h =>
    constructor
    · intro hnone
      cases hnone
    · intro heq
      exact absurd heq h

end Scribe.Diff

namespace Scribe.Service

open Edit Scribe.Action Store Store.Memory

/-! ### What is foretold -/

/-- A step that changes one document, the first of an id, and records a batch of `n` requests for
it. A batch without requests is not recorded. -/
def Recorded (m m' : Memory) (id : String) (n : Nat) : Prop :=
  ∃ front d d' back batches, m.documents = front ++ d :: back ∧
    m'.documents = front ++ d' :: back ∧ (∀ e ∈ front, e.id ≠ id) ∧ d.id = id ∧
    d'.batches = d.batches ++ batches ∧
    batches.map List.length = if n = 0 then [] else [n]

/-- The result of a dry run and that of the run: either the same fault, or a success with the same
document and as many requests as the run has recorded. The dry run has no difference to show exactly
if the document reads as the content. -/
inductive Foretold (m m' : Memory) (reading : Except Fault String) (content : String) :
    Except Fault Updated → Except Fault Updated → Prop where
  | refused (e : Fault) : Foretold m m' reading content (.error e) (.error e)
  | accepted {dry run : Updated} : dry.document = run.document → dry.requests = run.requests →
      Recorded m m' run.document run.requests → (dry.diff = none ↔ reading = .ok content) →
      Foretold m m' reading content (.ok dry) (.ok run)

variable {s : Settings} {w : World Memory} {reference content : String} {d : StoredDocument}
  {plan : Plan}

/-! ### Both runs -/

/-- A document that is there is read. -/
theorem outcome_readDoc (hid : Document.resolve reference = .ok d.id)
    (hd : w.store.document? d.id = some d) :
    outcome (readDoc store reference) w =
      (.ok (readBack d), { w with store := w.store.noted ("export_html " ++ d.id) }) := by
  simp only [readDoc, outcome_bind, outcome_ofExcept, hid, outcome_exportHtml hd, outcome_pure]
  rfl

/-- The batches that are sent hold the requests of the plan, if it has any. -/
theorem map_length_sent (plan : Plan) :
    (sent plan).map List.length = if plan.length = 0 then [] else [plan.length] := by
  cases plan with
  | nil => rfl
  | cons r rest => rfl

/-- What a run makes of its target is recorded. -/
theorem recorded_replaced {m m' : Memory} (hd : m.document? d.id = some d) {now : String}
    (hcontent : m'.content = (m.modifyDocument d.id (replaced content plan now)).content) :
    Recorded m m' d.id plan.length := by
  obtain ⟨front, back, hdocuments, hfront, hmodified⟩ :=
    documents_modifyDocument (f := replaced content plan now) hd
  refine ⟨front, d, replaced content plan now d, back, sent plan, hdocuments, ?_, hfront, rfl, rfl,
    map_length_sent plan⟩
  rw [documents_of_content hcontent, hmodified]

/-- **A dry run foretells the run, and writes nothing.** It leaves the folders and documents as they
are. It fails if the run fails, with the same fault, and only then. Otherwise both name the same
document and the same number of requests, as many as the run records in a batch, and there is no
difference to show exactly if the document reads as the new content. -/
theorem dryRun_foretells_run (s : Settings) (reference content : String) (w : World Memory) :
    (outcome (updateDoc store s reference content true) w).2.store.folders = w.store.folders ∧
      (outcome (updateDoc store s reference content true) w).2.store.documents =
        w.store.documents ∧
      Foretold w.store (outcome (updateDoc store s reference content false) w).2.store
        (outcome (readDoc store reference) w).1 content
        (outcome (updateDoc store s reference content true) w).1
        (outcome (updateDoc store s reference content false) w).1 := by
  cases hid : Document.resolve reference with
  | error e =>
    rw [outcome_updateDoc_of_resolve_error hid, outcome_updateDoc_of_resolve_error hid]
    exact ⟨rfl, rfl, .refused e⟩
  | ok id =>
    cases htarget : target s w.store reference content with
    | error e =>
      rw [outcome_updateDoc_of_target_error hid htarget,
        outcome_updateDoc_of_target_error hid htarget]
      exact ⟨rfl, rfl, .refused e⟩
    | ok p =>
      obtain ⟨d, plan⟩ := p
      obtain ⟨hresolve, hd, -⟩ := target_eq_ok_iff.1 htarget
      obtain ⟨w', hrun, hcontent⟩ := outcome_run_of_target htarget
      rw [outcome_dryRun_of_target htarget, hrun, outcome_readDoc hresolve hd]
      refine ⟨rfl, rfl, .accepted rfl rfl (recorded_replaced hd hcontent) ?_⟩
      rw [Diff.unified?_eq_none_iff, Except.ok.injEq]

end Scribe.Service
