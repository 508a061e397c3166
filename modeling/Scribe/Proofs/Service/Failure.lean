import Scribe.Proofs.Service.Effect

/-!
# Failures

An operation that fails has changed nothing that the store holds, in whatever state the store is
(`failure_changes_nothing`). Every check of an operation stands in front of its first write, and no
write fails that comes behind another: a document that was created can be filled, even if its id
names an older document by then. The operations that look for a folder fail before they have asked
the store for anything, or not at all.
-/

namespace Scribe.Service

open Edit Scribe.Action Store Store.Memory

variable {s : Settings} {w : World Memory}

/-- Whether an operation looks for a folder before it asks the store for anything else. -/
def needsFolder : Operation → Bool
  | .createDoc .. | .listDocs _ => true
  | _ => false

/-! ### Operations that look for a folder -/

/-- A document that was just added is found under its id, or an older one of that id is. -/
theorem isSome_document?_addDocument (parent title body : String) (html : Option String)
    (m : Memory) :
    ((m.addDocument parent title body html).2.document?
      (m.addDocument parent title body html).1).isSome := by
  rw [Memory.document?, List.find?_isSome]
  exact ⟨_, List.mem_append_right _ (List.mem_singleton_self _), beq_self_eq_true _⟩

/-- A plan for a new document is accepted for every document that is there. -/
theorem outcome_applyPlan_forNew {content id : String} {limit : Nat} {plan : Plan}
    (hplan : Plan.forNew content limit = .ok plan) (hid : (w.store.document? id).isSome) :
    ∃ w', outcome (applyPlan id plan) w = (.ok (), w') := by
  obtain ⟨d, hd⟩ := Option.isSome_iff_exists.1 hid
  exact ⟨_, outcome_applyPlan_ok hd (applyRequests_forNew hplan d.body.toList)⟩

/-- In its folder a creation succeeds, and reports the id that it has drawn. -/
theorem outcome_fill {content : String} {limit : Nat} {plan : Plan}
    (hplan : Plan.forNew content limit = .ok plan) (parent title : String) (w : World Memory) :
    ∃ w', outcome (do
        let id ← store.createDocument parent title
        note .info ("Created document '" ++ title ++ "' (" ++ id ++ ")")
        if !plan.isEmpty then
          note .debug ("Filling document " ++ id ++ " with " ++ toString plan.length ++ " requests")
          store.applyPlan id plan
        return (⟨id, Document.url id, title⟩ : Created)) w =
      (.ok ⟨numbered "doc" w.store.ticked.clock.toNat,
        Document.url (numbered "doc" w.store.ticked.clock.toNat), title⟩, w') := by
  let m := w.store.noted ("create_document " ++ parent ++ " " ++ title)
  have hcreate : outcome (store.createDocument parent title) w =
      (.ok (m.addDocument parent title "" none).1,
        { w with store := (m.addDocument parent title "" none).2 }) := rfl
  rw [outcome_bind_ok hcreate]
  by_cases hnil : plan = []
  · subst hnil
    exact ⟨_, rfl⟩
  · rw [if_pos (by simpa using hnil), note, note, outcome_bind_ok (outcome_report ..),
      outcome_bind_ok (outcome_report ..)]
    obtain ⟨w', hfill⟩ := outcome_applyPlan_forNew (w := ⟨(m.addDocument parent title "" none).2, _⟩)
      hplan (isSome_document?_addDocument parent title "" none m)
    exact ⟨w', outcome_bind_ok hfill _⟩

/-- Behind its checks a creation succeeds, in the folder that it has found. -/
theorem outcome_createDoc_of_folder {title content parent : String} {subfolder : Option String}
    {plan : Plan} {w₁ : World Memory} (htitle : requireText "document title" title = .ok ())
    (hplan : Plan.forNew content s.maxContentUnits = .ok plan)
    (hfolder : outcome (folder store s subfolder) w = (.ok parent, w₁)) :
    ∃ w', outcome (createDoc store s title content subfolder) w =
      (.ok ⟨numbered "doc" w₁.store.ticked.clock.toNat,
        Document.url (numbered "doc" w₁.store.ticked.clock.toNat), title⟩, w') := by
  obtain ⟨w', hfill⟩ := outcome_fill hplan parent title w₁
  refine ⟨w', ?_⟩
  rw [createDoc, outcome_bind, outcome_ofExcept, htitle]
  simp only
  rw [outcome_bind, outcome_ofExcept, hplan]
  simp only
  rw [outcome_bind_ok hfolder]
  exact hfill

theorem failsFirst_folder (s : Settings) (subfolder : Option String) :
    FailsFirst (folder store s subfolder) := by
  intro w f hf
  rcases outcome_folder s subfolder w with ⟨e, hfolder⟩ | ⟨parent, w', hfolder, -⟩
  · rw [hfolder]
  · rw [hfolder] at hf
    cases hf

theorem failsFirst_createDoc (s : Settings) (title content : String) (subfolder : Option String) :
    FailsFirst (createDoc store s title content subfolder) :=
  .check fun _ _ => .check fun _ hplan =>
    (failsFirst_folder s subfolder).bind fun parent w =>
      have ⟨w', hfill⟩ := outcome_fill hplan parent title w
      ⟨_, w', hfill⟩

theorem failsFirst_listDocs (s : Settings) (subfolder : Option String) :
    FailsFirst (listDocs store s subfolder) :=
  (failsFirst_folder s subfolder).bind fun _ _ => ⟨_, _, rfl⟩

/-- The operations that look for a folder fail first. -/
theorem failsFirst_run {op : Operation} (hop : needsFolder op = true) :
    FailsFirst (op.run store s) := by
  cases op with
  | createDoc title content subfolder =>
    exact (failsFirst_createDoc s title content subfolder).bind fun _ => total_pure _
  | listDocs subfolder => exact (failsFirst_listDocs s subfolder).bind fun _ => total_pure _
  | _ => cases hop

/-! ### All operations -/

/-- An effect that is a failure leaves the folders and the documents. -/
theorem Effect.kept_of_error {m m' : Memory} {op : Operation} {e : Fault}
    (h : Effect s m op (.error e) m') : m'.folders = m.folders ∧ m'.documents = m.documents := by
  cases h with
  | failed hcontent => exact ⟨folders_of_content hcontent, documents_of_content hcontent⟩
  | replyFailed hcontent =>
    -- the id of the reply has been drawn, and is in no reply
    exact ⟨folders_of_content (m := m.ticked) hcontent, documents_of_content (m := m.ticked) hcontent⟩

/-- **A failure changes nothing**, in any state of the store. The folders and the documents, with
their bodies, batches and comments, are what they were; and an operation that looks for a folder has
not even called the store. -/
theorem failure_changes_nothing {op : Operation} {e : Fault}
    (h : (outcome (op.run store s) w).1 = .error e) :
    (outcome (op.run store s) w).2.store.folders = w.store.folders ∧
      (outcome (op.run store s) w).2.store.documents = w.store.documents ∧
      (needsFolder op = true →
        (outcome (op.run store s) w).2.store.calls = w.store.calls) := by
  cases hop : needsFolder op with
  | true =>
    rw [failsFirst_run hop w e h]
    exact ⟨rfl, rfl, fun _ => rfl⟩
  | false =>
    have hcreates : creates op = false := by
      cases op with
      | createDoc => cases hop
      | _ => rfl
    have heffect := effect_run_of_not_creates (s := s) hcreates w
    rw [h] at heffect
    obtain ⟨hfolders, hdocuments⟩ := heffect.kept_of_error
    refine ⟨hfolders, hdocuments, fun hneeds => ?_⟩
    cases hneeds

/-- A reply to a comment that is not there draws an id for nothing; a document that has no folder to
go to is not created. -/
theorem failure_changes_nothing_lost :
    (outcome ((Operation.replyToComment "doc-1" "c" "lost").run store ⟨none, 10⟩) pairWorld).1 =
        .error (.notFound "comment c") ∧
      (outcome ((Operation.replyToComment "doc-1" "c" "lost").run store ⟨none, 10⟩)
        pairWorld).2.store.documents = [pairDocument] ∧
      (outcome ((Operation.createDoc "New" "# 😀" (some "Sub")).run store ⟨none, 10⟩) pairWorld).1 =
        .error (.configuration "DRIVE_FOLDER_ID is required") ∧
      (outcome ((Operation.createDoc "New" "# 😀" (some "Sub")).run store ⟨none, 10⟩)
        pairWorld).2.store.calls = [] := by
  have hreply : (outcome ((Operation.replyToComment "doc-1" "c" "lost").run store ⟨none, 10⟩)
      pairWorld).1 = .error (.notFound "comment c") := by rfl
  have hcreate : (outcome ((Operation.createDoc "New" "# 😀" (some "Sub")).run store ⟨none, 10⟩)
      pairWorld).1 = .error (.configuration "DRIVE_FOLDER_ID is required") := by rfl
  exact ⟨hreply, (failure_changes_nothing hreply).2.1, hcreate,
    (failure_changes_nothing hcreate).2.2 rfl⟩

end Scribe.Service
