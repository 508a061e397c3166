import Scribe.Proofs.Service.Update

/-!
# Replacing the body of a document

An update reads the end of the body from the store and plans for exactly that body, so its deletion
takes everything and its text is all that is left. Nothing of an earlier body can show, whatever was
written before; an empty plan is sent only when there is nothing to delete and nothing to write.
-/

namespace Scribe.Service

open Text Edit Scribe.Action Store Store.Memory

/-! ### Updates -/

/-- An update: the reference to a document, and its new content. -/
structure Update where
  reference : String
  content : String

/-- Carry out an update. -/
def Update.run (s : Settings) (u : Update) : Action Memory Updated :=
  updateDoc Memory.store s u.reference u.content false

/-- Whether a store holds the document that an update names, and a limit lets its content pass. -/
structure Update.Valid (s : Settings) (m : Memory) (u : Update) (id : String) : Prop where
  resolve : Document.resolve u.reference = .ok id
  present : (m.document? id).isSome
  within : units u.content ≤ s.maxContentUnits

variable {s : Settings} {w : World Memory} {u : Update} {id : String}

/-- An update of a document succeeds. It leaves the new text as the body, and finds all other
documents as they were. -/
theorem outcome_run (h : u.Valid s w.store id) :
    ∃ n w' d, outcome (u.run s) w = (.ok ⟨id, n, none⟩, w') ∧
      w'.store.document? id = some d ∧ d.body = (compile u.content).text ∧
      ∀ id', id' ≠ id → w'.store.document? id' = w.store.document? id' := by
  obtain ⟨d, hd⟩ := Option.isSome_iff_exists.1 h.present
  obtain ⟨plan, hplan⟩ : ∃ plan,
      Plan.forReplacement u.content (some d.endIndex) s.maxContentUnits = .ok plan :=
    ⟨_, Plan.forReplacement_eq_ok_iff.2 ⟨h.within, rfl⟩⟩
  have hname := id_of_document? hd
  subst hname
  obtain ⟨w', hrun, hcontent⟩ := outcome_run_of_target (target_eq_ok_iff.2 ⟨h.resolve, hd, hplan⟩)
  refine ⟨plan.length, w', replaced u.content plan w.store.timestamp d, hrun, ?_, rfl, ?_⟩
  · rw [document?_of_content hcontent, document?_modifyDocument (f := replaced _ _ _) fun _ => rfl,
      hd, Option.map_some]
  · intro id' hne
    rw [document?_of_content hcontent,
      document?_modifyDocument_of_ne (f := replaced _ _ _) (fun _ => rfl) hne]

/-- A run of updates, each of a document that the store holds, succeeds, and the store still holds
every document. -/
theorem outcome_mapM_run {us : List Update} (h : ∀ u ∈ us, ∃ id, u.Valid s w.store id) :
    ∃ done w', outcome (us.mapM (·.run s)) w = (.ok done, w') ∧
      ∀ id, (w.store.document? id).isSome → (w'.store.document? id).isSome := by
  induction us generalizing w with
  | nil => exact ⟨[], w, rfl, fun _ h => h⟩
  | cons u us ih =>
    obtain ⟨id, hu⟩ := h u List.mem_cons_self
    obtain ⟨n, w₁, d, hrun, hd, -, hothers⟩ := outcome_run hu
    have hpresent : ∀ id', (w.store.document? id').isSome → (w₁.store.document? id').isSome := by
      intro id' hid'
      by_cases hne : id' = id
      · rw [hne, hd]; rfl
      · rwa [hothers id' hne]
    have hvalid : ∀ v ∈ us, ∃ id, v.Valid s w₁.store id := by
      intro v hv
      obtain ⟨id', hv'⟩ := h v (List.mem_cons_of_mem _ hv)
      exact ⟨id', hv'.resolve, hpresent _ hv'.present, hv'.within⟩
    obtain ⟨done, w', hrest, hpresent'⟩ := ih hvalid
    refine ⟨⟨id, n, none⟩ :: done, w', ?_, fun id' hid' => hpresent' id' (hpresent id' hid')⟩
    rw [List.mapM_cons, outcome_bind_ok hrun, outcome_bind_ok hrest, outcome_pure]

/-- **An update replaces the document.** It succeeds, and it leaves the document with exactly the
text of the new content as its body, and with the end index that goes with that text. So it does
behind any run of updates, of this document or of others: nothing of an earlier body is left. -/
theorem updateDoc_replaces (h : u.Valid s w.store id) {earlier : List Update}
    (hearlier : ∀ v ∈ earlier, ∃ id', v.Valid s w.store id') :
    (∃ n w' d, outcome (updateDoc Memory.store s u.reference u.content false) w =
          (.ok ⟨id, n, none⟩, w') ∧
        w'.store.document? id = some d ∧ d.body = (compile u.content).text ∧
        d.endIndex = (compile u.content).endOffset + 1) ∧
      (∃ done w' d, outcome ((earlier ++ [u]).mapM (·.run s)) w = (.ok done, w') ∧
        w'.store.document? id = some d ∧ d.body = (compile u.content).text ∧
        d.endIndex = (compile u.content).endOffset + 1) := by
  have hend : ∀ d : StoredDocument, d.body = (compile u.content).text →
      d.endIndex = (compile u.content).endOffset + 1 := by
    intro d hbody
    rw [StoredDocument.endIndex, hbody, Compiled.endOffset, bodyStart]
    omega
  constructor
  · obtain ⟨n, w', d, hrun, hd, hbody, -⟩ := outcome_run h
    exact ⟨n, w', d, hrun, hd, hbody, hend d hbody⟩
  · obtain ⟨done, w₁, hrun₁, hpresent⟩ := outcome_mapM_run hearlier
    have h₁ : u.Valid s w₁.store id := ⟨h.resolve, hpresent id h.present, h.within⟩
    obtain ⟨n, w', d, hrun, hd, hbody, -⟩ := outcome_run h₁
    refine ⟨done ++ [⟨id, n, none⟩], w', d, ?_, hd, hbody, hend d hbody⟩
    rw [List.mapM_append, outcome_bind_ok hrun₁, List.mapM_cons, List.mapM_nil, bind_assoc,
      outcome_bind_ok hrun]
    rfl

/-- A document is emptied, and filled again through its URL. -/
theorem updateDoc_replaces_pair :
    Update.Valid ⟨none, 10⟩ pairWorld.store (.mk "doc-1" "") "doc-1" ∧
      Update.Valid ⟨none, 10⟩ pairWorld.store
        (.mk " https://docs.google.com/document/d/doc-1/edit" "# 😀") "doc-1" ∧
      ∃ done w' d,
        outcome (([Update.mk "doc-1" ""] ++
            [Update.mk " https://docs.google.com/document/d/doc-1/edit" "# 😀"]).mapM
            fun u => u.run ⟨none, 10⟩) pairWorld = (.ok done, w') ∧
          w'.store.document? "doc-1" = some d ∧ d.body = "😀\n" ∧ d.endIndex = 5 := by
  have hempty : Update.Valid ⟨none, 10⟩ pairWorld.store (.mk "doc-1" "") "doc-1" :=
    ⟨rfl, by decide, by decide⟩
  have hfill : Update.Valid ⟨none, 10⟩ pairWorld.store
      (.mk " https://docs.google.com/document/d/doc-1/edit" "# 😀") "doc-1" :=
    ⟨rfl, by decide, by decide⟩
  obtain ⟨done, w', d, hrun, hd, hbody, hend⟩ :=
    (updateDoc_replaces hfill (List.forall_mem_singleton.2 ⟨_, hempty⟩)).2
  have htext : (compile "# 😀").text = "😀\n" := by decide +kernel
  refine ⟨hempty, hfill, done, w', d, hrun, hd, hbody.trans htext, ?_⟩
  rw [hend, Compiled.endOffset, htext]
  decide

end Scribe.Service
