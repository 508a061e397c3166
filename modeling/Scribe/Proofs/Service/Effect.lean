import Scribe.Tool.Call
import Scribe.Proofs.Service.Update
import Scribe.Proofs.Store.Identity

/-!
# What an operation does to the store

`Effect` says once, for each operation of the service, what it can do to a store in memory: with
which result, under which conditions, and what the store holds behind it. The calls that the store
writes down are left out. An operation that fails leaves everything as it was; only a reply that
fails at the store has drawn its id by then.

Every operation has such an effect (`effect_run`). For the creation of a document this needs that
the id of the document is new, for the document is filled through its id.
-/

namespace Scribe.Service

open Edit Scribe.Action Store Store.Memory

/-! ### Effects -/

/-- How an operation finds the folder to work in, and the store behind that. -/
inductive FolderFound (s : Settings) (subfolder : Option String) (m : Memory) :
    String → Memory → Prop where
  | root {root : String} {m' : Memory} : rootFolder s = .ok root → subfolderName subfolder = none →
      m'.content = m.content → FolderFound s subfolder m root m'
  | existing {root name : String} {f : Folder} {m' : Memory} : rootFolder s = .ok root →
      subfolderName subfolder = some name →
      m.folders.find? (fun f => f.parent == root && f.name == name) = some f →
      m'.content = m.content → FolderFound s subfolder m f.id m'
  | new {root name : String} {m' : Memory} : rootFolder s = .ok root →
      subfolderName subfolder = some name →
      m.folders.find? (fun f => f.parent == root && f.name == name) = none →
      m'.content = (m.addFolder root name).2.content →
      FolderFound s subfolder m (m.addFolder root name).1 m'

/-- A new document with a content. -/
def newDocument (m : Memory) (parent title content : String) (plan : Plan) : StoredDocument :=
  ⟨numbered "doc" m.ticked.clock.toNat, parent, title, m.ticked.timestamp, (compile content).text,
    none, sent plan, []⟩

/-- A document with a change of the first comment of an id. -/
def discussed (comment : String) (f : Comment → Comment) (d : StoredDocument) : StoredDocument :=
  { d with comments := modifyFirst (·.id == comment) f d.comments }

/-- A comment with one more reply. -/
def replied (id content : String) (c : Comment) : Comment :=
  { c with replies := c.replies ++ [⟨id, some "docs-mcp", some content, none⟩] }

/-- Whether an operation only reads. -/
def reads : Operation → Bool
  | .readDoc _ | .getComments _ | .updateDoc _ _ true => true
  | _ => false

/-- What an operation does to a store, and the result that it has. -/
inductive Effect (s : Settings) (m : Memory) : Operation → Except Fault String → Memory → Prop where
  | failed {op : Operation} {e : Fault} {m' : Memory} : m'.content = m.content →
      Effect s m op (.error e) m'
  | replyFailed {reference comment content : String} {e : Fault} {m' : Memory} :
      m'.content = m.ticked.content →
      Effect s m (.replyToComment reference comment content) (.error e) m'
  | read {op : Operation} {answer : String} {m' : Memory} : reads op = true →
      m'.content = m.content → Effect s m op (.ok answer) m'
  | listed {subfolder : Option String} {parent answer : String} {m₁ m' : Memory} :
      FolderFound s subfolder m parent m₁ → m'.content = m₁.content →
      Effect s m (.listDocs subfolder) (.ok answer) m'
  | created {title content parent answer : String} {subfolder : Option String} {plan : Plan}
      {m₁ m' : Memory} : Plan.forNew content s.maxContentUnits = .ok plan →
      FolderFound s subfolder m parent m₁ →
      m'.content =
        Memory.content { m₁.ticked with
          documents := m₁.documents ++ [newDocument m₁ parent title content plan] } →
      Effect s m (.createDoc title content subfolder) (.ok answer) m'
  | updated {reference content id answer : String} {d : StoredDocument} {plan : Plan}
      {m' : Memory} : Document.resolve reference = .ok id → m.document? id = some d →
      Plan.forReplacement content (some d.endIndex) s.maxContentUnits = .ok plan →
      m'.content = (m.modifyDocument id (replaced content plan m.timestamp)).content →
      Effect s m (.updateDoc reference content false) (.ok answer) m'
  | replied {reference comment content id answer : String} {d : StoredDocument} {c : Comment}
      {m' : Memory} : Document.resolve reference = .ok id → m.document? id = some d →
      findComment d comment = .ok c →
      m'.content =
        (m.ticked.modifyDocument id (discussed comment
          (replied (numbered "reply" m.ticked.clock.toNat) content))).content →
      Effect s m (.replyToComment reference comment content) (.ok answer) m'
  | resolved {reference comment id answer : String} {d : StoredDocument} {c : Comment}
      {m' : Memory} : Document.resolve reference = .ok id → m.document? id = some d →
      findComment d comment = .ok c →
      m'.content =
        (m.modifyDocument id (discussed comment fun c => { c with resolved := true })).content →
      Effect s m (.resolveComment reference comment) (.ok answer) m'

variable {s : Settings} {w : World Memory}

/-! ### Reading -/

theorem preserves_exportHtml (id : String) : Preserves content (store.exportHtml id) :=
  (preserves_record _).bind fun _ => (preserves_find _ id).bind fun _ => preserves_pure _

theorem preserves_listComments (id : String) : Preserves content (store.listComments id) :=
  (preserves_record _).bind fun _ => (preserves_find _ id).bind fun _ => preserves_pure _

theorem preserves_bodyEnd (id : String) : Preserves content (store.bodyEnd id) :=
  (preserves_record _).bind fun _ => (preserves_find _ id).bind fun _ => preserves_pure _

theorem preserves_listDocuments (parent : String) :
    Preserves content (store.listDocuments parent) :=
  (preserves_record _).bind fun _ => preserves_store.bind fun _ => preserves_pure _

theorem preserves_readDoc (reference : String) : Preserves content (readDoc store reference) :=
  (preserves_ofExcept _).bind fun id => (preserves_exportHtml id).bind fun _ => preserves_pure _

theorem preserves_getComments (reference : String) :
    Preserves content (getComments store reference) :=
  (preserves_ofExcept _).bind fun id => preserves_listComments id

/-- A dry run writes nothing. -/
theorem preserves_updateDoc_dryRun (reference content : String) :
    Preserves Memory.content (updateDoc store s reference content true) := by
  refine (preserves_ofExcept _).bind fun id => (preserves_bodyEnd id).bind fun stop =>
    (preserves_ofExcept _).bind fun plan => ?_
  rw [if_pos rfl]
  exact (preserves_exportHtml id).bind fun _ => preserves_pure _

/-- What preserves the content only reads. -/
theorem effect_of_preserves {α : Type} {op : Operation} (hop : reads op = true)
    {a : Action Memory α} (h : Preserves content a) (f : α → String) (w : World Memory) :
    Effect s w.store op ((outcome a w).1.map f) (outcome a w).2.store := by
  have hcontent := h w
  cases (outcome a w).1 with
  | ok x => exact .read hop hcontent
  | error e => exact .failed hcontent

/-! ### Folders -/

/-- The folder to work in is found if there is a root. -/
theorem outcome_folder_of_root {s : Settings} {root : String} (hroot : rootFolder s = .ok root)
    (subfolder : Option String) (w : World Memory) :
    ∃ parent w', outcome (folder store s subfolder) w = (.ok parent, w') ∧
      FolderFound s subfolder w.store parent w'.store := by
  rw [folder, outcome_bind, outcome_ofExcept, hroot]
  simp only
  cases hname : subfolderName subfolder with
  | none => exact ⟨root, w, rfl, .root hroot hname rfl⟩
  | some name =>
    have hsearch : outcome (store.findFolder root name) w =
        (.ok ((w.store.folders.find? fun f => f.parent == root && f.name == name).map (·.id)),
          { w with store := w.store.noted ("find_folder " ++ root ++ " " ++ name) }) := rfl
    simp only
    rw [outcome_bind_ok hsearch]
    cases hfind : w.store.folders.find? (fun f => f.parent == root && f.name == name) with
    | some f => exact ⟨f.id, _, rfl, .existing hroot hname hfind rfl⟩
    | none => exact ⟨_, _, rfl, .new hroot hname hfind rfl⟩

/-- The folder to work in is found, or nothing has happened. -/
theorem outcome_folder (s : Settings) (subfolder : Option String) (w : World Memory) :
    (∃ e, outcome (folder store s subfolder) w = (.error e, w)) ∨
      ∃ parent w', outcome (folder store s subfolder) w = (.ok parent, w') ∧
        FolderFound s subfolder w.store parent w'.store := by
  cases hroot : rootFolder s with
  | error e =>
    left
    rw [folder, outcome_bind, outcome_ofExcept, hroot]
    exact ⟨e, rfl⟩
  | ok root => exact .inr (outcome_folder_of_root hroot subfolder w)

/-- A listing finds its folder, and then only reads. -/
theorem effect_listDocs (subfolder : Option String) (f : List Summary → String)
    (w : World Memory) :
    Effect s w.store (.listDocs subfolder)
      ((outcome (listDocs store s subfolder) w).1.map f)
      (outcome (listDocs store s subfolder) w).2.store := by
  rw [listDocs]
  rcases outcome_folder s subfolder w with ⟨e, hfolder⟩ | ⟨parent, w₁, hfolder, hfound⟩
  · rw [outcome_bind, hfolder]
    exact .failed rfl
  · rw [outcome_bind_ok hfolder]
    exact .listed hfound rfl

/-! ### Updates -/

/-- An update replaces the body of its target; without one it fails. -/
theorem effect_updateDoc (reference content : String) (f : Updated → String) (w : World Memory) :
    Effect s w.store (.updateDoc reference content false)
      ((outcome (updateDoc store s reference content false) w).1.map f)
      (outcome (updateDoc store s reference content false) w).2.store := by
  cases hid : Document.resolve reference with
  | error e =>
    rw [outcome_updateDoc_of_resolve_error hid]
    exact .failed rfl
  | ok id =>
    cases htarget : target s w.store reference content with
    | error e =>
      rw [outcome_updateDoc_of_target_error hid htarget]
      exact .failed rfl
    | ok p =>
      obtain ⟨d, plan⟩ := p
      obtain ⟨hresolve, hd, hplan⟩ := target_eq_ok_iff.1 htarget
      obtain ⟨w', hrun, hcontent⟩ := outcome_run_of_target htarget
      rw [hrun]
      exact .updated hresolve hd hplan hcontent

/-! ### New documents -/

/-- A plan for a new document is accepted by any body, and puts its text in front of it. -/
theorem applyRequests_forNew {content : String} {limit : Nat} {plan : Plan}
    (h : Plan.forNew content limit = .ok plan) (body : List Char) :
    applyRequests body plan = ((compile content).text.toList ++ body, .ok ()) := by
  rw [(Plan.forNew_eq_ok_iff.1 h).2]
  exact applyRequests_compileBlocks body (Markdown.parseBlocks content)

/-- In an empty body the text of the plan is all that there is. -/
theorem applyRequests_forNew_nil {content : String} {limit : Nat} {plan : Plan}
    (h : Plan.forNew content limit = .ok plan) :
    applyRequests [] plan = ((compile content).text.toList, .ok ()) := by
  rw [applyRequests_forNew h, List.append_nil]

/-- A new document is filled through its id, which no other document has. -/
theorem outcome_applyPlan_new {m : Memory} {content : String} {limit : Nat} {plan : Plan}
    (parent title : String)
    (hfresh : numbered "doc" m.ticked.clock.toNat ∉ m.documents.map (·.id))
    (hplan : Plan.forNew content limit = .ok plan) (hnil : plan ≠ []) :
    ∃ m', m'.content =
          Memory.content { m.ticked with
            documents := m.documents ++ [newDocument m parent title content plan] } ∧
      ∀ events, outcome (applyPlan (numbered "doc" m.ticked.clock.toNat) plan)
        ⟨(m.addDocument parent title "" none).2, events⟩ = (.ok (), ⟨m', events⟩) := by
  let d : StoredDocument :=
    ⟨numbered "doc" m.ticked.clock.toNat, parent, title, m.ticked.timestamp, "", none, [], []⟩
  have hdocuments : (m.addDocument parent title "" none).2.documents = m.documents ++ [d] := rfl
  have hothers : ∀ e ∈ m.documents, (e.id == d.id) = false := by
    intro e he
    rw [beq_eq_false_iff_ne]
    intro hid
    exact hfresh (List.mem_map.2 ⟨e, he, hid⟩)
  have hd : (m.addDocument parent title "" none).2.document? d.id = some d := by
    have hnone : m.documents.find? (·.id == d.id) = none :=
      List.find?_eq_none.2 fun e he => by rw [hothers e he]; exact Bool.false_ne_true
    rw [Memory.document?, hdocuments, List.find?_append, hnone, Option.none_or,
      List.find?_cons_of_pos (by simp)]
  refine ⟨((m.addDocument parent title "" none).2.noted (batchCall d.id plan)).modifyDocument d.id
      (edited (compile content).text.toList plan m.ticked.timestamp), ?_, fun events =>
    outcome_applyPlan_ok (w := ⟨_, events⟩) hd (applyRequests_forNew_nil hplan)⟩
  have hnew : edited (compile content).text.toList plan m.ticked.timestamp d =
      newDocument m parent title content plan := by
    simp [edited, newDocument, sent, d, hnil]
  have hmodify : modifyFirst (·.id == d.id)
      (edited (compile content).text.toList plan m.ticked.timestamp) (m.documents ++ [d]) =
        m.documents ++ [newDocument m parent title content plan] := by
    rw [modifyFirst_append hothers, modifyFirst, if_pos (beq_self_eq_true _), hnew]
  rw [← hmodify]
  rfl

theorem FolderFound.documents {subfolder : Option String} {m m' : Memory} {parent : String}
    (h : FolderFound s subfolder m parent m') : m'.documents = m.documents := by
  cases h with
  | root _ _ hcontent => exact documents_of_content hcontent
  | existing _ _ _ hcontent => exact documents_of_content hcontent
  | new _ _ _ hcontent => exact (documents_of_content hcontent).trans rfl

/-- The search for a folder draws an id at most. -/
theorem FolderFound.clock {subfolder : Option String} {m m' : Memory} {parent : String}
    (h : FolderFound s subfolder m parent m') :
    ∃ k ≤ 1, m'.clock = m.clock + UInt32.ofNat k := by
  cases h with
  | root _ _ hcontent =>
    exact ⟨0, Nat.zero_le _, (clock_of_content hcontent).trans (UInt32.add_zero _).symm⟩
  | existing _ _ _ hcontent =>
    exact ⟨0, Nat.zero_le _, (clock_of_content hcontent).trans (UInt32.add_zero _).symm⟩
  | new _ _ _ hcontent => exact ⟨1, Nat.le_refl _, clock_of_content hcontent⟩

theorem preserves_applyPlan_clock (id : String) (plan : Plan) :
    Preserves Memory.clock (applyPlan id plan) :=
  fun w => congrArg Prod.snd (preserves_applyPlan_roll id plan w)

/-- Behind its checks, and in the folder that it has found, a creation adds a document, which is then
filled by a plan that is accepted. -/
theorem outcome_createDoc {n : Nat} (hn : Numbered n w.store) {title content parent : String}
    {subfolder : Option String} {plan : Plan} {w₁ : World Memory}
    (htitle : requireText "document title" title = .ok ())
    (hplan : Plan.forNew content s.maxContentUnits = .ok plan)
    (hfolder : outcome (folder store s subfolder) w = (.ok parent, w₁))
    (hfound : FolderFound s subfolder w.store parent w₁.store)
    (hlt : n + drawn w.store (outcome (createDoc store s title content subfolder) w).2.store <
      UInt32.size) :
    ∃ w', outcome (createDoc store s title content subfolder) w =
        (.ok ⟨numbered "doc" w₁.store.ticked.clock.toNat,
          Document.url (numbered "doc" w₁.store.ticked.clock.toNat), title⟩, w') ∧
      w'.store.content =
        Memory.content { w₁.store.ticked with
          documents := w₁.store.documents ++
            [newDocument w₁.store parent title content plan] } := by
  rw [createDoc, outcome_bind, outcome_ofExcept, htitle] at hlt ⊢
  simp only at hlt ⊢
  rw [outcome_bind, outcome_ofExcept, hplan] at hlt ⊢
  simp only at hlt ⊢
  rw [outcome_bind_ok hfolder] at hlt ⊢
  have hcreate : outcome (store.createDocument parent title) w₁ =
      (.ok (numbered "doc" w₁.store.ticked.clock.toNat), { w₁ with
        store :=
          ((w₁.store.noted ("create_document " ++ parent ++ " " ++ title)).addDocument
            parent title "" none).2 }) := rfl
  rw [outcome_bind_ok hcreate] at hlt ⊢
  by_cases hnil : plan = []
  · -- Nothing is sent, and an empty text is what the plan is for.
    subst hnil
    have htext : (compile content).text = "" :=
      String.toList_inj.1 (congrArg Prod.fst (applyRequests_forNew_nil hplan)).symm
    refine ⟨_, rfl, ?_⟩
    rw [newDocument, htext]
    rfl
  · -- The plan is sent to the first document of the new id. It has to be the new one, so the clock
    -- must not have run over when the id was drawn, behind that of a new folder.
    rw [if_pos (by simpa using hnil)] at hlt ⊢
    obtain ⟨k, hk, hclock⟩ := hfound.clock
    have hticked : w₁.store.ticked.clock = w.store.clock + UInt32.ofNat (k + 1) := by
      rw [UInt32.ofNat_add, ← UInt32.add_assoc, ← hclock]
      rfl
    have hdrawn : n + (k + 1) < UInt32.size := by
      -- What comes behind the creation draws no id.
      refine lt_of_preserves_clock ?_ hticked (Nat.succ_le_succ hk) hlt
      exact (preserves_report _ _ _).bind fun _ => (preserves_report _ _ _).bind fun _ =>
        (preserves_applyPlan_clock _ _).bind fun _ => preserves_pure _
    have hfresh : numbered "doc" w₁.store.ticked.clock.toNat ∉ w₁.store.documents.map (·.id) := by
      rw [hfound.documents]
      exact hn.fresh_of_clock hticked hdrawn
    obtain ⟨m', hcontent, hfill⟩ := outcome_applyPlan_new
      (m := w₁.store.noted ("create_document " ++ parent ++ " " ++ title)) parent title hfresh
      hplan hnil
    change ∀ events, outcome (applyPlan (numbered "doc" w₁.store.ticked.clock.toNat) plan) _ =
      _ at hfill
    simp only [outcome_bind, note, outcome_report, store_applyPlan, outcome_pure, hfill]
    exact ⟨_, rfl, hcontent⟩

/-- A creation fails at its checks or at the search for its folder, or it adds its document. -/
theorem effect_createDoc {n : Nat} (hn : Numbered n w.store) (title content : String)
    (subfolder : Option String) (f : Created → String)
    (hlt : n + drawn w.store (outcome (createDoc store s title content subfolder) w).2.store <
      UInt32.size) :
    Effect s w.store (.createDoc title content subfolder)
      ((outcome (createDoc store s title content subfolder) w).1.map f)
      (outcome (createDoc store s title content subfolder) w).2.store := by
  cases htitle : requireText "document title" title with
  | error e =>
    rw [createDoc, outcome_bind, outcome_ofExcept, htitle]
    exact .failed rfl
  | ok _ =>
    cases hplan : Plan.forNew content s.maxContentUnits with
    | error e =>
      simp only [createDoc, outcome_bind, outcome_ofExcept, htitle, hplan]
      exact .failed rfl
    | ok plan =>
      rcases outcome_folder s subfolder w with ⟨e, hfolder⟩ | ⟨parent, w₁, hfolder, hfound⟩
      · simp only [createDoc, outcome_bind, outcome_ofExcept, htitle, hplan, hfolder]
        exact .failed rfl
      · obtain ⟨w', hcreate, hcontent⟩ := outcome_createDoc hn htitle hplan hfolder hfound hlt
        rw [hcreate]
        exact .created hplan hfound hcontent

/-! ### Comments -/

theorem outcome_modifyComment (id comment : String) (f : Comment → Comment) (w : World Memory) :
    (∃ e, outcome (modifyComment id comment f) w = (.error e, w)) ∨
      ∃ d c, w.store.document? id = some d ∧ findComment d comment = .ok c ∧
        outcome (modifyComment id comment f) w =
          (.ok (), { w with store := w.store.modifyDocument id (discussed comment f) }) := by
  rw [modifyComment]
  cases hd : w.store.document? id with
  | none =>
    rw [outcome_bind, outcome_find_none hd]
    exact .inl ⟨_, rfl⟩
  | some d =>
    rw [outcome_bind_ok (outcome_find hd), outcome_bind, outcome_ofExcept]
    cases hc : findComment d comment with
    | error e => exact .inl ⟨e, rfl⟩
    | ok c => exact .inr ⟨d, c, rfl, hc, rfl⟩

/-- A reply draws its id, and is put on the comment if that is there. -/
theorem outcome_createReply (id comment content : String) (w : World Memory) :
    (∃ e w', outcome (store.createReply id comment content) w = (.error e, w') ∧
        w'.store.content = w.store.ticked.content) ∨
      ∃ d c w', w.store.document? id = some d ∧ findComment d comment = .ok c ∧
        outcome (store.createReply id comment content) w = (.ok (), w') ∧
        w'.store.content = (w.store.ticked.modifyDocument id (discussed comment
          (replied (numbered "reply" w.store.ticked.clock.toNat) content))).content := by
  let w₁ : World Memory :=
    { w with store := (w.store.noted ("create_reply " ++ id ++ " " ++ comment)).ticked }
  have hreply : outcome (store.createReply id comment content) w =
      outcome (modifyComment id comment
        (replied (numbered "reply" w.store.ticked.clock.toNat) content)) w₁ := rfl
  rw [hreply]
  rcases outcome_modifyComment id comment
      (replied (numbered "reply" w.store.ticked.clock.toNat) content) w₁ with
    ⟨e, hmodify⟩ | ⟨d, c, hd, hc, hmodify⟩
  · exact .inl ⟨e, _, hmodify, rfl⟩
  · exact .inr ⟨d, c, _, hd, hc, hmodify, rfl⟩

/-- A comment is resolved if it is there. -/
theorem outcome_resolveComment (id comment : String) (w : World Memory) :
    (∃ e w', outcome (store.resolveComment id comment) w = (.error e, w') ∧
        w'.store.content = w.store.content) ∨
      ∃ d c w', w.store.document? id = some d ∧ findComment d comment = .ok c ∧
        outcome (store.resolveComment id comment) w = (.ok (), w') ∧
        w'.store.content = (w.store.modifyDocument id
          (discussed comment fun c => { c with resolved := true })).content := by
  let w₁ : World Memory :=
    { w with store := w.store.noted ("resolve_comment " ++ id ++ " " ++ comment) }
  have hresolve : outcome (store.resolveComment id comment) w =
      outcome (modifyComment id comment fun c => { c with resolved := true }) w₁ := rfl
  rw [hresolve]
  rcases outcome_modifyComment id comment (fun c => { c with resolved := true }) w₁ with
    ⟨e, hmodify⟩ | ⟨d, c, hd, hc, hmodify⟩
  · exact .inl ⟨e, _, hmodify, rfl⟩
  · exact .inr ⟨d, c, _, hd, hc, hmodify, rfl⟩

theorem effect_replyToComment (reference comment content : String) (f : Unit → String)
    (w : World Memory) :
    Effect s w.store (.replyToComment reference comment content)
      ((outcome (replyToComment store reference comment content) w).1.map f)
      (outcome (replyToComment store reference comment content) w).2.store := by
  rw [replyToComment, outcome_bind, outcome_ofExcept]
  cases hid : Document.resolve reference with
  | error e => exact .failed rfl
  | ok id =>
    simp only
    rw [outcome_bind, outcome_ofExcept]
    cases requireText "comment_id" comment with
    | error e => exact .failed rfl
    | ok _ =>
      simp only
      rw [outcome_bind, outcome_ofExcept]
      cases requireText "reply" content with
      | error e => exact .failed rfl
      | ok _ =>
        simp only
        rcases outcome_createReply id comment content w with
          ⟨e, w', hreply, hcontent⟩ | ⟨d, c, w', hd, hc, hreply, hcontent⟩
        · rw [hreply]
          exact .replyFailed hcontent
        · rw [hreply]
          exact .replied hid hd hc hcontent

theorem effect_resolveComment (reference comment : String) (f : Unit → String)
    (w : World Memory) :
    Effect s w.store (.resolveComment reference comment)
      ((outcome (resolveComment store reference comment) w).1.map f)
      (outcome (resolveComment store reference comment) w).2.store := by
  rw [resolveComment, outcome_bind, outcome_ofExcept]
  cases hid : Document.resolve reference with
  | error e => exact .failed rfl
  | ok id =>
    simp only
    rw [outcome_bind, outcome_ofExcept]
    cases requireText "comment_id" comment with
    | error e => exact .failed rfl
    | ok _ =>
      simp only
      rcases outcome_resolveComment id comment w with
        ⟨e, w', hresolve, hcontent⟩ | ⟨d, c, w', hd, hc, hresolve, hcontent⟩
      · rw [hresolve]
        exact .failed hcontent
      · rw [hresolve]
        exact .resolved hid hd hc hcontent

/-! ### All operations -/

/-- An answer may be rendered. -/
theorem effect_bind_pure {α : Type} {op : Operation} {a : Action Memory α} {f : α → String}
    (h : Effect s w.store op ((outcome a w).1.map f) (outcome a w).2.store) :
    Effect s w.store op (outcome (a >>= fun x => pure (f x)) w).1
      (outcome (a >>= fun x => pure (f x)) w).2.store := by
  rw [outcome_bind_pure]
  exact h

/-- Whether an operation adds a document to the store. -/
def creates : Operation → Bool
  | .createDoc .. => true
  | _ => false

/-- An operation on the documents that are there has its effect in any state of the store. -/
theorem effect_run_of_not_creates {op : Operation} (hop : creates op = false) (w : World Memory) :
    Effect s w.store op (outcome (op.run store s) w).1 (outcome (op.run store s) w).2.store := by
  cases op with
  | createDoc => cases hop
  | updateDoc reference content dryRun =>
    rw [Operation.run]
    cases dryRun with
    | true =>
      exact effect_bind_pure
        (effect_of_preserves rfl (preserves_updateDoc_dryRun reference content) _ w)
    | false => exact effect_bind_pure (effect_updateDoc reference content _ w)
  | readDoc reference =>
    rw [Operation.run]
    have heffect : Effect s w.store (.readDoc reference) _ _ :=
      effect_of_preserves rfl (preserves_readDoc reference) id w
    rw [Except.map_id] at heffect
    exact heffect
  | listDocs subfolder =>
    rw [Operation.run]
    exact effect_bind_pure (effect_listDocs subfolder _ w)
  | getComments reference =>
    rw [Operation.run]
    exact effect_bind_pure (effect_of_preserves rfl (preserves_getComments reference) _ w)
  | replyToComment reference comment content =>
    rw [Operation.run]
    exact effect_bind_pure (effect_replyToComment reference comment content _ w)
  | resolveComment reference comment =>
    rw [Operation.run]
    exact effect_bind_pure (effect_resolveComment reference comment _ w)

/-- **Every operation has its effect.** -/
theorem effect_run {n : Nat} (hn : Numbered n w.store) (op : Operation)
    (hlt : n + drawn w.store (outcome (op.run store s) w).2.store < UInt32.size) :
    Effect s w.store op (outcome (op.run store s) w).1 (outcome (op.run store s) w).2.store := by
  cases op with
  | createDoc title content subfolder =>
    rw [Operation.run] at hlt ⊢
    rw [outcome_bind_pure] at hlt
    exact effect_bind_pure (effect_createDoc hn title content subfolder _ hlt)
  | _ => exact effect_run_of_not_creates rfl w

end Scribe.Service
