import Scribe.Proofs.Document.Reference
import Scribe.Proofs.Service.Failure
import Scribe.Proofs.Service.History
import Scribe.Proofs.Store.Folders

/-!
# Documents in their folders

A run of creations and listings files documents in folders (`subfolders_partition_documents`). An
operation works in the folder that its argument names, which is found or created, so that no folder
is there twice and two arguments that differ in blanks only name the same one. A listing gives the
documents that were in its folder at the start of the run, and those that were created in it since.

The step is one operation (`files_run`); the run is an induction that carries along that documents
and folders are numbered (`files_history`). Folders are only added, so that what a name stands for
at some entry it stands for at the end of the run.
-/

namespace Scribe.Service

open Edit Scribe.Action Store Store.Memory

variable {s : Settings} {w : World Memory} {m m' : Memory} {n : Nat} {root parent : String}
  {subfolder : Option String}

/-! ### Folders of reachable states -/

/-- The search for a folder creates one at most. -/
theorem FolderFound.founds (h : FolderFound s subfolder m parent m') :
    ∃ k ≤ 1, m'.clock = m.clock + UInt32.ofNat k ∧ Founds m m' k := by
  cases h with
  | root _ _ hcontent =>
    exact ⟨0, Nat.zero_le _, (clock_of_content hcontent).trans (UInt32.add_zero _).symm,
      .none (folders_of_content hcontent)⟩
  | existing _ _ _ hcontent =>
    exact ⟨0, Nat.zero_le _, (clock_of_content hcontent).trans (UInt32.add_zero _).symm,
      .none (folders_of_content hcontent)⟩
  | new _ _ _ hcontent =>
    exact ⟨1, Nat.le_refl _, clock_of_content hcontent, .folder rfl (folders_of_content hcontent)⟩

/-- An operation of the service creates a folder at most, and draws its id first. -/
theorem Effect.founds {op : Operation} {r : Except Fault String} (h : Effect s m op r m') :
    ∃ k ≤ 2, m'.clock = m.clock + UInt32.ofNat k ∧ Founds m m' k := by
  have hnothing : ∀ {m' : Memory}, m'.clock = m.clock → m'.folders = m.folders →
      ∃ k ≤ 2, m'.clock = m.clock + UInt32.ofNat k ∧ Founds m m' k := fun hclock hfolders =>
    ⟨0, Nat.zero_le _, hclock.trans (UInt32.add_zero _).symm, .none hfolders⟩
  cases h with
  | failed hcontent => exact hnothing (clock_of_content hcontent) (folders_of_content hcontent)
  | replyFailed hcontent =>
    exact ⟨1, by decide, clock_of_content hcontent,
      .none (folders_of_content (m := m.ticked) hcontent)⟩
  | read _ hcontent => exact hnothing (clock_of_content hcontent) (folders_of_content hcontent)
  | listed hfound hcontent =>
    obtain ⟨k, hk, hclock, hfounds⟩ := hfound.founds
    exact ⟨k, by omega, (clock_of_content hcontent).trans hclock,
      hfounds.mono (folders_of_content hcontent) (Nat.le_refl k)⟩
  | created _ hfound hcontent =>
    obtain ⟨k, hk, hclock, hfounds⟩ := hfound.founds
    have hlast := clock_of_content hcontent
    refine ⟨k + 1, by omega, ?_,
      hfounds.mono ((folders_of_content hcontent).trans rfl) (Nat.le_succ k)⟩
    rw [hlast, UInt32.ofNat_add, ← UInt32.add_assoc, ← hclock]
    rfl
  | updated _ _ _ hcontent =>
    exact hnothing ((clock_of_content hcontent).trans rfl)
      ((folders_of_content hcontent).trans rfl)
  | replied _ _ _ hcontent =>
    exact ⟨1, by decide, (clock_of_content hcontent).trans rfl,
      .none ((folders_of_content hcontent).trans rfl)⟩
  | resolved _ _ _ hcontent =>
    exact hnothing ((clock_of_content hcontent).trans rfl)
      ((folders_of_content hcontent).trans rfl)

theorem preserves_applyPlan_folders (id : String) (plan : Plan) :
    Preserves Memory.folders (applyPlan id plan) := by
  have hrecord : Preserves Memory.folders (record (batchCall id plan)) := fun _ => rfl
  refine hrecord.bind fun _ => preserves_store.bind fun m =>
    (preserves_find Memory.folders id).bind fun d => ?_
  refine (preserves_modifyStore fun m => ?_).bind fun _ => (preserves_ofExcept _).bind fun _ =>
    preserves_modifyStore fun m => ?_
  · rfl
  · rfl

theorem preserves_modifyComment_folders (document comment : String) (f : Comment → Comment) :
    Preserves Memory.folders (modifyComment document comment f) :=
  (preserves_find Memory.folders document).bind fun _ => (preserves_ofExcept _).bind fun _ =>
    preserves_modifyStore fun _ => rfl

/-- A call of the store creates a folder at most. -/
theorem StoreCall.founds {α : Type} {a : Action Memory α} (h : StoreCall a) (w : World Memory)
    {k : Nat} (hk : k ≤ 1) (hdraws : Draws w.store (outcome a w).2.store k) :
    Founds w.store (outcome a w).2.store k := by
  cases h with
  | findFolder parent name => exact .none rfl
  | createFolder parent name =>
    -- The call has drawn the id, so `k` is 1.
    have hone : k = 1 := by
      have hclock := hdraws.clock
      have hdrawn : drawn w.store (outcome (store.createFolder parent name) w).2.store = 1 :=
        drawn_eq rfl (by decide)
      rw [← hdrawn, drawn_eq hclock (Nat.le_succ_of_le hk)]
    subst hone
    exact .folder rfl rfl
  | createDocument parent title => exact .none rfl
  | bodyEnd id => exact .none (folders_of_content (preserves_bodyEnd id w))
  | applyPlan id plan => exact .none (preserves_applyPlan_folders id plan w)
  | exportHtml id => exact .none (folders_of_content (preserves_exportHtml id w))
  | listDocuments parent => exact .none (folders_of_content (preserves_listDocuments parent w))
  | listComments id => exact .none (folders_of_content (preserves_listComments id w))
  | createReply id comment content =>
    refine .none ?_
    exact preserves_modifyComment_folders id comment _
      { w with store := (w.store.noted ("create_reply " ++ id ++ " " ++ comment)).ticked }
  | resolveComment id comment =>
    refine .none ?_
    exact preserves_modifyComment_folders id comment _
      { w with store := w.store.noted ("resolve_comment " ++ id ++ " " ++ comment) }

/-- The folders stay numbered with every operation. -/
theorem foldersNumbered_run (hn : Numbered n w.store) (hfolders : FoldersNumbered n w.store)
    (op : Operation) (hlt : n + drawn w.store (outcome (op.run store s) w).2.store < UInt32.size) :
    FoldersNumbered (n + drawn w.store (outcome (op.run store s) w).2.store)
      (outcome (op.run store s) w).2.store := by
  obtain ⟨k, hk, hclock, hfounds⟩ := (effect_run hn op hlt).founds
  have hdrawn := drawn_eq hclock hk
  rw [hdrawn] at hlt ⊢
  exact hfolders.step hn.clock hfounds hlt

/-- **The folders of a reachable state are numbered**, if the clock has not run over. -/
theorem Reachable.foldersNumbered (h : Reachable n m) (hn : n < UInt32.size) :
    FoldersNumbered n m := by
  induction h with
  | empty => exact .empty
  | document parent title body html hm ih =>
    exact (ih (by omega)).step (hm.numbered (by omega)).clock (.none rfl) hn
  | folder parent name hm ih =>
    exact (ih (by omega)).step (hm.numbered (by omega)).clock (.folder rfl rfl) hn
  | comment id c hm ih => exact (ih hn).step (k := 0) (hm.numbered hn).clock (.none rfl) hn
  | call w hcall hm ih =>
    obtain ⟨k, hk, hdraws⟩ := hcall.draws w
    have hdrawn := drawn_eq hdraws.clock (Nat.le_succ_of_le hk)
    rw [hdrawn] at hn ⊢
    exact (ih (by omega)).step (hm.numbered (by omega)).clock (hcall.founds w hk hdraws) hn
  | operation s op w hm ih =>
    exact foldersNumbered_run (hm.numbered (by omega)) (ih (by omega)) op hn

/-! ### Finding the folder -/

theorem rootFolder_eq_ok (hroot : s.rootFolder = some root) (hnonempty : root ≠ "") :
    rootFolder s = .ok root := by
  have hfull : root.isEmpty = false := by
    rw [← Bool.not_eq_true, String.isEmpty_iff]
    exact hnonempty
  rw [rootFolder, hroot]
  simp [hfull]

/-- A subfolder has a trimmed name that is not empty. -/
theorem trimmed_of_subfolderName {name : String} (h : subfolderName subfolder = some name) :
    name ≠ "" ∧ Text.trim name = name := by
  obtain ⟨hname, hfull⟩ := Option.filter_eq_some_iff.1 h
  obtain ⟨text, -, rfl⟩ := Option.map_eq_some_iff.1 hname
  refine ⟨?_, Text.trim_trim text⟩
  intro hempty
  rw [hempty] at hfull
  cases hfull

/-- A new folder is under the root, with the name that was looked for in vain. -/
structure NewFolder (root : String) (name : Option String) (m : Memory) (f : Folder) : Prop where
  parent : f.parent = root
  named : name = some f.name
  nonempty : f.name ≠ ""
  trimmed : Text.trim f.name = f.name
  missing : ∀ g ∈ m.folders, g.parent = root → g.name ≠ f.name

/-- The folder to work in is there already, or it is new. -/
theorem FolderFound.folders (hroot : rootFolder s = .ok root)
    (h : FolderFound s subfolder m parent m') :
    m'.folders = m.folders ∨
      ∃ f, m'.folders = m.folders ++ [f] ∧ NewFolder root (subfolderName subfolder) m f := by
  cases h with
  | root _ _ hcontent => exact .inl (folders_of_content hcontent)
  | existing _ _ _ hcontent => exact .inl (folders_of_content hcontent)
  | new hroot' hname hnone hcontent =>
    rw [hroot, Except.ok.injEq] at hroot'
    subst hroot'
    obtain ⟨hnonempty, htrimmed⟩ := trimmed_of_subfolderName hname
    exact .inr ⟨_, folders_of_content hcontent, rfl, hname, hnonempty, htrimmed,
      folderNamed?_eq_none hnone⟩

/-- A new folder shares its parent and name with no other. -/
theorem NewFolder.unshared {name : Option String} {f : Folder} (h : NewFolder root name m f)
    (hm : m.Unshared) (hfolders : m'.folders = m.folders ++ [f]) : m'.Unshared := by
  rw [Unshared, hfolders, List.map_append, List.nodup_append]
  refine ⟨hm, List.pairwise_singleton _ _, ?_⟩
  intro old hold new hnew hsame
  obtain ⟨g, hg, rfl⟩ := List.mem_map.1 hold
  rw [List.map_singleton, List.mem_singleton] at hnew
  rw [hnew, Prod.mk.injEq] at hsame
  exact h.missing g hg (hsame.1.trans h.parent) hsame.2

/-- The folder that was found is the one that the name stands for from now on. -/
theorem FolderFound.folderFor? (hroot : rootFolder s = .ok root)
    (h : FolderFound s subfolder m parent m') :
    m'.folderFor? root (subfolderName subfolder) = some parent := by
  cases h with
  | root hroot' hname _ =>
    rw [hroot, Except.ok.injEq] at hroot'
    rw [hname, ← hroot']
    rfl
  | existing hroot' hname hfound hcontent =>
    rw [hroot, Except.ok.injEq] at hroot'
    subst hroot'
    rw [hname, Memory.folderFor?, folderNamed?, folders_of_content hcontent, hfound]
    rfl
  | @new _ name _ hroot' hname hnone hcontent =>
    rw [hroot, Except.ok.injEq] at hroot'
    subst hroot'
    have hfolders : m'.folders = m.folders ++ [⟨(m.addFolder root name).1, root, name⟩] :=
      folders_of_content hcontent
    rw [hname, Memory.folderFor?, folderNamed?, hfolders, List.find?_append, hnone, Option.none_or,
      List.find?_cons_of_pos (by simp)]
    rfl

/-- A listing lists the folder that it has found. -/
theorem outcome_listDocs (hroot : rootFolder s = .ok root) (subfolder : Option String)
    (w : World Memory) :
    ∃ (parent : String) (w₁ : World Memory), FolderFound s subfolder w.store parent w₁.store ∧
      outcome (listDocs store s subfolder) w =
        (.ok (w₁.store.listing parent),
          { w₁ with store := w₁.store.noted ("list_documents " ++ parent) }) := by
  obtain ⟨parent, w₁, hfolder, hfound⟩ := outcome_folder_of_root hroot subfolder w
  refine ⟨parent, w₁, hfound, ?_⟩
  rw [listDocs, outcome_bind_ok hfolder]
  rfl

/-! ### Entries of a run -/

/-- The name of the folder that an operation works in; none is the root. -/
def folderName : Operation → Option String
  | .createDoc _ _ subfolder | .listDocs subfolder => subfolderName subfolder
  | _ => none

namespace Entry

/-- The documents that an entry has created. -/
def created (e : Entry) : List StoredDocument :=
  match e.operation, e.result with
  | .createDoc .., .ok _ => e.after.documents.drop e.before.documents.length
  | _, _ => []

/-- The documents that an entry has created in the folder of a name. -/
def createdIn (name : Option String) (e : Entry) : List StoredDocument :=
  if folderName e.operation = name then e.created else []

/-- The folder that an entry has worked in: the parent of the document that it has created, or the
folder that it has asked the store to list. -/
inductive WorksIn : Entry → String → Prop where
  | created {title content answer : String} {subfolder : Option String} {m m' : Memory}
      {d : StoredDocument} : m'.documents = m.documents ++ [d] → d.title = title →
      WorksIn ⟨.createDoc title content subfolder, .ok answer, m, m'⟩ d.parent
  | listed {subfolder : Option String} {m m' : Memory} {calls : List String} {id : String} :
      m'.calls = calls ++ ["list_documents " ++ id] →
      WorksIn ⟨.listDocs subfolder, .ok (listingText (m'.listing id)), m, m'⟩ id

/-- What an entry does to the folders: there is never one twice, and a new one is what its operation
has named. -/
structure KeepsFolders (root : String) (e : Entry) : Prop where
  unshared : e.after.Unshared
  added : e.after.folders = e.before.folders ∨ ∃ f,
    e.after.folders = e.before.folders ++ [f] ∧
      NewFolder root (folderName e.operation) e.before f

/-- What an entry does, and in which folder. -/
structure Files (root : String) (e : Entry) : Prop where
  keeps : e.KeepsFolders root
  worksIn : ∀ answer, e.result = .ok answer →
    ∃ id, e.after.folderFor? root (folderName e.operation) = some id ∧ e.WorksIn id
  documents : e.after.documents = e.before.documents ++ e.created
  parents : ∀ d ∈ e.created, e.after.folderFor? root (folderName e.operation) = some d.parent

variable {e : Entry} {id : String}

theorem KeepsFolders.isPrefix (h : e.KeepsFolders root) :
    e.before.folders <+: e.after.folders := by
  rcases h.added with hsame | ⟨f, hadded, -⟩
  · exact hsame ▸ List.prefix_refl _
  · exact hadded ▸ List.prefix_append _ _

/-- Of what an entry has created, a folder holds what was created under its name. -/
theorem Files.filter_created (h : e.Files root) (hn : FoldersNumbered n m) (hlt : n < UInt32.size)
    (hroot : ∀ k, 0 < k → k < UInt32.size → root ≠ numbered "folder" k)
    (hgrown : e.after.folders <+: m.folders) {name : Option String}
    (hid : m.folderFor? root name = some id) :
    e.created.filter (·.parent == id) = e.createdIn name := by
  have hparent : ∀ d ∈ e.created, d.parent = id ↔ folderName e.operation = name := by
    intro d hd
    have hown := folderFor?_of_prefix hgrown (h.parents d hd)
    constructor
    · rintro rfl
      exact folderFor?_injective hn hlt hroot hown hid
    · intro hname
      rw [hname, hid, Option.some.injEq] at hown
      exact hown.symm
  unfold createdIn
  split
  · next hname =>
    rw [List.filter_eq_self]
    intro d hd
    simpa using (hparent d hd).2 hname
  · next hname =>
    rw [List.filter_eq_nil_iff]
    intro d hd
    simpa using mt (hparent d hd).1 hname

end Entry

/-! ### The step -/

/-- A store in which the documents and folders are numbered and no folder is there twice. -/
structure Filed (n : Nat) (m : Memory) : Prop where
  documents : Numbered n m
  folders : FoldersNumbered n m
  unshared : m.Unshared

/-- A folder is found or created, and no folder is there twice. -/
theorem FolderFound.keepsFolders (hroot : rootFolder s = .ok root)
    (h : FolderFound s subfolder m parent m') (hm : m.Unshared) {e : Entry} (hbefore : e.before = m)
    (hafter : e.after.folders = m'.folders)
    (hname : folderName e.operation = subfolderName subfolder) : e.KeepsFolders root := by
  subst hbefore
  rcases h.folders hroot with hsame | ⟨f, hadded, hnew⟩
  · refine ⟨?_, .inl (hafter.trans hsame)⟩
    rw [Unshared, hafter, hsame]
    exact hm
  · refine ⟨hnew.unshared hm (hafter.trans hadded), .inr ⟨f, hafter.trans hadded, ?_⟩⟩
    rw [hname]
    exact hnew

/-- A listing works in its folder. -/
theorem files_listDocs (hroot : rootFolder s = .ok root) (hw : w.store.Unshared)
    (subfolder : Option String) : (entryOf s w (.listDocs subfolder)).Files root := by
  obtain ⟨parent, w₁, hfound, hlist⟩ := outcome_listDocs hroot subfolder w
  have hentry : entryOf s w (.listDocs subfolder) =
      ⟨.listDocs subfolder,
        .ok (listingText ((w₁.store.noted ("list_documents " ++ parent)).listing parent)), w.store,
        w₁.store.noted ("list_documents " ++ parent)⟩ := by
    rw [entryOf, Operation.run, outcome_bind_pure, hlist]
    rfl
  rw [hentry]
  refine ⟨hfound.keepsFolders hroot hw rfl rfl rfl, ?_, ?_, ?_⟩
  · intro answer _
    have hfor : w₁.store.folderFor? root (subfolderName subfolder) = some parent :=
      hfound.folderFor? hroot
    exact ⟨parent, hfor, .listed rfl⟩
  · exact hfound.documents.trans (List.append_nil _).symm
  · intro d hd
    cases hd

/-- A creation that fails changes nothing; one that succeeds has filed one document. -/
theorem files_createDoc (hroot : rootFolder s = .ok root) (hw : Numbered n w.store)
    (hunshared : w.store.Unshared) {title content : String} (subfolder : Option String)
    (hlt : n + drawn w.store
      (outcome ((Operation.createDoc title content subfolder).run store s) w).2.store <
        UInt32.size) :
    (entryOf s w (.createDoc title content subfolder)).Files root := by
  have heffect := effect_run hw _ hlt
  unfold entryOf
  generalize (outcome ((Operation.createDoc title content subfolder).run store s) w).1 = r
    at heffect
  generalize (outcome ((Operation.createDoc title content subfolder).run store s) w).2.store = m'
    at heffect
  cases heffect with
  | failed hcontent =>
    have hfolders := folders_of_content hcontent
    refine ⟨⟨?_, .inl hfolders⟩, ?_, ?_, ?_⟩
    · change (m'.folders.map _).Nodup
      rw [hfolders]
      exact hunshared
    · intro answer hanswer
      cases hanswer
    · exact (documents_of_content hcontent).trans (List.append_nil _).symm
    · intro d hd
      cases hd
  | read hop _ => cases hop
  | @created _ _ parent _ _ plan m₁ _ _ hfound hcontent =>
    have hdocuments : m'.documents =
        w.store.documents ++ [newDocument m₁ parent title content plan] := by
      rw [documents_of_content hcontent, ← hfound.documents]
    have hfolders : m'.folders = m₁.folders := (folders_of_content hcontent).trans rfl
    have hcreated : m'.documents.drop w.store.documents.length =
        [newDocument m₁ parent title content plan] := by
      rw [hdocuments, List.drop_left]
    have hfor : m'.folderFor? root (subfolderName subfolder) = some parent :=
      folderFor?_of_prefix (hfolders ▸ List.prefix_refl _) (hfound.folderFor? hroot)
    refine ⟨hfound.keepsFolders hroot hunshared rfl hfolders rfl, fun answer _ => ?_, ?_, ?_⟩
    · exact ⟨parent, hfor, .created hdocuments rfl⟩
    · change m'.documents = w.store.documents ++ m'.documents.drop w.store.documents.length
      rw [hcreated, hdocuments]
    · intro d hd
      change d ∈ m'.documents.drop w.store.documents.length at hd
      rw [hcreated, List.mem_singleton] at hd
      rw [hd]
      exact hfor

/-- **The step.** A creation or a listing works in the folder that its argument names. -/
theorem files_run (hroot : rootFolder s = .ok root) (h : Filed n w.store) {op : Operation}
    (hop : needsFolder op = true)
    (hlt : n + drawn w.store (outcome (op.run store s) w).2.store < UInt32.size) :
    (entryOf s w op).Files root ∧
      Filed (n + drawn w.store (outcome (op.run store s) w).2.store)
        (outcome (op.run store s) w).2.store := by
  have hfiles : (entryOf s w op).Files root := by
    cases op with
    | createDoc title content subfolder =>
      exact files_createDoc hroot h.documents h.unshared subfolder hlt
    | listDocs subfolder => exact files_listDocs hroot h.unshared subfolder
    | _ => cases hop
  exact ⟨hfiles, numbered_run h.documents op hlt,
    foldersNumbered_run h.documents h.folders op hlt, hfiles.keeps.unshared⟩

/-! ### The run -/

theorem finish_append (s : Settings) (w : World Memory) (ops later : List Operation) :
    finish s w (ops ++ later) = finish s (finish s w ops) later := by
  induction ops generalizing w with
  | nil => rfl
  | cons op ops ih => exact ih _

theorem history_append (s : Settings) (w : World Memory) (ops later : List Operation) :
    history s w (ops ++ later) = history s w ops ++ history s (finish s w ops) later := by
  induction ops generalizing w with
  | nil => rfl
  | cons op ops ih => exact congrArg (entryOf s w op :: ·) (ih _)

theorem drawnIn_append (es later : List Entry) :
    drawnIn (es ++ later) = drawnIn es + drawnIn later := by
  induction es with
  | nil => exact (Nat.zero_add _).symm
  | cons e es ih =>
    rw [List.cons_append, drawnIn, drawnIn, ih, Nat.add_assoc]

/-- What a run makes of a store whose documents are filed: they still are, the folders are only
added to, and the documents that its entries have created come behind those that were there. -/
structure FiledBy (root : String) (n : Nat) (es : List Entry) (m m' : Memory) : Prop where
  filed : Filed (n + drawnIn es) m'
  folders : m.folders <+: m'.folders
  documents : m'.documents = m.documents ++ es.flatMap Entry.created
  entries : ∀ e ∈ es, e.Files root ∧ e.after.folders <+: m'.folders

/-- Every entry of a run files its document. -/
theorem files_history (hroot : rootFolder s = .ok root) (h : Filed n w.store)
    {ops : List Operation} (hops : ∀ op ∈ ops, needsFolder op = true)
    (hlt : n + drawnIn (history s w ops) < UInt32.size) :
    FiledBy root n (history s w ops) w.store (finish s w ops).store := by
  -- The induction carries the number of ids drawn so far.
  induction ops generalizing n w with
  | nil => exact ⟨h, List.prefix_refl _, (List.append_nil _).symm, fun e he => nomatch he⟩
  | cons op ops ih =>
    have hsum : drawnIn (history s w (op :: ops)) =
        drawn w.store (outcome (op.run store s) w).2.store +
          drawnIn (history s (outcome (op.run store s) w).2 ops) := rfl
    rw [hsum] at hlt
    obtain ⟨hop, hrest⟩ := List.forall_mem_cons.1 hops
    obtain ⟨hfiles, hfiled⟩ := files_run hroot h hop (by omega)
    have hnext := ih hfiled hrest (by omega)
    refine ⟨?_, hfiles.keeps.isPrefix.trans hnext.folders, ?_, ?_⟩
    · rw [hsum, ← Nat.add_assoc]
      exact hnext.filed
    · rw [finish, hnext.documents, history, List.flatMap_cons, ← List.append_assoc]
      exact congrArg (· ++ _) hfiles.documents
    · intro e he
      rcases List.mem_cons.1 he with rfl | he
      · exact ⟨hfiles, hnext.folders⟩
      · exact hnext.entries e he

/-- The first part of a run files its documents, and the rest of it only adds folders. -/
theorem files_history_append (hroot : rootFolder s = .ok root) (h : Filed n w.store)
    {earlier later : List Operation} (hops : ∀ op ∈ earlier ++ later, needsFolder op = true)
    (hlt : n + drawnIn (history s w (earlier ++ later)) < UInt32.size) :
    FiledBy root n (history s w earlier) w.store (finish s w earlier).store ∧
      (finish s w earlier).store.folders <+: (finish s w (earlier ++ later)).store.folders := by
  obtain ⟨hearlier, hlater⟩ := List.forall_mem_append.1 hops
  rw [history_append, drawnIn_append] at hlt
  have hfirst := files_history hroot h hearlier (by omega)
  have hsecond := files_history hroot hfirst.filed hlater (by omega)
  rw [finish_append]
  exact ⟨hfirst, hsecond.folders⟩

/-- What the entries of a run have created is, in one folder, what they have created under its
name. -/
theorem FiledBy.filter_created {es : List Entry} (h : FiledBy root n es m m') {last : Memory}
    {k : Nat} (hlast : FoldersNumbered k last) (hk : k < UInt32.size)
    (hforeign : ∀ j, 0 < j → j < UInt32.size → root ≠ numbered "folder" j)
    (hgrown : m'.folders <+: last.folders) {name : Option String} {id : String}
    (hid : last.folderFor? root name = some id) :
    (es.flatMap Entry.created).filter (·.parent == id) = es.flatMap (·.createdIn name) := by
  rw [List.filter_flatMap]
  refine List.flatMap_congr fun e he => ?_
  obtain ⟨hfiles, hafter⟩ := h.entries e he
  exact hfiles.filter_created hlast hk hforeign (hafter.trans hgrown) hid

/-- A listing behind a run gives the documents that were in its folder before the run, and those
that were created under its name by the run. The folders are told apart by a later state. -/
theorem listing_filedBy (hroot : rootFolder s = .ok root) {es : List Entry}
    (h : FiledBy root n es m w.store) {last : Memory} {k : Nat} (hlast : FoldersNumbered k last)
    (hk : k < UInt32.size) (hforeign : ∀ j, 0 < j → j < UInt32.size → root ≠ numbered "folder" j)
    (hgrown : (finish s w [.listDocs subfolder]).store.folders <+: last.folders) :
    ∃ id listing, last.folderFor? root (subfolderName subfolder) = some id ∧
      (outcome (listDocs store s subfolder) w).1 = .ok listing ∧ (listing.map (·.id)).Nodup ∧
      listing.Perm ((m.documents.filter (·.parent == id) ++
        es.flatMap (·.createdIn (subfolderName subfolder))).map summary) := by
  obtain ⟨id, w₁, hfound, hlist⟩ := outcome_listDocs hroot subfolder w
  have hafter : (finish s w [.listDocs subfolder]).store.folders = w₁.store.folders := by
    rw [finish, finish, Operation.run, outcome_bind_pure, hlist]
    rfl
  rw [hafter] at hgrown
  have hbefore : w.store.folders <+: w₁.store.folders :=
    (hfound.keepsFolders hroot h.filed.unshared (e := ⟨.listDocs subfolder, .ok "", _, _⟩) rfl rfl
      rfl).isPrefix
  have hid : last.folderFor? root (subfolderName subfolder) = some id :=
    folderFor?_of_prefix hgrown (hfound.folderFor? hroot)
  have hperm : (w₁.store.listing id).Perm
      ((w₁.store.documents.filter (·.parent == id)).map summary) := List.mergeSort_perm _ _
  rw [hfound.documents] at hperm
  refine ⟨id, _, hid, congrArg Prod.fst hlist, ?_, ?_⟩
  · have hids : ((w.store.documents.filter (·.parent == id)).map summary).map (·.id) =
        (w.store.documents.filter (·.parent == id)).map (·.id) := List.map_map
    rw [(hperm.map _).nodup_iff, hids]
    exact h.filed.documents.distinct.sublist (List.filter_sublist.map _)
  · rw [h.documents, List.filter_append,
      h.filter_created hlast hk hforeign (hbefore.trans hgrown) hid] at hperm
    exact hperm

/-- **Folders are found or created, never twice, and they partition the documents.** Take a run of
creations and listings on a reachable store that has no folder twice, in which the clock does not
run over, and a root that is none of the folders that the store creates. No entry leaves a folder
there twice; an entry creates a folder only under the root, under the trimmed name that its argument
gives and that is not empty, if no folder has that name there; and what succeeds works in the folder
that this name stands for at the end of the run, whatever blanks the argument has around it, or in
the root if there is no name. Each listing gives, each once, the documents that were in its folder
at the start of the run and those that were created under its name since. -/
theorem subfolders_partition_documents {n : Nat} (hw : Reachable n w.store)
    (hunshared : w.store.Unshared) (hroot : s.rootFolder = some root) (hnonempty : root ≠ "")
    (hforeign : ∀ k, 0 < k → k < UInt32.size → root ≠ numbered "folder" k) {ops : List Operation}
    (hops : ∀ op ∈ ops, needsFolder op = true)
    (hdrawn : n + drawnIn (history s w ops) < UInt32.size) :
    (∀ e ∈ history s w ops, e.KeepsFolders root ∧ ∀ answer, e.result = .ok answer →
        ∃ id, (finish s w ops).store.folderFor? root (folderName e.operation) = some id ∧
          e.WorksIn id) ∧
      ∀ earlier subfolder later, ops = earlier ++ .listDocs subfolder :: later →
        ∃ id listing,
          (finish s w ops).store.folderFor? root (subfolderName subfolder) = some id ∧
          (outcome (listDocs store s subfolder) (finish s w earlier)).1 = .ok listing ∧
          (listing.map (·.id)).Nodup ∧
          listing.Perm ((w.store.documents.filter (·.parent == id) ++
            (history s w earlier).flatMap (·.createdIn (subfolderName subfolder))).map
              summary) := by
  have hfound := rootFolder_eq_ok hroot hnonempty
  have hfiled : Filed n w.store :=
    ⟨hw.numbered (by omega), hw.foldersNumbered (by omega), hunshared⟩
  have hrun := files_history hfound hfiled hops hdrawn
  constructor
  · intro e he
    obtain ⟨hfiles, hgrown⟩ := hrun.entries e he
    refine ⟨hfiles.keeps, fun answer hanswer => ?_⟩
    obtain ⟨id, hid, hworks⟩ := hfiles.worksIn answer hanswer
    exact ⟨id, folderFor?_of_prefix hgrown hid, hworks⟩
  · rintro earlier subfolder later rfl
    obtain ⟨hearlier, -⟩ := files_history_append hfound hfiled hops hdrawn
    have hsplit : earlier ++ .listDocs subfolder :: later =
        (earlier ++ [.listDocs subfolder]) ++ later := List.append_cons _ _ _
    have hgrown : (finish s (finish s w earlier) [.listDocs subfolder]).store.folders <+:
        (finish s w (earlier ++ .listDocs subfolder :: later)).store.folders := by
      rw [hsplit] at hops hdrawn ⊢
      rw [← finish_append s w earlier [.listDocs subfolder]]
      exact (files_history_append hfound hfiled hops hdrawn).2
    exact listing_filedBy hfound hearlier hrun.filed.folders hdrawn hforeign hgrown

/-- A folder under the root with a document in it. -/
def shelf : World Memory :=
  let (folder, m) := Memory.empty.addFolder "root" "Sub"
  ⟨(m.addDocument folder "Old" "" none).2, []⟩

/-- Creations in three folders, two of them named with blanks around. -/
def filing : List Operation :=
  [.createDoc "A" "x" (some " Sub\u3000"), .createDoc "B" "" (some " "),
    .createDoc "C" "*y*" (some "New ")]

/-- A document created in a folder whose name has blanks around is listed with those of the folder,
and what is created elsewhere is not. -/
theorem subfolders_partition_documents_blank :
    Reachable 2 shelf.store ∧ shelf.store.Unshared ∧
      (∀ op ∈ filing ++ [.listDocs (some "Sub")], needsFolder op = true) ∧
      2 + drawnIn (history ⟨some "root", 100⟩ shelf (filing ++ [.listDocs (some "Sub")])) <
        UInt32.size ∧
      ∃ listing, (outcome (listDocs store ⟨some "root", 100⟩ (some "Sub"))
          (finish ⟨some "root", 100⟩ shelf filing)).1 = .ok listing ∧
        (listing.map (·.id)).Perm ["doc-2", "doc-3"] := by
  have hreachable : Reachable 2 shelf.store :=
    .document "folder-1" "Old" "" none (.folder "root" "Sub" .empty)
  have hunshared : shelf.store.Unshared := by
    unfold Unshared
    decide
  have hops : ∀ op ∈ filing ++ [.listDocs (some "Sub")], needsFolder op = true := by decide
  have hdrawn : 2 + drawnIn
      (history ⟨some "root", 100⟩ shelf (filing ++ [.listDocs (some "Sub")])) < UInt32.size := by
    decide +kernel
  have hforeign : ∀ k, 0 < k → k < UInt32.size → "root" ≠ numbered "folder" k := by
    intro k _ _ h
    have hlists := congrArg String.toList h
    simp [numbered] at hlists
  obtain ⟨-, hlistings⟩ := subfolders_partition_documents hreachable hunshared
    (s := ⟨some "root", 100⟩) rfl (by decide) hforeign hops hdrawn
  obtain ⟨id, listing, hid, hlisting, -, hperm⟩ := hlistings filing (some "Sub") [] rfl
  refine ⟨hreachable, hunshared, hops, hdrawn, listing, hlisting, ?_⟩
  have hfolder : (finish ⟨some "root", 100⟩ shelf
      (filing ++ [.listDocs (some "Sub")])).store.folderFor? "root" (subfolderName (some "Sub")) =
        some "folder-1" := by
    decide +kernel
  rw [hfolder, Option.some.injEq] at hid
  subst hid
  have hids : (((shelf.store.documents.filter (·.parent == "folder-1")) ++
      (history ⟨some "root", 100⟩ shelf filing).flatMap
        (·.createdIn (subfolderName (some "Sub")))).map summary).map (·.id) =
          ["doc-2", "doc-3"] := by
    decide +kernel
  exact hids ▸ hperm.map (·.id)

end Scribe.Service
