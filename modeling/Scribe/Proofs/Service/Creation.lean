import Scribe.Proofs.Document.Reference
import Scribe.Proofs.Service.Folders

/-!
# The creation of a document

A creation adds exactly the document that it reports (`creation_adds_what_it_reports`). The document
stands behind those that were there, in the folder that the argument names, and it holds the
compiled content; beside it, a folder is added at most. What is reported names the document from
then on: its URL, with any blanks in front of it and anything behind it, leads to its id, and no
later run puts another document under that id.
-/

namespace Scribe.Store.Memory

open Document

/-- What is numbered is an id that a URL can hold. -/
theorem isId_numbered {start : String} (h : ∀ c ∈ start.toList, isIdChar c = true) (k : Nat) :
    IsId (numbered start k) := by
  constructor
  · intro hnil
    have hlist := congrArg String.toList hnil
    simp [numbered] at hlist
  · intro c hc
    simp only [numbered, String.toList_append, List.mem_append] at hc
    rcases hc with (hc | hc) | hc
    · exact h c hc
    · rw [List.mem_singleton.1 hc]
      rfl
    · rw [Nat.toString_eq_repr, Nat.toList_repr] at hc
      have hdigit := Nat.isDigit_of_mem_toDigits (by decide) (by decide) hc
      simp [isIdChar, Char.isAlphanum, hdigit]

/-- Documents and folders have no ids in common. -/
theorem numbered_doc_ne_folder (j k : Nat) : numbered "doc" j ≠ numbered "folder" k :=
  numbered_ne rfl rfl (by decide) j k

end Scribe.Store.Memory

namespace Scribe

/-- The same operation on the document of another reference. -/
def Operation.addressedTo (reference : String) : Operation → Operation
  | .updateDoc _ content dryRun => .updateDoc reference content dryRun
  | .readDoc _ => .readDoc reference
  | .getComments _ => .getComments reference
  | .replyToComment _ comment content => .replyToComment reference comment content
  | .resolveComment _ comment => .resolveComment reference comment
  | op => op

end Scribe

namespace Scribe.Service

open Text Edit Scribe.Action Store Store.Memory

/-! ### References -/

/-- All that an operation makes of a reference is what it resolves to, on any store. -/
theorem run_addressedTo {σ : Type} (store : Store σ) (s : Settings) {a b : String}
    (h : Document.resolve a = Document.resolve b) (op : Operation) :
    (op.addressedTo a).run store s = (op.addressedTo b).run store s := by
  cases op with
  | createDoc => rfl
  | listDocs => rfl
  | updateDoc => simp only [Operation.addressedTo, Operation.run, updateDoc, h]
  | readDoc => simp only [Operation.addressedTo, Operation.run, readDoc, h]
  | getComments => simp only [Operation.addressedTo, Operation.run, getComments, h]
  | replyToComment => simp only [Operation.addressedTo, Operation.run, replyToComment, h]
  | resolveComment => simp only [Operation.addressedTo, Operation.run, resolveComment, h]

/-- Whether a URL, with any blanks in front of it and anything behind it, leads to an id. -/
structure LeadsTo (url id : String) : Prop where
  resolve {front : String} (tail : String) : allBlank front = true →
    Document.resolve (front ++ url ++ tail) = .ok id
  run {σ : Type} (store : Store σ) (s : Settings) {front : String} (tail : String)
    (op : Operation) : allBlank front = true →
    (op.addressedTo (front ++ url ++ tail)).run store s = (op.addressedTo id).run store s

theorem leadsTo_url {id : String} (h : Document.IsId id) : LeadsTo (Document.url id) id where
  resolve := fun tail hfront => h.resolve_url hfront tail
  run := fun store s _ tail op hfront =>
    run_addressedTo store s ((h.resolve_url hfront tail).trans h.resolve.symm) op

/-! ### The new document -/

/-- What the creation of a document makes of a store. -/
structure Adds (s : Settings) (root title content : String) (subfolder : Option String)
    (m m' : Memory) (d : StoredDocument) : Prop where
  documents : m'.documents = m.documents ++ [d]
  folders : m'.folders = m.folders ∨
    ∃ f, m'.folders = m.folders ++ [f] ∧ NewFolder root (subfolderName subfolder) m f
  fresh : d.id ∉ m.documents.map (·.id) ∧ d.id ∉ m'.folders.map (·.id)
  parent : m'.folderFor? root (subfolderName subfolder) = some d.parent
  title : d.title = title
  body : d.body = (compile content).text
  batches : ∃ plan, Plan.forNew content s.maxContentUnits = .ok plan ∧ d.batches = sent plan
  comments : d.comments = []

variable {s : Settings} {w w' : World Memory} {n : Nat} {root title content parent : String}
  {subfolder : Option String} {plan : Plan}

/-- The document that is added in the folder that was found is a new one. -/
theorem adds_newDocument {m m₁ m' : Memory} (hroot : rootFolder s = .ok root)
    (hnext : Numbered n m') (hfolders : FoldersNumbered n m')
    (hplan : Plan.forNew content s.maxContentUnits = .ok plan)
    (hfound : FolderFound s subfolder m parent m₁)
    (hcontent : m'.content = Memory.content { m₁.ticked with
      documents := m₁.documents ++ [newDocument m₁ parent title content plan] }) :
    Adds s root title content subfolder m m' (newDocument m₁ parent title content plan) := by
  have hdocuments : m'.documents = m.documents ++ [newDocument m₁ parent title content plan] := by
    rw [documents_of_content hcontent, ← hfound.documents]
  have hsame : m'.folders = m₁.folders := (folders_of_content hcontent).trans rfl
  refine ⟨hdocuments, ?_, ⟨?_, ?_⟩, ?_, rfl, rfl, ⟨plan, hplan, rfl⟩, rfl⟩
  · rw [hsame]
    exact hfound.folders hroot
  · -- The documents behind the creation have different ids, and the new one is the last of them.
    have hdistinct := hnext.distinct
    rw [hdocuments, List.map_append, List.nodup_append] at hdistinct
    intro hmem
    exact hdistinct.2.2 _ hmem _ (List.mem_singleton_self _) rfl
  · intro hmem
    obtain ⟨k, -, -, hid⟩ := hfolders.numbered _ hmem
    exact numbered_doc_ne_folder _ k hid
  · exact folderFor?_of_prefix (hsame ▸ List.prefix_refl _) (hfound.folderFor? hroot)

/-- **A creation adds exactly what it reports.** On every reachable store, with a root, a title that
is not blank and a content within the limit, it succeeds, with the title as it was given and a URL
that leads to the id. As long as the clock has not run over, the store has gained one document, of
that id, and a folder at most (`Adds`); and in every later run the document of that id is this very
one: it is held through the run, and each entry writes to it what is addressed to it. -/
theorem creation_adds_what_it_reports (hw : Reachable n w.store)
    (hroot : s.rootFolder = some root) (hnonempty : root ≠ "") (htitle : allBlank title = false)
    (hcontent : units content ≤ s.maxContentUnits) (subfolder : Option String) :
    ∃ created w', outcome (createDoc store s title content subfolder) w = (.ok created, w') ∧
      created.title = title ∧ LeadsTo created.url created.id ∧
      (n + drawn w.store w'.store < UInt32.size →
        ∃ d, d.id = created.id ∧ Adds s root title content subfolder w.store w'.store d ∧
          ∀ (s' : Settings) (later : List Operation),
            n + drawn w.store w'.store + drawnIn (history s' w' later) < UInt32.size →
            (∃ d', (finish s' w' later).store.Holds d' ∧ Continues (history s' w' later) d d') ∧
              ∀ e ∈ history s' w' later, ∃ d₀ d₁, d₀.id = d.id ∧ e.before.Holds d₀ ∧
                e.after.Holds d₁ ∧ e.Writes s' d₀ d₁) := by
  have hfound := rootFolder_eq_ok hroot hnonempty
  have hrequire : requireText "document title" title = .ok () := by
    rw [requireText, htitle]
    rfl
  have hplan : Plan.forNew content s.maxContentUnits = .ok (compile content).requests :=
    Plan.forNew_eq_ok_iff.2 ⟨hcontent, rfl⟩
  obtain ⟨parent, w₁, hfolder, hparent⟩ := outcome_folder_of_root hfound subfolder w
  obtain ⟨w', hcreate⟩ := outcome_createDoc_of_folder hrequire hplan hfolder
  have hdoc : ∀ c ∈ "doc".toList, Document.isIdChar c = true := List.all_eq_true.1 (by decide)
  refine ⟨_, w', hcreate, rfl, leadsTo_url (isId_numbered hdoc _), fun hdrawn => ?_⟩
  have hafter : (outcome ((Operation.createDoc title content subfolder).run store s) w).2 = w' := by
    rw [Operation.run, outcome_bind_pure, hcreate]
  have hlt : n + drawn w.store
      (outcome ((Operation.createDoc title content subfolder).run store s) w).2.store <
        UInt32.size := by
    rw [hafter]
    exact hdrawn
  have hn : Numbered n w.store := hw.numbered (by omega)
  have hnext := numbered_run hn _ hlt
  have hfolders := foldersNumbered_run hn (hw.foldersNumbered (by omega)) _ hlt
  rw [hafter] at hnext hfolders
  obtain ⟨w'', hsame, hstore⟩ := outcome_createDoc hn hrequire hplan hfolder hparent
    (by rw [hcreate]; exact hdrawn)
  rw [hcreate, Prod.mk.injEq] at hsame
  rw [← hsame.2] at hstore
  have hadds := adds_newDocument hfound hnext hfolders hplan hparent hstore
  refine ⟨_, rfl, hadds, fun s' later hlater => ?_⟩
  refine follows_history hnext later hlater (hnext.holds ?_)
  rw [hadds.documents]
  exact List.mem_append_right _ (List.mem_singleton_self _)

/-- A creation in a new folder. -/
def noting : Action Memory Created :=
  createDoc store ⟨some "root", 100⟩ " Notes " "# 😀" (some "Other\u3000")

/-- An update of what it has created, addressed by the URL with a fragment. -/
def noteUpdate : Operation :=
  .updateDoc "\thttps://docs.google.com/document/d/doc-4/edit#heading=h.1" "*x*" false

/-- A document that was created in a new folder has an id of its own, is filled, and its URL leads to
it. -/
theorem creation_adds_what_it_reports_noted :
    Reachable 2 shelf.store ∧ "root" ≠ "" ∧ allBlank " Notes " = false ∧ units "# 😀" ≤ 100 ∧
      2 + drawn shelf.store (outcome noting shelf).2.store +
          drawnIn (history ⟨some "root", 100⟩ (outcome noting shelf).2 [noteUpdate]) <
        UInt32.size ∧
      ∃ created d d₁, (outcome noting shelf).1 = .ok created ∧ d.id = created.id ∧
        Document.resolve ("\t" ++ created.url ++ "#heading=h.1") = .ok created.id ∧
        (outcome noting shelf).2.store.documents = shelf.store.documents ++ [d] ∧
        d.id ∉ shelf.store.documents.map (·.id) ∧
        d.id ∉ (outcome noting shelf).2.store.folders.map (·.id) ∧
        (finish ⟨some "root", 100⟩ (outcome noting shelf).2 [noteUpdate]).store.Holds d₁ ∧
        d₁.id = d.id ∧ d₁.title = " Notes " := by
  have hreachable : Reachable 2 shelf.store :=
    .document "folder-1" "Old" "" none (.folder "root" "Sub" .empty)
  have htitle : allBlank " Notes " = false := by decide
  have hcontent : units "# 😀" ≤ 100 := by decide
  have hlater : 2 + drawn shelf.store (outcome noting shelf).2.store +
      drawnIn (history ⟨some "root", 100⟩ (outcome noting shelf).2 [noteUpdate]) <
        UInt32.size := by
    decide +kernel
  obtain ⟨created, w', hcreate, -, hleads, hadds⟩ := creation_adds_what_it_reports
    (s := ⟨some "root", 100⟩) hreachable rfl (by decide) htitle hcontent (some "Other\u3000")
  change outcome noting shelf = _ at hcreate
  have hw' : w' = (outcome noting shelf).2 := (congrArg Prod.snd hcreate).symm
  subst hw'
  obtain ⟨d, hid, hnew, hhistory⟩ := hadds (by omega)
  obtain ⟨⟨d₁, hholds, hcontinues⟩, -⟩ := hhistory ⟨some "root", 100⟩ [noteUpdate] hlater
  exact ⟨hreachable, by decide, htitle, hcontent, hlater, created, d, d₁,
    congrArg Prod.fst hcreate, hid, hleads.resolve _ (by decide), hnew.documents, hnew.fresh.1,
    hnew.fresh.2, hholds, hcontinues.id, hcontinues.title.trans hnew.title⟩

end Scribe.Service
