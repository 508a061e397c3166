import Scribe.Proofs.Service.Folders
import Scribe.Proofs.Tool.Catalogue

/-!
# What reading leaves alone

To read a document or its comments is no change of the store. A listing looks for its folder in the
way in which a creation does, so that a folder with a new name is there behind it; this folder
(`missingFolder?`) is all that a listing adds (`reading_adds_missing_folder_only`). A call of a tool
does to the store what its operation does.
-/

namespace Scribe.Service

open Scribe.Action Store Store.Memory Tool

variable {s : Settings} {w : World Memory} {m m' : Memory} {subfolder : Option String}

/-! ### The missing folder -/

/-- The folder that a listing adds: the one that its argument names, if there is a root and no folder
under it has the name. -/
def missingFolder? (s : Settings) (m : Memory) (subfolder : Option String) : Option Folder :=
  match rootFolder s, subfolderName subfolder with
  | .ok root, some name =>
    match m.folderNamed? root name with
    | some _ => none
    | none => some ⟨(m.addFolder root name).1, root, name⟩
  | _, _ => none

/-- The folder that a call for a listing adds. -/
def missingForCall? (s : Settings) (m : Memory) (arguments : Json.Value) : Option Folder :=
  match requested Tool.listDocs.name arguments with
  | .ok (.listDocs subfolder) => missingFolder? s m subfolder
  | _ => none

/-- The documents are as they were, and so are the folders but for one that may have come behind
them. -/
structure OnlyAdds (new : Option Folder) (m m' : Memory) : Prop where
  documents : m'.documents = m.documents
  folders : m'.folders = m.folders ++ new.toList

theorem missingFolder?_of_rootFolder_error {e : Fault} (hroot : rootFolder s = .error e) :
    missingFolder? s m subfolder = none := by
  rw [missingFolder?, hroot]

theorem FolderFound.folders_eq {parent : String} (h : FolderFound s subfolder m parent m') :
    m'.folders = m.folders ++ (missingFolder? s m subfolder).toList := by
  cases h with
  | root hroot hname hcontent =>
    rw [missingFolder?, hroot, hname]
    exact (folders_of_content hcontent).trans (List.append_nil _).symm
  | existing hroot hname hfound hcontent =>
    simp only [missingFolder?, hroot, hname, folderNamed?, hfound]
    exact (folders_of_content hcontent).trans (List.append_nil _).symm
  | new hroot hname hnone hcontent =>
    simp only [missingFolder?, hroot, hname, folderNamed?, hnone]
    exact folders_of_content hcontent

/-! ### The operations -/

/-- What leaves the whole content alone adds no folder. -/
theorem onlyAdds_of_preserves {α : Type} {a : Action Memory α} (h : Preserves content a)
    (w : World Memory) : OnlyAdds none w.store (outcome a w).2.store :=
  ⟨documents_of_content (h w), (folders_of_content (h w)).trans (List.append_nil _).symm⟩

theorem onlyAdds_listDocs (s : Settings) (subfolder : Option String) (w : World Memory) :
    OnlyAdds (missingFolder? s w.store subfolder) w.store
      (outcome (listDocs store s subfolder) w).2.store := by
  cases hroot : rootFolder s with
  | error e =>
    rw [missingFolder?_of_rootFolder_error hroot, listDocs, folder, outcome_bind, outcome_bind,
      outcome_ofExcept, hroot]
    exact ⟨rfl, (List.append_nil _).symm⟩
  | ok root =>
    obtain ⟨parent, w₁, hfound, hlist⟩ := outcome_listDocs hroot subfolder w
    rw [hlist]
    exact ⟨hfound.documents, hfound.folders_eq⟩

/-! ### The tools -/

/-- A call of a tool does to the store what its operation does, and nothing if it cannot be made. -/
theorem onlyAdds_call {t : Tool} {new : Option Folder} {arguments : Json.Value}
    (hok : ∀ args op, t.operation args = .ok op → requested t.name arguments = .ok op →
      OnlyAdds new w.store (outcome (op.run store s) (called t.name w)).2.store)
    (herror : ∀ f, requested t.name arguments = .error f → new = none) :
    OnlyAdds new w.store ((call store s t.name arguments).run w).2.store := by
  cases hop : requested t.name arguments with
  | error f =>
    obtain ⟨w', hstore, hcall⟩ := call_of_requested_error hop s w
    rw [hcall store, herror f hop, hstore]
    exact ⟨rfl, (List.append_nil _).symm⟩
  | ok op =>
    obtain ⟨output, w', hcall, hanswer⟩ := call_of_requested_ok hop store s w
    obtain ⟨args, -, hoperation⟩ := ok_of_bind hop
    rw [ofName?_eq_some_iff.2 rfl] at hoperation
    rw [hcall, (answer_of_outcome hanswer).2]
    exact hok args op hoperation hop

/-- A tool whose operations leave the content alone adds no folder. -/
theorem onlyAdds_call_of_preserves {t : Tool}
    (h : ∀ args op, t.operation args = .ok op → Preserves content (op.run store s))
    (w : World Memory) (arguments : Json.Value) :
    OnlyAdds none w.store ((call store s t.name arguments).run w).2.store :=
  onlyAdds_call (fun args op hop _ => onlyAdds_of_preserves (h args op hop) (called _ w))
    fun _ _ => rfl

theorem preserves_operation_readDoc {args : Arguments} {op : Operation}
    (hop : Tool.readDoc.operation args = .ok op) : Preserves content (op.run store s) := by
  obtain ⟨reference, -, hreference⟩ := ok_of_bind hop
  cases hreference
  exact preserves_readDoc reference

theorem preserves_operation_getComments {args : Arguments} {op : Operation}
    (hop : Tool.getComments.operation args = .ok op) : Preserves content (op.run store s) := by
  obtain ⟨reference, -, hreference⟩ := ok_of_bind hop
  cases hreference
  exact (preserves_getComments reference).bind fun _ => preserves_pure _

theorem onlyAdds_call_listDocs (s : Settings) (w : World Memory) (arguments : Json.Value) :
    OnlyAdds (missingForCall? s w.store arguments) w.store
      ((call store s Tool.listDocs.name arguments).run w).2.store := by
  refine onlyAdds_call (fun args op hop hrequested => ?_) fun f hrequested => ?_
  · obtain ⟨subfolder, -, hsubfolder⟩ := ok_of_bind hop
    cases hsubfolder
    rw [missingForCall?, hrequested, Operation.run, outcome_bind_pure]
    exact onlyAdds_listDocs s subfolder (called _ w)
  · rw [missingForCall?, hrequested]

/-! ### Reading -/

/-- **Reading adds the missing folder of a listing, and changes nothing else.** With every store,
settings and arguments, and whether it succeeds or fails, reading a document or its comments leaves
the folders and the documents as they were. A listing leaves them so, too, but if there is a root
and no folder under it has the trimmed name that the argument gives and that is not empty: then this
one folder comes behind the others. The same is true of the tools. -/
theorem reading_adds_missing_folder_only (s : Settings) (w : World Memory) :
    (∀ reference, OnlyAdds none w.store (outcome (readDoc store reference) w).2.store) ∧
      (∀ reference, OnlyAdds none w.store (outcome (getComments store reference) w).2.store) ∧
      (∀ subfolder, OnlyAdds (missingFolder? s w.store subfolder) w.store
        (outcome (listDocs store s subfolder) w).2.store) ∧
      ∀ arguments,
        OnlyAdds none w.store ((call store s Tool.readDoc.name arguments).run w).2.store ∧
        OnlyAdds none w.store ((call store s Tool.getComments.name arguments).run w).2.store ∧
        OnlyAdds (missingForCall? s w.store arguments) w.store
          ((call store s Tool.listDocs.name arguments).run w).2.store := by
  refine ⟨fun reference => ?_, fun reference => ?_, fun subfolder => ?_, fun arguments =>
    ⟨?_, ?_, ?_⟩⟩
  · exact onlyAdds_of_preserves (preserves_readDoc reference) w
  · exact onlyAdds_of_preserves (preserves_getComments reference) w
  · exact onlyAdds_listDocs s subfolder w
  · exact onlyAdds_call_of_preserves (fun _ _ => preserves_operation_readDoc) w arguments
  · exact onlyAdds_call_of_preserves (fun _ _ => preserves_operation_getComments) w arguments
  · exact onlyAdds_call_listDocs s w arguments

/-- A listing of a folder that is not there succeeds, and the store has the folder behind it. -/
theorem listing_creates_folder :
    (outcome (listDocs store ⟨some "root-folder", 100⟩ (some "Sub")) ⟨.empty, []⟩).1 = .ok [] ∧
      (outcome (listDocs store ⟨some "root-folder", 100⟩ (some "Sub"))
        ⟨.empty, []⟩).2.store.folders = [⟨"folder-1", "root-folder", "Sub"⟩] ∧
      Memory.empty.folders = [] :=
  ⟨congrArg Except.ok List.mergeSort_nil, rfl, rfl⟩

end Scribe.Service
