import Scribe.Proofs.Store.Oblivious
import Scribe.Rpc.Message

/-!
# The service does not look at the events

Over an oblivious store the operations of the service are oblivious, and so is all that is built on
them: the calls of tools, and the handling of a line (`oblivious_handleLine`).
-/

namespace Scribe

open Scribe.Action

variable {σ : Type} {store : Store σ} {s : Settings}

namespace Service

theorem oblivious_folder (hs : store.Oblivious) (subfolder : Option String) :
    (folder store s subfolder).Oblivious := by
  refine (oblivious_ofExcept _).bind fun root => ?_
  split
  · exact Action.oblivious_pure _
  · next name _ =>
    refine (hs.findFolder root name).bind fun found => ?_
    split
    · exact Action.oblivious_pure _
    · exact (hs.createFolder root name).bind fun _ => (oblivious_report _ _ _).bind fun _ =>
        Action.oblivious_pure _

theorem oblivious_createDoc (hs : store.Oblivious) (title content : String)
    (subfolder : Option String) : (createDoc store s title content subfolder).Oblivious := by
  refine (oblivious_ofExcept _).bind fun _ => (oblivious_ofExcept _).bind fun plan =>
    (oblivious_folder hs subfolder).bind fun parent => (hs.createDocument parent title).bind
      fun id => (oblivious_report _ _ _).bind fun _ => ?_
  split
  · exact (oblivious_report _ _ _).bind fun _ => (hs.applyPlan id plan).bind fun _ =>
      Action.oblivious_pure _
  · exact Action.oblivious_pure _

theorem oblivious_updateDoc (hs : store.Oblivious) (reference content : String) (dryRun : Bool) :
    (updateDoc store s reference content dryRun).Oblivious := by
  refine (oblivious_ofExcept _).bind fun id => (hs.bodyEnd id).bind fun stop =>
    (oblivious_ofExcept _).bind fun plan => ?_
  split
  · exact (hs.exportHtml id).bind fun _ => Action.oblivious_pure _
  · split
    · exact (oblivious_report _ _ _).bind fun _ => (hs.applyPlan id plan).bind fun _ =>
        Action.oblivious_pure _
    · exact Action.oblivious_pure _

theorem oblivious_readDoc (hs : store.Oblivious) (reference : String) :
    (readDoc store reference).Oblivious :=
  (oblivious_ofExcept _).bind fun id => (hs.exportHtml id).bind fun _ => Action.oblivious_pure _

theorem oblivious_listDocs (hs : store.Oblivious) (subfolder : Option String) :
    (listDocs store s subfolder).Oblivious :=
  (oblivious_folder hs subfolder).bind fun parent => hs.listDocuments parent

theorem oblivious_getComments (hs : store.Oblivious) (reference : String) :
    (getComments store reference).Oblivious :=
  (oblivious_ofExcept _).bind fun id => hs.listComments id

theorem oblivious_replyToComment (hs : store.Oblivious) (reference comment content : String) :
    (replyToComment store reference comment content).Oblivious :=
  (oblivious_ofExcept _).bind fun id => (oblivious_ofExcept _).bind fun _ =>
    (oblivious_ofExcept _).bind fun _ => hs.createReply id comment content

theorem oblivious_resolveComment (hs : store.Oblivious) (reference comment : String) :
    (resolveComment store reference comment).Oblivious :=
  (oblivious_ofExcept _).bind fun id => (oblivious_ofExcept _).bind fun _ =>
    hs.resolveComment id comment

end Service

/-- The operations of the service are oblivious. -/
theorem oblivious_run (hs : store.Oblivious) (op : Operation) : (op.run store s).Oblivious := by
  cases op with
  | createDoc title content subfolder =>
    exact (Service.oblivious_createDoc hs title content subfolder).bind fun _ =>
      Action.oblivious_pure _
  | updateDoc document content dryRun =>
    exact (Service.oblivious_updateDoc hs document content dryRun).bind fun _ =>
      Action.oblivious_pure _
  | readDoc document => exact Service.oblivious_readDoc hs document
  | listDocs subfolder =>
    exact (Service.oblivious_listDocs hs subfolder).bind fun _ => Action.oblivious_pure _
  | getComments document =>
    exact (Service.oblivious_getComments hs document).bind fun _ => Action.oblivious_pure _
  | replyToComment document comment content =>
    exact (Service.oblivious_replyToComment hs document comment content).bind fun _ =>
      Action.oblivious_pure _
  | resolveComment document comment =>
    exact (Service.oblivious_resolveComment hs document comment).bind fun _ =>
      Action.oblivious_pure _

/-! ### Calls and lines -/

theorem Tool.oblivious_noteFailure (f : Fault) :
    Oblivious (noteFailure f : StateM (World σ) Unit) := by
  cases f with
  | crash c => exact oblivious_pure _
  | _ => exact Oblivious.bind (oblivious_report _ _ _) fun _ => oblivious_pure _

theorem Tool.oblivious_call (hs : store.Oblivious) (name : String) (arguments : Json.Value) :
    Oblivious (Tool.call store s name arguments) := by
  unfold Tool.call
  split
  · exact oblivious_pure _
  · refine Oblivious.bind (oblivious_report _ _ _) fun _ => ?_
    split
    · exact oblivious_pure _
    · split
      · exact oblivious_pure _
      · next op _ =>
        refine Oblivious.bind (Oblivious.bind (oblivious_run hs op) fun result => ?_) fun _ =>
          oblivious_pure _
        split
        · exact oblivious_pure _
        · exact Oblivious.bind (Tool.oblivious_noteFailure _) fun _ => oblivious_pure _

namespace Rpc

theorem oblivious_note (level : Log.Level) (message : String) :
    Oblivious (note level message : StateM (World σ) Unit) :=
  Oblivious.bind (oblivious_report _ _ _) fun _ => oblivious_pure _

theorem oblivious_dispatch (hs : store.Oblivious) (r : Request) :
    Oblivious (dispatch store s r) := by
  unfold dispatch
  split
  · exact oblivious_pure _
  · exact oblivious_pure _
  · exact oblivious_pure _
  · unfold callTool
    split
    · exact oblivious_pure _
    · refine Oblivious.bind (Tool.oblivious_call hs _ _) fun result => ?_
      split <;> exact oblivious_pure _
  · exact oblivious_pure _

theorem oblivious_handleMessage (hs : store.Oblivious) (message : Json.Value) :
    Oblivious (handleMessage store s message) := by
  unfold handleMessage
  dsimp only
  split
  · exact oblivious_pure _
  · next r _ =>
    split
    · exact Oblivious.bind (oblivious_note _ _) fun _ => oblivious_pure _
    · exact Oblivious.bind (oblivious_note _ _) fun _ =>
        Oblivious.bind (oblivious_dispatch hs r) fun _ => oblivious_pure _

/-- **The handling of a line is oblivious.** -/
theorem oblivious_handleLine (hs : store.Oblivious) (line : String) :
    Oblivious (handleLine store s line) := by
  unfold handleLine
  split
  · exact oblivious_handleMessage hs _
  · exact Oblivious.bind (oblivious_note _ _) fun _ => oblivious_pure _

end Rpc

end Scribe
