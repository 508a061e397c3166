import Scribe.Config.Layer
import Scribe.Proofs.Remote.Address
import Scribe.Proofs.Remote.Conversation
import Scribe.Tool.Call

/-!
# Which comment a request is about

The ids of a document and a comment are written into the address of a request as they are. The
path of the address spells them exactly if they are kept by an address (`Remark.Keeps`), and then
no other ids have the same address (`remarks_apart`). Ids that are not kept can name something else:
two dots lead out of the document.
-/

namespace Scribe.Service

open Scribe.Action Remote
open Remote.Address (Open Spells Tame Unbroken isOuter namesText pathText)

variable {r : Site} {base : Address} {token : String} {s : Settings}

/-! ### Sites -/

/-- The files of a site are at an address. -/
structure FilesAt (r : Site) (base : Address) : Prop where
  parsed : Address.parse? (r.files ++ "/files") = some base
  plain : ∀ c ∈ r.files.toList, c ≠ '#' ∧ c ≠ '?'
  path : ∃ front, base.path = front ++ "/files"

theorem plain_of_all {cs : List Char} (h : (cs.all fun c => c != '#' && c != '?') = true) :
    ∀ c ∈ cs, c ≠ '#' ∧ c ≠ '?' := by
  simpa using h

theorem getLast?_append_files (front : String) :
    (front ++ "/files").toList.getLast? = some 's' := by
  rw [String.toList_append, List.getLast?_append_of_ne_nil _ (by decide)]
  rfl

/-- Paths go on behind the address of the files. -/
theorem FilesAt.isOpen (h : FilesAt r base) : Open (r.files ++ "/files") base := by
  obtain ⟨front, hpath⟩ := h.path
  refine ⟨h.parsed, ?_, ?_, ?_⟩
  · rw [String.toList_append, List.forall_mem_append]
    exact ⟨h.plain, plain_of_all (by decide)⟩
  · rw [getLast?_append_files]
    rintro c ⟨⟩
    rfl
  · rw [hpath, getLast?_append_files]
    decide

/-! ### Remarks -/

/-- What is done to a comment. -/
inductive Remark where
  | reply (content : String)
  | resolve
  deriving DecidableEq

namespace Remark

/-- The operation on a comment, with a reference to its document. -/
def operation (reference comment : String) : Remark → Operation
  | reply content => .replyToComment reference comment content
  | resolve => .resolveComment reference comment

/-- What the service is asked for. -/
def call (document comment : String) : Remark → Call
  | reply content => .createReply document comment content
  | resolve => .resolveComment document comment

/-- What the path of the address should name behind the files. -/
def names (document comment : String) : Remark → List String
  | reply _ => [document, "comments", comment, "replies"]
  | resolve => [document, "comments", comment]

/-- The arguments are accepted, and the reference is to a document. -/
structure Accepts (k : Remark) (reference comment document : String) : Prop where
  resolved : Document.resolve reference = .ok document
  comment_given : Text.allBlank comment = false
  content_given : ∀ content, k = reply content → Text.allBlank content = false

/-- An address keeps the ids. Only the id at its end must not end in a blank or a control. -/
structure Keeps (k : Remark) (document comment : String) : Prop where
  tame_document : Tame document
  tame_comment : Tame comment
  ending : k = resolve → ∀ c ∈ comment.toList.getLast?, isOuter c = false

variable {k k' : Remark} {reference comment document reference' comment' document' : String}

/-! ### Addresses -/

/-- What stands in the address behind the files. -/
def behindFiles (k : Remark) (document comment : String) : String :=
  .ofList (namesText (k.names document comment))

theorem url_question (k : Remark) (document comment : String) :
    ((k.call document comment).question r).url =
      r.files ++ "/files" ++ k.behindFiles document comment := by
  cases k <;> simp [call, Call.question, replyQuestion, resolveQuestion, behindFiles, names,
    namesText, pathText, ← String.toList_inj]

theorem names_ne_nil (k : Remark) (document comment : String) : k.names document comment ≠ [] := by
  cases k <;> exact List.cons_ne_nil _ _

theorem tame_comments : Tame "comments" := by decide

theorem tame_replies : Tame "replies" := by decide

/-- A slash is no blank. -/
theorem ending_iff (front back : List Char) :
    (∀ c ∈ (front ++ '/' :: back).getLast?, isOuter c = false) ↔
      ∀ c ∈ back.getLast?, isOuter c = false := by
  rw [List.getLast?_append_of_ne_nil _ (List.cons_ne_nil _ _)]
  cases back with
  | nil => exact iff_of_true (by rintro c ⟨⟩; rfl) (by rintro c ⟨⟩)
  | cons d back => rw [List.getLast?_cons_cons]

theorem keeps_iff : k.Keeps document comment ↔
    (∀ name ∈ k.names document comment, Tame name) ∧
      ∀ c ∈ (k.behindFiles document comment).toList.getLast?, isOuter c = false := by
  rw [behindFiles, String.toList_ofList]
  cases k with
  | reply content =>
    have hlast : namesText [document, "comments", comment, "replies"] =
        namesText [document, "comments", comment] ++ '/' :: "replies".toList := by
      simp [namesText, pathText]
    simp only [names, List.forall_mem_cons]
    rw [hlast, ending_iff]
    constructor
    · rintro ⟨hdocument, hcomment, -⟩
      exact ⟨⟨hdocument, tame_comments, hcomment, tame_replies, List.forall_mem_nil _⟩,
        by rintro c ⟨⟩; rfl⟩
    · rintro ⟨⟨hdocument, -, hcomment, -⟩, -⟩
      exact ⟨hdocument, hcomment, by rintro ⟨⟩⟩
  | resolve =>
    have hlast : namesText [document, "comments", comment] =
        namesText [document, "comments"] ++ '/' :: comment.toList := by
      simp [namesText, pathText]
    simp only [names, List.forall_mem_cons]
    rw [hlast, ending_iff]
    constructor
    · rintro ⟨hdocument, hcomment, hending⟩
      exact ⟨⟨hdocument, tame_comments, hcomment, List.forall_mem_nil _⟩, hending rfl⟩
    · rintro ⟨⟨hdocument, -, hcomment, -⟩, hending⟩
      exact ⟨hdocument, hcomment, fun _ => hending⟩

/-- The path of the address of a request spells the ids exactly if they are kept. -/
theorem spells_iff (hfiles : FilesAt r base) {a : Address}
    (ha : Address.parse? (r.files ++ "/files" ++ k.behindFiles document comment) = some a) :
    Spells base.path (k.names document comment) a.path ↔ k.Keeps document comment := by
  have hz : (k.behindFiles document comment).toList = namesText (k.names document comment) :=
    String.toList_ofList
  have hne := k.names_ne_nil document comment
  rw [keeps_iff]
  constructor
  · exact hfiles.isOpen.tame_of_spells hne hz ha
  · rintro ⟨htame, hlast⟩
    exact hfiles.isOpen.spells_of_tame hne hz ha htame hlast

end Remark

/-! ### Requests -/

/-- An operation sends one request, once it has got a token. -/
def Sends (r : Site) (token : String) (s : Settings) (op : Operation) (request : Request) : Prop :=
  ∀ {ρ : Type} (t : Transport ρ) (w w₁ : World (Connection ρ)),
    outcome (currentToken t r.credentials) w = (.ok token, w₁) → ∃ call answer,
      Conversation r t token w₁.store.transport [⟨call, request, answer⟩]
        (outcome (op.run (store r t) s) w).2.store.transport

namespace Remark

variable {k k' : Remark} {reference comment document reference' comment' document' : String}

/-- Behind the checks an operation only asks the service. -/
theorem outcome_run (h : k.Accepts reference comment document) {ρ : Type} (t : Transport ρ)
    (w : World (Connection ρ)) :
    (outcome ((k.operation reference comment).run (store r t) s) w).2 =
      (outcome (ask r t ((k.call document comment).question r)) w).2 := by
  have hresolved : outcome (ofExcept (Document.resolve reference)) w = (.ok document, w) := by
    rw [outcome_ofExcept, h.resolved]
  have hcomment : outcome (ofExcept (requireText "comment_id" comment)) w = (.ok (), w) := by
    rw [outcome_ofExcept, requireText, h.comment_given]
    rfl
  cases k with
  | reply content =>
    have hcontent : outcome (ofExcept (requireText "reply" content)) w = (.ok (), w) := by
      rw [outcome_ofExcept, requireText, h.content_given content rfl]
      rfl
    rw [operation, Operation.run, outcome_bind_pure, replyToComment, outcome_bind_ok hresolved,
      outcome_bind_ok hcomment, outcome_bind_ok hcontent]
    change (outcome (ask r t _ >>= fun _ => pure ()) w).2 = _
    rw [outcome_bind_pure]
    rfl
  | resolve =>
    rw [operation, Operation.run, outcome_bind_pure, resolveComment, outcome_bind_ok hresolved,
      outcome_bind_ok hcomment]
    change (outcome (ask r t _ >>= fun _ => pure ()) w).2 = _
    rw [outcome_bind_pure]
    rfl

theorem sends (h : k.Accepts reference comment document) {request : Request}
    (hrequest : ((k.call document comment).question r).request? token = some request) :
    Sends r token s (k.operation reference comment) request := by
  intro ρ t w w₁ hw
  obtain ⟨answer, p, hsend⟩ : ∃ answer p, (t.send request).run w₁.store.transport = (answer, p) :=
    ⟨_, _, rfl⟩
  obtain ⟨-, hstore⟩ := outcome_ask_of_token hw hrequest hsend
  rw [outcome_run h, hstore]
  exact ⟨_, answer.settled, .cons hrequest hsend rfl (.nil p)⟩

/-- There is a request for all ids, and its path spells them exactly if they are kept. -/
theorem exists_request (hfiles : FilesAt r base) (htoken : (bearer? token).isSome = true)
    (k : Remark) (document comment : String) :
    ∃ request, ((k.call document comment).question r).request? token = some request ∧
      (Spells base.path (k.names document comment) request.address.path ↔
        k.Keeps document comment) := by
  obtain ⟨authorization, hauthorization⟩ := Option.isSome_iff_exists.1 htoken
  obtain ⟨a, ha⟩ := hfiles.isOpen.exists_parse (k.behindFiles document comment)
    (by rw [behindFiles, String.toList_ofList]; cases k <;> rfl)
  have hrequest : ((k.call document comment).question r).request? token =
      some ⟨((k.call document comment).question r).method,
        a.withParams ((k.call document comment).question r).params, some authorization,
        ((k.call document comment).question r).body⟩ := by
    rw [Question.request?, url_question, ha, hauthorization]
    rfl
  refine ⟨_, hrequest, ?_⟩
  rw [Address.path_withParams]
  exact spells_iff hfiles ha

/-- **Requests about different comments have different addresses if these keep the ids, and
an address names its comment only then.** -/
theorem remarks_apart (hfiles : FilesAt r base) (htoken : (bearer? token).isSome = true)
    (h : k.Accepts reference comment document) (h' : k'.Accepts reference' comment' document') :
    ∃ request request', Sends r token s (k.operation reference comment) request ∧
      Sends r token s (k'.operation reference' comment') request' ∧
      (Spells base.path (k.names document comment) request.address.path ↔
        k.Keeps document comment) ∧
      (k.Keeps document comment → k'.Keeps document' comment' →
        document ≠ document' ∨ comment ≠ comment' → request.address ≠ request'.address) := by
  obtain ⟨request, hrequest, hspells⟩ := exists_request hfiles htoken k document comment
  obtain ⟨request', hrequest', hspells'⟩ := exists_request hfiles htoken k' document' comment'
  refine ⟨request, request', sends h hrequest, sends h' hrequest', hspells, ?_⟩
  intro hkeeps hkeeps' hdifferent haddress
  have hnames : k.names document comment = k'.names document' comment' := by
    refine (hspells.2 hkeeps).unique ?_
    rw [haddress]
    exact hspells'.2 hkeeps'
  cases k <;> cases k' <;> simp_all [names]

/-- The site of the service itself, with a token that was handed over. -/
def openSite : Site :=
  .new Config.Layer.defaultDocsEndpoint Config.Layer.defaultDriveEndpoint (.accessToken "t")

theorem filesAt_openSite : FilesAt openSite
    ⟨true, none, "www.googleapis.com", 443, "/drive/v3/files", none⟩ :=
  ⟨by decide +kernel, plain_of_all (by decide +kernel), "/drive/v3", by decide⟩

theorem accepts_reply {reference comment document : String}
    (hresolved : Document.resolve reference = .ok document)
    (hcomment : Text.allBlank comment = false) :
    (reply "Done.").Accepts reference comment document :=
  ⟨hresolved, hcomment, by rintro _ ⟨⟩; decide⟩

/-- Replies to two comments on a document. -/
theorem remarks_apart_replies :
    FilesAt openSite ⟨true, none, "www.googleapis.com", 443, "/drive/v3/files", none⟩ ∧
      (bearer? "t").isSome = true ∧ (reply "Done.").Accepts "a" "b" "a" ∧
      (reply "Done.").Accepts "a" "c" "a" ∧
      ∃ request request',
        Sends openSite "t" ⟨none, 0⟩ (.replyToComment "a" "b" "Done.") request ∧
        Sends openSite "t" ⟨none, 0⟩ (.replyToComment "a" "c" "Done.") request' ∧
        Spells "/drive/v3/files" ["a", "comments", "b", "replies"] request.address.path ∧
        request.address ≠ request'.address := by
  have htoken : (bearer? "t").isSome = true := by decide
  have hb : (reply "Done.").Accepts "a" "b" "a" := accepts_reply (by rfl) (by decide)
  have hc : (reply "Done.").Accepts "a" "c" "a" := accepts_reply (by rfl) (by decide)
  obtain ⟨request, request', hsends, hsends', hspells, hapart⟩ :=
    remarks_apart (s := ⟨none, 0⟩) filesAt_openSite htoken hb hc
  have hkeepsb : (reply "Done.").Keeps "a" "b" := ⟨by decide, by decide, by rintro ⟨⟩⟩
  have hkeepsc : (reply "Done.").Keeps "a" "c" := ⟨by decide, by decide, by rintro ⟨⟩⟩
  exact ⟨filesAt_openSite, htoken, hb, hc, request, request', hsends, hsends', hspells.2 hkeepsb,
    hapart hkeepsb hkeepsc (.inr (by decide))⟩

/-- Two dots lead out of a document: with such an id a reply goes to a comment on another one. -/
theorem replies_confused :
    (reply "Done.").Accepts "a" "../../b/comments/c" "a" ∧ (reply "Done.").Accepts "b" "c" "b" ∧
      ∃ request, request.address.path = "/drive/v3/files/b/comments/c/replies" ∧
        Sends openSite "t" ⟨none, 0⟩ (.replyToComment "a" "../../b/comments/c" "Done.") request ∧
        Sends openSite "t" ⟨none, 0⟩ (.replyToComment "b" "c" "Done.") request := by
  have hdots : (reply "Done.").Accepts "a" "../../b/comments/c" "a" :=
    accepts_reply (by rfl) (by decide)
  have hplain : (reply "Done.").Accepts "b" "c" "b" := accepts_reply (by rfl) (by decide)
  have hsame : (((reply "Done.").call "a" "../../b/comments/c").question openSite).request? "t" =
      (((reply "Done.").call "b" "c").question openSite).request? "t" := by
    decide +kernel
  have hpath : ((((reply "Done.").call "b" "c").question openSite).request? "t").map
      (·.address.path) = some "/drive/v3/files/b/comments/c/replies" := by
    decide +kernel
  obtain ⟨request, hrequest, hpath⟩ := Option.map_eq_some_iff.1 hpath
  exact ⟨hdots, hplain, request, hpath, sends hdots (hsame.trans hrequest), sends hplain hrequest⟩

end Remark

end Scribe.Service
