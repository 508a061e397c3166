import Scribe.Proofs.Service.Reachable

/-!
# The history of a document

A run carries out operations of the service one after the other, whether they succeed or fail. This
module follows one document through a run (`history_of_document`). Only what is addressed to the
document changes it: its body and its batches are those of the successful updates that name it, and
each of its comments gathers the replies and resolutions that name the document and the comment. An
id of comments that several comments share names the first of them.

The step is one operation, with the cases of its effect; the run is an induction on the operations,
which carries along that the documents are numbered.
-/

namespace Scribe.Service

open Edit Scribe.Action Store Store.Memory

/-! ### Runs -/

/-- An operation of a run: how it ended, and the store before and behind it. -/
structure Entry where
  operation : Operation
  result : Except Fault String
  before : Memory
  after : Memory

/-- An operation on a world. -/
def entryOf (s : Settings) (w : World Memory) (op : Operation) : Entry :=
  ⟨op, (outcome (op.run store s) w).1, w.store, (outcome (op.run store s) w).2.store⟩

/-- The entries of a run. -/
def history (s : Settings) : World Memory → List Operation → List Entry
  | _, [] => []
  | w, op :: ops => entryOf s w op :: history s (outcome (op.run store s) w).2 ops

/-- The world that a run leaves. -/
def finish (s : Settings) : World Memory → List Operation → World Memory
  | w, [] => w
  | w, op :: ops => finish s (outcome (op.run store s) w).2 ops

/-- How many ids the entries of a run have drawn. -/
def drawnIn : List Entry → Nat
  | [] => 0
  | e :: es => drawn e.before e.after + drawnIn es

/-! ### What is addressed to a document -/

/-- Whether a reference names a document. -/
def names (reference id : String) : Bool :=
  match Document.resolve reference with
  | .ok found => found == id
  | .error _ => false

namespace Entry

/-- The content of a successful update of a document, if the entry is one and not a dry run. -/
def update? (id : String) (e : Entry) : Option String :=
  match e.operation, e.result with
  | .updateDoc reference content false, .ok _ => if names reference id then some content else none
  | _, _ => none

/-- The content of a successful reply to the `i`-th comment on a document, if the entry is one. -/
def reply? (id : String) (comments : List Comment) (i : Nat) (e : Entry) : Option String :=
  match e.operation, e.result with
  | .replyToComment reference comment content, .ok _ =>
    if names reference id && comments.findIdx? (·.id == comment) == some i then some content
    else none
  | _, _ => none

/-- Whether the entry is a successful resolution of the `i`-th comment on a document. -/
def resolves (id : String) (comments : List Comment) (i : Nat) (e : Entry) : Bool :=
  match e.operation, e.result with
  | .resolveComment reference comment, .ok _ =>
    names reference id && comments.findIdx? (·.id == comment) == some i
  | _, _ => false

/-- What an entry does to the body and the batches of a document. They change only if it updates the
document; then the plan is the one for the body that was there, and it is kept unless it is
empty. -/
structure Writes (s : Settings) (e : Entry) (d d' : StoredDocument) : Prop where
  kept : e.update? d.id = none → d'.body = d.body ∧ d'.batches = d.batches
  written : ∀ content, e.update? d.id = some content →
    ∃ plan, Plan.forReplacement content (some d.endIndex) s.maxContentUnits = .ok plan ∧
      d'.body = (compile content).text ∧
      d'.batches = d.batches ++ sent plan

end Entry

/-- A comment with new replies behind the old ones, and perhaps resolved. -/
structure Answered (contents : List String) (resolution : Bool) (c c' : Comment) : Prop where
  id : c'.id = c.id
  author : c'.author = c.author
  content : c'.content = c.content
  createdTime : c'.createdTime = c.createdTime
  quotedText : c'.quotedText = c.quotedText
  replies : ∃ added, c'.replies = c.replies ++ added ∧ added.map (·.content) = contents.map some
  resolved : c'.resolved = (c.resolved || resolution)

/-- What a run makes of the identity and the comments of a document. -/
structure Continues (es : List Entry) (d d' : StoredDocument) : Prop where
  id : d'.id = d.id
  parent : d'.parent = d.parent
  title : d'.title = d.title
  length : d'.comments.length = d.comments.length
  comment : ∀ i c, d.comments[i]? = some c → ∃ c', d'.comments[i]? = some c' ∧
    Answered (es.filterMap (·.reply? d.id d.comments i))
      (es.any (·.resolves d.id d.comments i)) c c'

variable {s : Settings} {w : World Memory} {m m' : Memory} {d d₁ d' : StoredDocument}
  {es es' : List Entry} {e : Entry}

/-! ### Comments along a run -/

theorem Answered.refl (c : Comment) : Answered [] false c c :=
  ⟨rfl, rfl, rfl, rfl, rfl, ⟨[], (List.append_nil _).symm, rfl⟩, (Bool.or_false _).symm⟩

theorem Answered.trans {contents contents' : List String} {resolution resolution' : Bool}
    {c c₁ c' : Comment} (h : Answered contents resolution c c₁)
    (h' : Answered contents' resolution' c₁ c') :
    Answered (contents ++ contents') (resolution || resolution') c c' := by
  obtain ⟨added, hadded, hcontents⟩ := h.replies
  obtain ⟨added', hadded', hcontents'⟩ := h'.replies
  refine ⟨h'.id.trans h.id, h'.author.trans h.author, h'.content.trans h.content,
    h'.createdTime.trans h.createdTime, h'.quotedText.trans h.quotedText,
    ⟨added ++ added', ?_, ?_⟩, ?_⟩
  · rw [hadded', hadded, List.append_assoc]
  · rw [List.map_append, List.map_append, hcontents, hcontents']
  · rw [h'.resolved, h.resolved, Bool.or_assoc]

theorem Continues.refl (d : StoredDocument) : Continues [] d d :=
  ⟨rfl, rfl, rfl, rfl, fun _ c hc => ⟨c, hc, .refl c⟩⟩

/-- The comments keep their ids, and with them their positions. -/
theorem Continues.ids (h : Continues es d d') :
    d'.comments.map (·.id) = d.comments.map (·.id) := by
  apply List.ext_getElem?
  intro i
  rw [List.getElem?_map, List.getElem?_map]
  cases hc : d.comments[i]? with
  | none =>
    have hlen := List.getElem?_eq_none_iff.1 hc
    rw [List.getElem?_eq_none (h.length ▸ hlen)]
  | some c =>
    obtain ⟨c', hc', hanswered⟩ := h.comment i c hc
    rw [hc', Option.map_some, Option.map_some, hanswered.id]

theorem findIdx?_congr {cs cs' : List Comment} (h : cs'.map (·.id) = cs.map (·.id)) (id : String) :
    cs'.findIdx? (·.id == id) = cs.findIdx? (·.id == id) := by
  have hmap : ∀ l : List Comment,
      l.findIdx? (·.id == id) = (l.map (·.id)).findIdx? (· == id) := by
    intro l
    rw [List.findIdx?_map]
    rfl
  rw [hmap, hmap, h]

theorem Entry.reply?_congr {cs cs' : List Comment} (h : cs'.map (·.id) = cs.map (·.id))
    (id : String) (i : Nat) (e : Entry) : e.reply? id cs' i = e.reply? id cs i := by
  unfold reply?
  simp only [findIdx?_congr h]

theorem Entry.resolves_congr {cs cs' : List Comment} (h : cs'.map (·.id) = cs.map (·.id))
    (id : String) (i : Nat) (e : Entry) : e.resolves id cs' i = e.resolves id cs i := by
  unfold resolves
  simp only [findIdx?_congr h]

theorem Continues.trans (h : Continues es d d₁) (h' : Continues es' d₁ d') :
    Continues (es ++ es') d d' := by
  refine ⟨h'.id.trans h.id, h'.parent.trans h.parent, h'.title.trans h.title,
    h'.length.trans h.length, fun i c hc => ?_⟩
  obtain ⟨c₁, hc₁, hanswered⟩ := h.comment i c hc
  obtain ⟨c', hc', hanswered'⟩ := h'.comment i c₁ hc₁
  -- The later entries find the comments at the places where they were at first.
  simp only [h.id, Entry.reply?_congr h.ids, Entry.resolves_congr h.ids] at hanswered'
  rw [List.filterMap_append, List.any_append]
  exact ⟨c', hc', hanswered.trans hanswered'⟩

/-! ### The step -/

/-- What an entry has made of a document. -/
structure Entry.Follows (s : Settings) (e : Entry) (d d' : StoredDocument) : Prop where
  holds : e.after.Holds d'
  continues : Continues [e] d d'
  writes : e.Writes s d d'

/-- An entry that is addressed to no comment leaves the comments as they are. -/
theorem continues_of_comments (hid : d'.id = d.id) (hparent : d'.parent = d.parent)
    (htitle : d'.title = d.title) (hcomments : d'.comments = d.comments)
    (hreply : ∀ i, e.reply? d.id d.comments i = none)
    (hresolves : ∀ i, e.resolves d.id d.comments i = false) : Continues [e] d d' := by
  refine ⟨hid, hparent, htitle, congrArg List.length hcomments, fun i c hc => ⟨c, ?_, ?_⟩⟩
  · rw [hcomments, hc]
  · simp only [List.filterMap_cons, hreply, List.filterMap_nil, List.any_cons, hresolves,
      List.any_nil, Bool.or_false]
    exact .refl c

/-- An entry that is not addressed to a document leaves it as it is. -/
theorem follows_self (hupdate : e.update? d.id = none)
    (hreply : ∀ i, e.reply? d.id d.comments i = none)
    (hresolves : ∀ i, e.resolves d.id d.comments i = false) (hd : e.after.Holds d) :
    e.Follows s d d := by
  refine ⟨hd, continues_of_comments rfl rfl rfl rfl hreply hresolves, fun _ => ⟨rfl, rfl⟩, ?_⟩
  intro content hcontent
  rw [hupdate] at hcontent
  cases hcontent

/-- A failure is addressed to no document. -/
theorem follows_error {op : Operation} {f : Fault} (hd : m'.Holds d) :
    Entry.Follows s ⟨op, .error f, m, m'⟩ d d := by
  cases op with
  | updateDoc _ _ dryRun => cases dryRun <;> exact follows_self rfl (fun _ => rfl) (fun _ => rfl) hd
  | _ => exact follows_self rfl (fun _ => rfl) (fun _ => rfl) hd

/-- An operation that only reads is addressed to no document. -/
theorem follows_reads {op : Operation} {r : Except Fault String} (hop : reads op = true)
    (hd : m'.Holds d) : Entry.Follows s ⟨op, r, m, m'⟩ d d := by
  cases op with
  | readDoc => exact follows_self rfl (fun _ => rfl) (fun _ => rfl) hd
  | getComments => exact follows_self rfl (fun _ => rfl) (fun _ => rfl) hd
  | updateDoc _ _ dryRun =>
    cases dryRun with
    | true => exact follows_self rfl (fun _ => rfl) (fun _ => rfl) hd
    | false => cases hop
  | _ => cases hop

theorem names_of_resolve {reference id : String} (h : Document.resolve reference = .ok id)
    (other : String) : names reference other = (id == other) := by
  rw [names, h]

/-- An update replaces the body of the document that it names, and of no other. -/
theorem follows_updated {reference content id answer : String} {d₀ : StoredDocument} {plan : Plan}
    (hid : Document.resolve reference = .ok id) (hd₀ : m.document? id = some d₀)
    (hplan : Plan.forReplacement content (some d₀.endIndex) s.maxContentUnits = .ok plan)
    (hdocuments : m'.documents =
      (m.modifyDocument id (replaced content plan m.timestamp)).documents)
    (hd : m.Holds d) :
    ∃ d', Entry.Follows s ⟨.updateDoc reference content false, .ok answer, m, m'⟩ d d' := by
  by_cases hname : id = d.id
  · subst hname
    rw [hd.document?, Option.some.injEq] at hd₀
    subst hd₀
    have hupdate : Entry.update? d.id ⟨.updateDoc reference content false, .ok answer, m, m'⟩ =
        some content := by
      simp [Entry.update?, names_of_resolve hid]
    refine ⟨replaced content plan m.timestamp d, (hd.modify (by intro d; rfl)).congr hdocuments,
      continues_of_comments rfl rfl rfl rfl (fun _ => rfl) (fun _ => rfl), ?_, ?_⟩
    · intro hnone
      rw [hupdate] at hnone
      cases hnone
    · intro content' hcontent'
      rw [hupdate, Option.some.injEq] at hcontent'
      subst hcontent'
      exact ⟨plan, hplan, rfl, rfl⟩
  · have hother : names reference d.id = false := by
      rw [names_of_resolve hid, beq_eq_false_iff_ne]
      exact hname
    have hupdate : Entry.update? d.id ⟨.updateDoc reference content false, .ok answer, m, m'⟩ =
        none := by
      simp [Entry.update?, hother]
    exact ⟨d, follows_self hupdate (fun _ => rfl) (fun _ => rfl)
      ((hd.modify_of_ne (by intro d; rfl) hname).congr hdocuments)⟩

/-- A change of the first comment of an id, as the replies and the resolution of an entry. -/
theorem continues_discussed {contents : List String} {resolution : Bool} {f : Comment → Comment}
    {comment : String} (hf : ∀ c, Answered contents resolution c (f c))
    (hreply : ∀ i, (e.reply? d.id d.comments i).toList =
      if d.comments.findIdx? (·.id == comment) = some i then contents else [])
    (hresolves : ∀ i, e.resolves d.id d.comments i =
      if d.comments.findIdx? (·.id == comment) = some i then resolution else false) :
    Continues [e] d (discussed comment f d) := by
  refine ⟨rfl, rfl, rfl, length_modifyFirst _, fun i c hc => ?_⟩
  have hreplies : [e].filterMap (·.reply? d.id d.comments i) =
      (e.reply? d.id d.comments i).toList := by
    cases hr : e.reply? d.id d.comments i <;> simp [hr]
  have hresolution : [e].any (·.resolves d.id d.comments i) = e.resolves d.id d.comments i := by
    simp
  rw [hreplies, hresolution, hreply, hresolves]
  change ∃ c', (modifyFirst (·.id == comment) f d.comments)[i]? = some c' ∧ _
  rw [getElem?_modifyFirst]
  split
  · exact ⟨f c, by rw [hc, Option.map_some], hf c⟩
  · exact ⟨c, hc, .refl c⟩

/-- A change of a comment is no change of the body, nor of the batches. -/
theorem writes_of_body (hupdate : e.update? d.id = none) (hbody : d'.body = d.body)
    (hbatches : d'.batches = d.batches) : e.Writes s d d' := by
  refine ⟨fun _ => ⟨hbody, hbatches⟩, fun content hcontent => ?_⟩
  rw [hupdate] at hcontent
  cases hcontent

/-- A reply goes to the first comment of an id on the document that it names, and to no other. -/
theorem follows_replied {reference comment content id answer new : String}
    (hid : Document.resolve reference = .ok id)
    (hdocuments : m'.documents =
      (m.ticked.modifyDocument id (discussed comment (replied new content))).documents)
    (hd : m.Holds d) :
    ∃ d', Entry.Follows s ⟨.replyToComment reference comment content, .ok answer, m, m'⟩ d d' := by
  have hticked : m.ticked.Holds d := hd.congr rfl
  by_cases hname : id = d.id
  · subst hname
    have hanswered : ∀ c, Answered [content] false c (replied new content c) := fun c =>
      ⟨rfl, rfl, rfl, rfl, rfl, ⟨_, rfl, rfl⟩, (Bool.or_false _).symm⟩
    refine ⟨_, (hticked.modify (by intro d; rfl)).congr hdocuments,
      continues_discussed hanswered ?_ ?_, writes_of_body rfl rfl rfl⟩
    · intro i
      by_cases hi : d.comments.findIdx? (·.id == comment) = some i
      · simp [Entry.reply?, names_of_resolve hid, hi]
      · simp [Entry.reply?, names_of_resolve hid, hi]
    · intro i
      exact (ite_self false).symm
  · have hother : names reference d.id = false := by
      rw [names_of_resolve hid, beq_eq_false_iff_ne]
      exact hname
    refine ⟨d, follows_self rfl (fun i => ?_) (fun _ => rfl)
      ((hticked.modify_of_ne (by intro d; rfl) hname).congr hdocuments)⟩
    simp [Entry.reply?, hother]

/-- A resolution marks the first comment of an id on the document that it names, and no other. -/
theorem follows_resolved {reference comment id answer : String}
    (hid : Document.resolve reference = .ok id)
    (hdocuments : m'.documents =
      (m.modifyDocument id (discussed comment fun c => { c with resolved := true })).documents)
    (hd : m.Holds d) :
    ∃ d', Entry.Follows s ⟨.resolveComment reference comment, .ok answer, m, m'⟩ d d' := by
  by_cases hname : id = d.id
  · subst hname
    have hanswered : ∀ c : Comment, Answered [] true c { c with resolved := true } := fun c =>
      ⟨rfl, rfl, rfl, rfl, rfl, ⟨[], (List.append_nil _).symm, rfl⟩, (Bool.or_true _).symm⟩
    refine ⟨_, (hd.modify (by intro d; rfl)).congr hdocuments,
      continues_discussed hanswered ?_ ?_, writes_of_body rfl rfl rfl⟩
    · intro i
      exact (ite_self []).symm
    · intro i
      by_cases hi : d.comments.findIdx? (·.id == comment) = some i
      · simp [Entry.resolves, names_of_resolve hid, hi]
      · simp [Entry.resolves, names_of_resolve hid, hi]
  · have hother : names reference d.id = false := by
      rw [names_of_resolve hid, beq_eq_false_iff_ne]
      exact hname
    refine ⟨d, follows_self rfl (fun _ => rfl) (fun i => ?_)
      ((hd.modify_of_ne (by intro d; rfl) hname).congr hdocuments)⟩
    simp [Entry.resolves, hother]

/-- **The step.** Every operation leaves a document of the store there, and changes it only if it is
addressed to it. -/
theorem follows_run {n : Nat} (hn : Numbered n w.store) (op : Operation)
    (hlt : n + drawn w.store (outcome (op.run store s) w).2.store < UInt32.size)
    (hd : w.store.Holds d) : ∃ d', (entryOf s w op).Follows s d d' := by
  have heffect := effect_run hn op hlt
  have hnext := numbered_run hn op hlt
  unfold entryOf
  generalize (outcome (op.run store s) w).1 = r at heffect
  generalize (outcome (op.run store s) w).2.store = m' at heffect hnext
  cases heffect with
  | failed hcontent =>
    exact ⟨d, follows_error (hd.congr (documents_of_content hcontent))⟩
  | replyFailed hcontent =>
    exact ⟨d, follows_error (hd.congr ((documents_of_content hcontent).trans rfl))⟩
  | read hop hcontent =>
    exact ⟨d, follows_reads hop (hd.congr (documents_of_content hcontent))⟩
  | listed hfound hcontent =>
    have hsame := (documents_of_content hcontent).trans hfound.documents
    exact ⟨d, follows_self rfl (fun _ => rfl) (fun _ => rfl) (hd.congr hsame)⟩
  | @created title content parent _ _ plan m₁ _ _ hfound hcontent =>
    -- The store behind is numbered as well, so the new document does not share the id of `d`.
    have hdocuments : m'.documents =
        w.store.documents ++ [newDocument m₁ parent title content plan] := by
      rw [documents_of_content hcontent, ← hfound.documents]
    have hne : (newDocument m₁ parent title content plan).id ≠ d.id := by
      intro hid
      have hdistinct := hnext.distinct
      rw [hdocuments, List.map_append, List.nodup_append] at hdistinct
      exact hdistinct.2.2 _ (List.mem_map_of_mem hd.mem) _ (List.mem_singleton_self _) hid.symm
    exact ⟨d, follows_self rfl (fun _ => rfl) (fun _ => rfl) (hd.append hne hdocuments)⟩
  | updated hid hd₀ hplan hcontent =>
    exact follows_updated hid hd₀ hplan (documents_of_content hcontent) hd
  | replied hid _ _ hcontent =>
    exact follows_replied hid (documents_of_content hcontent) hd
  | resolved hid _ _ hcontent =>
    exact follows_resolved hid (documents_of_content hcontent) hd

/-! ### The run -/

/-- Every entry of a run finds the document and leaves it there, and all entries together continue
it. -/
theorem follows_history {n : Nat} (hn : Numbered n w.store) (ops : List Operation)
    (hlt : n + drawnIn (history s w ops) < UInt32.size) (hd : w.store.Holds d) :
    (∃ d', (finish s w ops).store.Holds d' ∧ Continues (history s w ops) d d') ∧
      ∀ e ∈ history s w ops, ∃ d₀ d₁, d₀.id = d.id ∧ e.before.Holds d₀ ∧ e.after.Holds d₁ ∧
        e.Writes s d₀ d₁ := by
  -- The induction carries the number of ids drawn so far, for the documents stay numbered by it.
  induction ops generalizing n w d with
  | nil =>
    refine ⟨⟨d, hd, .refl d⟩, fun e he => ?_⟩
    cases he
  | cons op ops ih =>
    have hsum : drawnIn (history s w (op :: ops)) =
        drawn w.store (outcome (op.run store s) w).2.store +
          drawnIn (history s (outcome (op.run store s) w).2 ops) := rfl
    rw [hsum] at hlt
    have hfirst : n + drawn w.store (outcome (op.run store s) w).2.store < UInt32.size := by omega
    obtain ⟨d₁, hstep⟩ := follows_run hn op hfirst hd
    obtain ⟨⟨d', hd', hcontinues⟩, hentries⟩ :=
      ih (numbered_run hn op hfirst) (by omega) hstep.holds
    refine ⟨⟨d', hd', hstep.continues.trans hcontinues⟩, fun e he => ?_⟩
    rcases List.mem_cons.1 he with rfl | he
    · exact ⟨d, d₁, rfl, hd, hstep.holds, hstep.writes⟩
    · obtain ⟨d₂, d₃, hid, hbefore, hafter, hwrites⟩ := hentries e he
      exact ⟨d₂, d₃, hid.trans hstep.continues.id, hbefore, hafter, hwrites⟩

/-- **The history of a document is its own.** Take a run on a reachable store, in which the clock
does not run over, and a document that is there at its start. At the end the store has the document
exactly once, with its id, parent and title. Its comments are the same, in the same order, each with
the replies that were addressed to it behind those it had, and resolved if it was or if that was
addressed to it. Its body and its batches change at the updates that are addressed to it, each time
as the plan of the update says, and at no other entry of the run. -/
theorem history_of_document {n : Nat} (hw : Reachable n w.store) {ops : List Operation}
    (hdrawn : n + drawnIn (history s w ops) < UInt32.size) (hd : d ∈ w.store.documents) :
    (∃ d', (finish s w ops).store.Holds d' ∧ Continues (history s w ops) d d') ∧
      ∀ e ∈ history s w ops, ∃ d₀ d₁, d₀.id = d.id ∧ e.before.Holds d₀ ∧ e.after.Holds d₁ ∧
        e.Writes s d₀ d₁ := by
  have hn : Numbered n w.store := hw.numbered (by omega)
  exact follows_history hn ops hdrawn (hn.holds hd)

/-- A comment without replies. -/
def openComment : Comment := ⟨"c", some "Ada", some "why?", false, none, some "b", []⟩

/-- Another comment of the same id. -/
def secondComment : Comment := ⟨"c", some "Ada", some "and how?", false, none, none, []⟩

/-- A document with both comments. -/
def discussedDocument : StoredDocument :=
  ⟨"doc-1", "root", "Plan", "2026-01-01T00:00:01.000Z", "a😀b", none, [],
    [openComment, secondComment]⟩

/-- The world that is seeded with that document. -/
def discussedWorld : World Memory :=
  let m := (Memory.empty.addDocument "root" "Plan" "a😀b" none).2
  ⟨(m.addComment "doc-1" openComment).addComment "doc-1" secondComment, []⟩

/-- Creations, updates, replies and a resolution, one reply to a comment that is not there. -/
def discussion : List Operation :=
  [.createDoc "New" "*x*" (some "Sub"),
    .replyToComment "https://docs.google.com/document/d/doc-1/edit" "c" "because",
    .replyToComment "doc-1" "d" "lost", .updateDoc "doc-1" "# 😀" false,
    .updateDoc "doc-1" "other" true, .resolveComment " doc-1" "c"]

/-- Of two comments of one id the first is answered and resolved. -/
theorem history_of_document_discussed :
    Reachable 1 discussedWorld.store ∧
      1 + drawnIn (history ⟨some "root", 100⟩ discussedWorld discussion) < UInt32.size ∧
      discussedDocument ∈ discussedWorld.store.documents ∧
      ∃ d' c c', (finish ⟨some "root", 100⟩ discussedWorld discussion).store.Holds d' ∧
        d'.comments[0]? = some c ∧ Answered ["because"] true openComment c ∧
        d'.comments[1]? = some c' ∧ Answered [] false secondComment c' := by
  have hreachable : Reachable 1 discussedWorld.store :=
    .comment "doc-1" secondComment
      (.comment "doc-1" openComment (.document "root" "Plan" "a😀b" none .empty))
  have hdrawn :
      1 + drawnIn (history ⟨some "root", 100⟩ discussedWorld discussion) < UInt32.size := by
    decide +kernel
  have hmem : discussedDocument ∈ discussedWorld.store.documents := by decide
  obtain ⟨⟨d', hd', hcontinues⟩, -⟩ := history_of_document hreachable hdrawn hmem
  obtain ⟨c, hc, hanswered⟩ := hcontinues.comment 0 openComment rfl
  obtain ⟨c', hc', hanswered'⟩ := hcontinues.comment 1 secondComment rfl
  refine ⟨hreachable, hdrawn, hmem, d', c, c', hd', hc, ?_, hc', ?_⟩
  · have hreplies : (history ⟨some "root", 100⟩ discussedWorld discussion).filterMap
        (·.reply? discussedDocument.id discussedDocument.comments 0) = ["because"] := by
      decide +kernel
    have hresolved : (history ⟨some "root", 100⟩ discussedWorld discussion).any
        (·.resolves discussedDocument.id discussedDocument.comments 0) = true := by
      decide +kernel
    rwa [hreplies, hresolved] at hanswered
  · have hreplies : (history ⟨some "root", 100⟩ discussedWorld discussion).filterMap
        (·.reply? discussedDocument.id discussedDocument.comments 1) = [] := by
      decide +kernel
    have hresolved : (history ⟨some "root", 100⟩ discussedWorld discussion).any
        (·.resolves discussedDocument.id discussedDocument.comments 1) = false := by
      decide +kernel
    rwa [hreplies, hresolved] at hanswered'

end Scribe.Service
