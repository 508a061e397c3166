import Scribe.Proofs.Service.Creation
import Scribe.Proofs.Service.Newest
import Scribe.Proofs.Store.Reply

/-!
# Ids along a course

One counter numbers documents, folders and replies, and every id that the store gives carries the
number that was drawn for it. Along a course from the empty store all these ids are different, and a
document is found under its id from its creation on (`generated_ids_unique`).

Comments are added to the store with replies of any ids. A ledger therefore keeps the replies that
were given with comments apart from those that calls and operations have made (`Ledger`). What a step
makes is a reply at most, with the id that it has drawn (`Works.makes`); the rest is an induction
along the ledger.
-/

namespace Scribe.Service

open Edit Scribe.Action Store Store.Memory

/-- A step of a store other than the addition of a comment. -/
inductive Works : Memory → Memory → Prop where
  | document {m : Memory} (parent title body : String) (html : Option String) :
      Works m (m.addDocument parent title body html).2
  | folder {m : Memory} (parent name : String) : Works m (m.addFolder parent name).2
  | call {α : Type} {a : Action Memory α} (w : World Memory) :
      StoreCall a → Works w.store (outcome a w).2.store
  | operation (s : Settings) (op : Operation) (w : World Memory) :
      Works w.store (outcome (op.run store s) w).2.store

/-- A course with the replies that were given with comments, and those that its other steps have
made. -/
inductive Ledger : Memory → List Memory → (given made : List Reply) → Prop where
  | start : Ledger .empty [] [] []
  | comment {m : Memory} {ms : List Memory} {given made : List Reply} (id : String) (c : Comment) :
      Ledger m ms given made →
      Ledger (m.addComment id c) (m :: ms) (given ++ gained m (m.addComment id c)) made
  | work {m m' : Memory} {ms : List Memory} {given made : List Reply} :
      Ledger m ms given made → Works m m' → Ledger m' (m :: ms) given (made ++ gained m m')

variable {s : Settings} {m m' : Memory} {ms : List Memory} {n : Nat} {given made new : List Reply}

/-! ### What a step makes -/

/-- What a step adds to a store: no reply, or one with the id that it has drawn. -/
inductive Makes (m m' : Memory) : List Reply → Prop where
  | nothing : Grows m m' [] → Makes m m' []
  | reply {r : Reply} : Grows m m' [r] → m'.clock = m.clock + 1 →
      r.id = numbered "reply" m'.clock.toNat → Makes m m' [r]

theorem Makes.grows (h : Makes m m' new) : Grows m m' new := by
  cases h with
  | nothing hgrows => exact hgrows
  | reply hgrows _ _ => exact hgrows

theorem Makes.gained_eq (h : Makes m m' new) : gained m m' = new := by
  cases h with
  | nothing hgrows => exact List.perm_nil.1 hgrows.gained_perm
  | reply hgrows _ _ => exact List.perm_singleton.1 hgrows.gained_perm

theorem makes_same (h : m'.documents = m.documents) : Makes m m' [] := .nothing (.same h)

/-- A resolution makes no reply, nor does any change of a comment that keeps its replies. -/
theorem makes_discussed {id comment : String} {f : Comment → Comment}
    (hf : ∀ c, (f c).replies = c.replies)
    (h : m'.documents = (m.modifyDocument id (discussed comment f)).documents) :
    Makes m m' [] := by
  refine .nothing (.modify_of_replies (by intro d; rfl) (fun d => ?_) h)
  rw [StoredDocument.replies, discussed, List.flatMap_def, map_modifyFirst hf, ← List.flatMap_def]
  rfl

/-- A reply that is put on a comment is the one that is made. -/
theorem makes_replied {id comment content : String} {d : StoredDocument} {c : Comment}
    (hd : m.document? id = some d) (hc : findComment d comment = .ok c)
    (hclock : m'.clock = m.clock + 1)
    (h : m'.documents = (m.modifyDocument id (discussed comment
      (replied (numbered "reply" m.ticked.clock.toNat) content))).documents) :
    Makes m m' [⟨numbered "reply" m.ticked.clock.toNat, some "docs-mcp", some content, none⟩] := by
  have hfind : d.comments.find? (·.id == comment) = some c := by
    rw [findComment] at hc
    cases hfound : d.comments.find? (·.id == comment) with
    | none =>
      rw [hfound] at hc
      cases hc
    | some c' =>
      rw [hfound] at hc
      rw [Except.ok.inj hc]
  refine .reply (.modify hd (by intro d; rfl) ?_ h) hclock ?_
  · exact flatMap_modifyFirst hfind (List.Perm.refl _)
  · rw [hclock]
    rfl

/-- An edit of a body, accepted or not, makes no reply. -/
theorem makes_applyPlan (id : String) (plan : Plan) (w : World Memory) :
    Makes w.store (outcome (applyPlan id plan) w).2.store [] := by
  rcases documents_applyPlan id plan w with hsame | ⟨body, hedited | hrefused⟩
  · exact makes_same hsame
  · exact .nothing (.modify_of_replies (by intro d; rfl) (by intro d; rfl) hedited)
  · exact .nothing (.modify_of_replies (by intro d; rfl) (by intro d; rfl) hrefused)

/-- A call of the store makes a reply at most. -/
theorem StoreCall.makes {α : Type} {a : Action Memory α} (h : StoreCall a) (w : World Memory) :
    ∃ new, Makes w.store (outcome a w).2.store new := by
  cases h with
  | findFolder parent name => exact ⟨[], makes_same rfl⟩
  | createFolder parent name => exact ⟨[], makes_same rfl⟩
  | createDocument parent title => exact ⟨[], .nothing (.append rfl rfl)⟩
  | bodyEnd id => exact ⟨[], makes_same (documents_of_content (preserves_bodyEnd id w))⟩
  | applyPlan id plan => exact ⟨[], makes_applyPlan id plan w⟩
  | exportHtml id => exact ⟨[], makes_same (documents_of_content (preserves_exportHtml id w))⟩
  | listDocuments parent =>
    exact ⟨[], makes_same (documents_of_content (preserves_listDocuments parent w))⟩
  | listComments id => exact ⟨[], makes_same (documents_of_content (preserves_listComments id w))⟩
  | createReply id comment content =>
    rcases outcome_createReply id comment content w with
      ⟨e, w', hreply, hcontent⟩ | ⟨d, c, w', hd, hc, hreply, hcontent⟩
    · -- The id has been drawn for nothing.
      rw [hreply]
      exact ⟨[], makes_same (documents_of_content (m := w.store.ticked) hcontent)⟩
    · rw [hreply]
      exact ⟨_, makes_replied hd hc (clock_of_content hcontent)
        ((documents_of_content hcontent).trans rfl)⟩
  | resolveComment id comment =>
    rcases outcome_resolveComment id comment w with
      ⟨e, w', hresolve, hcontent⟩ | ⟨d, c, w', -, -, hresolve, hcontent⟩
    · rw [hresolve]
      exact ⟨[], makes_same (documents_of_content hcontent)⟩
    · rw [hresolve]
      exact ⟨[], makes_discussed (by intro c; rfl) (documents_of_content hcontent)⟩

/-- An operation of the service makes a reply at most. -/
theorem Effect.makes {op : Operation} {r : Except Fault String} (h : Effect s m op r m') :
    ∃ new, Makes m m' new := by
  cases h with
  | failed hcontent => exact ⟨[], makes_same (documents_of_content hcontent)⟩
  | replyFailed hcontent => exact ⟨[], makes_same (documents_of_content (m := m.ticked) hcontent)⟩
  | read _ hcontent => exact ⟨[], makes_same (documents_of_content hcontent)⟩
  | listed hfound hcontent =>
    exact ⟨[], makes_same ((documents_of_content hcontent).trans hfound.documents)⟩
  | created _ hfound hcontent =>
    refine ⟨[], .nothing (.append ?_ ((documents_of_content hcontent).trans
      (congrArg (· ++ _) hfound.documents)))⟩
    rfl
  | updated _ _ _ hcontent =>
    exact ⟨[], .nothing (.modify_of_replies (by intro d; rfl) (by intro d; rfl)
      (documents_of_content hcontent))⟩
  | replied _ hd hc hcontent =>
    exact ⟨_, makes_replied hd hc (clock_of_content hcontent)
      ((documents_of_content hcontent).trans rfl)⟩
  | resolved _ _ _ hcontent =>
    exact ⟨[], makes_discussed (by intro c; rfl) (documents_of_content hcontent)⟩

/-- **A step makes a reply at most**, with the id that it has drawn, and takes nothing away. -/
theorem Works.makes (h : Works m m') (hm : Numbered n m) (hlt : n + drawn m m' < UInt32.size) :
    Makes m m' (gained m m') := by
  have hmakes : ∃ new, Makes m m' new := by
    cases h with
    | document parent title body html => exact ⟨[], .nothing (.append rfl rfl)⟩
    | folder parent name => exact ⟨[], makes_same rfl⟩
    | call w hcall => exact hcall.makes w
    | operation s op w => exact (effect_run hm op hlt).makes
  obtain ⟨new, hnew⟩ := hmakes
  rw [hnew.gained_eq]
  exact hnew

/-! ### Ledgers -/

theorem Works.step (h : Works m m') : Step m m' := by
  cases h with
  | document parent title body html => exact .document parent title body html
  | folder parent name => exact .folder parent name
  | call w hcall => exact .call w hcall
  | operation s op w => exact .operation s op w

theorem Ledger.course (h : Ledger m ms given made) : Course m ms := by
  induction h with
  | start => exact .start
  | comment id c _ ih => exact ih.step (.comment id c)
  | work _ hworks ih => exact ih.step hworks.step

theorem drawn_addComment (id : String) (c : Comment) (m : Memory) :
    drawn m (m.addComment id c) = 0 :=
  drawn_eq (UInt32.add_zero _).symm (Nat.zero_le _)

/-- What a ledger says of its last state: every reply in the store was given or made, the replies that
were made carry different numbers, and the documents of all states are where they were. -/
structure Balanced (m : Memory) (ms : List Memory) (given made : List Reply) : Prop where
  replies : m.replies.Perm (given ++ made)
  series : Series "reply" (drawnAlong (m :: ms)) (made.map (·.id))
  cards : ∀ m₀ ∈ m :: ms, m₀.documents.map (·.card) <+: m.documents.map (·.card)

/-- Replies that come with a comment are given. -/
theorem Balanced.comment (h : Balanced m ms given made) (id : String) (c : Comment) :
    Balanced (m.addComment id c) (m :: ms) (given ++ gained m (m.addComment id c)) made := by
  obtain ⟨new, hgrows⟩ := grows_addComment id c m
  refine ⟨?_, ?_, hgrows.cards_cons h.cards⟩
  · refine (hgrows.replies.trans (h.replies.append hgrows.gained_perm.symm)).trans ?_
    rw [List.append_assoc, List.append_assoc]
    exact List.perm_append_comm.append_left _
  · rw [drawnAlong, drawn_addComment, Nat.zero_add]
    exact h.series

/-- A reply that is made carries the last number, which no reply before it carries. -/
theorem Balanced.work (h : Balanced m ms given made) (hmakes : Makes m m' new)
    (hclock : m'.clock.toNat = drawnAlong (m' :: m :: ms)) :
    Balanced m' (m :: ms) given (made ++ new) := by
  refine ⟨?_, ?_, hmakes.grows.cards_cons h.cards⟩
  · rw [← List.append_assoc]
    exact hmakes.grows.replies.trans (h.replies.append_right _)
  · rw [drawnAlong, Nat.add_comm] at hclock ⊢
    cases hmakes with
    | nothing =>
      rw [List.append_nil]
      exact h.series.mono (Nat.le_add_right _ _)
    | reply _ htick hid =>
      have hone : drawn m m' = 1 := drawn_eq htick (by decide)
      rw [List.map_append, List.map_singleton, hid, hclock]
      exact h.series.append (by omega) (Nat.le_refl _)

/-- **Every ledger is balanced**, if the clock has not run over. -/
theorem Ledger.balanced (h : Ledger m ms given made) (hlt : drawnAlong (m :: ms) < UInt32.size) :
    Balanced m ms given made := by
  induction h with
  | start =>
    refine ⟨List.Perm.refl _, .nil "reply", ?_⟩
    intro m₀ hm₀
    obtain rfl := List.mem_singleton.1 hm₀
    exact List.prefix_refl _
  | comment id c _ ih =>
    rw [drawnAlong] at hlt
    exact (ih (by omega)).comment id c
  | work hledger hworks ih =>
    have hclock := (hledger.course.step hworks.step).clock hlt
    rw [drawnAlong, Nat.add_comm] at hlt
    have hm := hledger.course.reachable.numbered (by omega)
    exact (ih (by omega)).work (hworks.makes hm hlt) hclock

/-! ### All ids -/

/-- Whether a store has given an id of a kind: its number is from 1 to what the clock shows. -/
def Issued (m : Memory) (start id : String) : Prop :=
  ∃ k, 0 < k ∧ k ≤ m.clock.toNat ∧ id = numbered start k

/-- **The ids that a store gives are unique.** In every state of a course from the empty store in
which the clock does not run over, the ids of the documents, the folders and the replies that have
been made are all different, and each carries a number from 1 to what the clock shows. The other
replies in the store were given with comments. A document that was there in an earlier state is the
only one of its id, in its place, with the folder and title that it had, and it is found under its
id. -/
theorem generated_ids_unique (h : Ledger m ms given made)
    (hlt : drawnAlong (m :: ms) < UInt32.size) :
    (m.documents.map (·.id) ++ m.folders.map (·.id) ++ made.map (·.id)).Nodup ∧
      (∀ id ∈ m.documents.map (·.id), Issued m "doc" id) ∧
      (∀ id ∈ m.folders.map (·.id), Issued m "folder" id) ∧
      (∀ id ∈ made.map (·.id), Issued m "reply" id) ∧
      m.replies.Perm (given ++ made) ∧
      ∀ m₀ ∈ m :: ms, ∀ (i : Nat) (d₀ : StoredDocument), m₀.documents[i]? = some d₀ →
        ∃ d, m.documents[i]? = some d ∧ d.card = d₀.card ∧ m.Holds d ∧
          m.document? d₀.id = some d := by
  have hbalanced := h.balanced hlt
  have hdocuments := h.course.reachable.numbered hlt
  have hfolders := h.course.reachable.foldersNumbered hlt
  have hclock := h.course.clock hlt
  have hreplies := hbalanced.series
  rw [← hclock] at hdocuments hfolders hreplies
  refine ⟨?_, hdocuments.documents, hfolders.numbered, hreplies.numbered, hbalanced.replies, ?_⟩
  · rw [List.nodup_append, List.nodup_append]
    refine ⟨⟨hdocuments.distinct, hfolders.distinct, fun id hid id' hid' => ?_⟩,
      hreplies.distinct, fun id hid id' hid' => ?_⟩
    · exact hdocuments.series.ne hfolders.series (numbered_ne rfl rfl (by decide)) hid hid'
    · rcases List.mem_append.1 hid with hid | hid
      · exact hdocuments.series.ne hreplies (numbered_ne rfl rfl (by decide)) hid hid'
      · exact hfolders.series.ne hreplies (numbered_ne rfl rfl (by decide)) hid hid'
  · intro m₀ hm₀ i d₀ hd₀
    obtain ⟨d, hd, hcard⟩ := exists_card_of_prefix (hbalanced.cards m₀ hm₀) hd₀
    have hholds := hdocuments.holds (List.mem_of_getElem? hd)
    have hid : d.id = d₀.id := congrArg Prod.fst hcard
    exact ⟨d, hd, hcard, hholds, hid ▸ hholds.document?⟩

/-- A comment with a reply that has an id as the store gives them. -/
def remarked : Comment :=
  ⟨"c", none, some "Why?", false, none, none, [⟨"reply-4", some "A", some "Because.", none⟩]⟩

/-- A store with a folder and a document in it. -/
def filedDocument : Memory :=
  ((Memory.empty.addFolder "root" "Sub").2.addDocument "folder-1" "A" "a" none).2

/-- The store behind a reply to a comment on that document. -/
def repliedTo (comment : String) (m : Memory) : Memory :=
  (outcome ((Operation.replyToComment "doc-2" comment "Yes.").run store ⟨none, 100⟩) ⟨m, []⟩).2.store

/-- A reply that fails has drawn the third id, so the next reply gets the fourth, which a reply of the
comment has already. -/
theorem generated_ids_unique_given :
    let m₁ := filedDocument.addComment "doc-2" remarked
    let m := repliedTo "c" (repliedTo "d" m₁)
    ∃ ms given made, Ledger m ms given made ∧ drawnAlong (m :: ms) < UInt32.size ∧
      given.map (·.id) = ["reply-4"] ∧ made.map (·.id) = ["reply-4"] ∧
      (m.documents.map (·.id) ++ m.folders.map (·.id) ++ made.map (·.id)).Nodup ∧
      m.replies.Perm (given ++ made) ∧ m₁ ∈ ms ∧
      ∃ d₁ d, m₁.documents[0]? = some d₁ ∧ m.document? "doc-2" = some d ∧ d.card = d₁.card := by
  intro m₁ m
  have hreply : ∀ (comment : String) (m : Memory), Works m (repliedTo comment m) :=
    fun comment m => .operation ⟨none, 100⟩ (.replyToComment "doc-2" comment "Yes.") ⟨m, []⟩
  have hfiled : Ledger filedDocument _ [] _ :=
    (Ledger.start.work (.folder "root" "Sub")).work (.document "folder-1" "A" "a" none)
  have hledger : Ledger m [repliedTo "d" m₁, m₁, filedDocument, _, .empty] _ _ :=
    ((hfiled.comment "doc-2" remarked).work (hreply "d" m₁)).work (hreply "c" _)
  have hlt : drawnAlong [m, repliedTo "d" m₁, m₁, filedDocument,
      (Memory.empty.addFolder "root" "Sub").2, .empty] < UInt32.size := by
    decide +kernel
  have hm₁ : m₁ ∈ [repliedTo "d" m₁, m₁, filedDocument,
      (Memory.empty.addFolder "root" "Sub").2, .empty] :=
    List.mem_cons_of_mem _ List.mem_cons_self
  obtain ⟨hnodup, -, -, -, hreplies, hfound⟩ := generated_ids_unique hledger hlt
  have hd₁ : m₁.documents[0]? = some
      ⟨"doc-2", "folder-1", "A", "2026-01-01T00:00:02.000Z", "a", none, [], [remarked]⟩ := by
    decide +kernel
  obtain ⟨d, -, hcard, -, hd⟩ := hfound m₁ (List.mem_cons_of_mem _ hm₁) 0 _ hd₁
  exact ⟨_, _, _, hledger, hlt, by decide +kernel, by decide +kernel, hnodup, hreplies, hm₁, _, d,
    hd₁, hd, hcard⟩

end Scribe.Service
