import Scribe.Proofs.Service.Reachable
import Scribe.Proofs.Store.Listing

/-!
# The newest documents first

A listing is to show the documents of a folder in the order in which they were last modified, the
newest first. The order that it has is that of the clock, which moves with the ids that are drawn and
stands still while batches are applied (`listing_follows_clock`): documents between whose last
modifications no id was drawn stand in the order of their creation, and from the hundredth id on the
times are not all equally long, so that their texts decide.

A course keeps every state of a store, the last one first, so that the last modification of a document
can be looked up in it (`lastModification?`). A step stamps what it modifies with the clock that it
leaves (`Stamps`); hence every document of a course shows the clock of its last modification
(`Course.showsLast`).
-/

namespace Scribe.Service

open Edit Scribe.Action Store Store.Memory

/-! ### Courses -/

/-- A step of a store: it is seeded, called, or worked on by an operation of the service. -/
inductive Step : Memory → Memory → Prop where
  | document {m : Memory} (parent title body : String) (html : Option String) :
      Step m (m.addDocument parent title body html).2
  | folder {m : Memory} (parent name : String) : Step m (m.addFolder parent name).2
  | comment {m : Memory} (id : String) (c : Comment) : Step m (m.addComment id c)
  | call {α : Type} {a : Action Memory α} (w : World Memory) :
      StoreCall a → Step w.store (outcome a w).2.store
  | operation (s : Settings) (op : Operation) (w : World Memory) :
      Step w.store (outcome (op.run store s) w).2.store

/-- A state and those before it, the last one first, back to the empty store. -/
inductive Course : Memory → List Memory → Prop where
  | start : Course .empty []
  | step {m m' : Memory} {ms : List Memory} : Course m ms → Step m m' → Course m' (m :: ms)

/-- How many ids have been drawn along the states of a course. -/
def drawnAlong : List Memory → Nat
  | m' :: m :: ms => drawn m m' + drawnAlong (m :: ms)
  | _ => 0

/-- A step modifies a document if it creates it or applies a batch to it. Batches are only added, so
that they tell. -/
def Modifies (id : String) (m m' : Memory) : Prop :=
  (m'.document? id).map (·.batches) ≠ (m.document? id).map (·.batches)

instance (id : String) (m m' : Memory) : Decidable (Modifies id m m') :=
  inferInstanceAs (Decidable (_ ≠ _))

/-- The last step of a course that modified a document: its number, and the state behind it. -/
def lastModification? (id : String) : List Memory → Option (Nat × Memory)
  | m' :: m :: ms =>
    if Modifies id m m' then some ((m :: ms).length, m') else lastModification? id (m :: ms)
  | _ => none

variable {s : Settings} {m m' : Memory} {ms : List Memory} {n : Nat} {now : String}
  {d d' a b : StoredDocument}

/-! ### What a step does to the times -/

/-- What a step makes of a document: its time is renewed exactly if its batches change. -/
inductive Restamps (now : String) (d d' : StoredDocument) : Prop where
  | kept : d'.id = d.id → d'.batches = d.batches → d'.modifiedTime = d.modifiedTime →
      Restamps now d d'
  | written : d'.id = d.id → d'.batches ≠ d.batches → d'.modifiedTime = now → Restamps now d d'

/-- What a step makes of the documents: each comes from one that was there, or it is new and has the
time that is shown behind the step. -/
inductive Stamps (m m' : Memory) : Prop where
  | changed : (∀ d' ∈ m'.documents, ∃ d ∈ m.documents, Restamps m'.timestamp d d') → Stamps m m'
  | created {d : StoredDocument} : d.modifiedTime = m'.timestamp →
      m'.documents = m.documents ++ [d] → Stamps m m'

theorem Restamps.refl (now : String) (d : StoredDocument) : Restamps now d d := .kept rfl rfl rfl

theorem Stamps.same (h : m'.documents = m.documents) : Stamps m m' :=
  .changed fun d hd => ⟨d, h ▸ hd, .refl _ d⟩

theorem Stamps.modify {id : String} {f : StoredDocument → StoredDocument}
    (hf : ∀ d, Restamps m'.timestamp d (f d))
    (h : m'.documents = modifyFirst (·.id == id) f m.documents) : Stamps m m' := by
  refine .changed fun d' hd' => ?_
  rw [h] at hd'
  rcases mem_modifyFirst hd' with hmem | ⟨d, hd, rfl⟩
  · exact ⟨d', hmem, .refl _ d'⟩
  · exact ⟨d, hd, hf d⟩

theorem Stamps.congr {m₀ : Memory} (h : Stamps m₀ m') (hdocuments : m₀.documents = m.documents) :
    Stamps m m' := by
  cases h with
  | changed hall => exact .changed (hdocuments ▸ hall)
  | created hnow hadded => exact .created hnow (hdocuments ▸ hadded)

theorem timestamp_of_clock (h : m'.clock = m.clock) : m'.timestamp = m.timestamp := by
  rw [timestamp_eq, timestamp_eq, h]

theorem restamps_edited (body : List Char) (plan : Plan) (now : String) (d : StoredDocument) :
    Restamps now d (edited body plan now d) :=
  .written rfl (by simp [edited]) rfl

theorem restamps_replaced (content : String) (plan : Plan) (now : String) (d : StoredDocument) :
    Restamps now d (replaced content plan now d) := by
  by_cases hnil : plan = []
  · -- No batch is sent, and the time stays.
    rw [hnil, replaced_nil]
    exact .kept rfl rfl rfl
  · rw [replaced_of_ne_nil hnil]
    exact restamps_edited _ plan now d

theorem restamps_discussed (comment : String) (f : Comment → Comment) (now : String)
    (d : StoredDocument) : Restamps now d (discussed comment f d) := .kept rfl rfl rfl

theorem Effect.stamps {op : Operation} {r : Except Fault String} (h : Effect s m op r m') :
    Stamps m m' := by
  cases h with
  | failed hcontent => exact .same (documents_of_content hcontent)
  | replyFailed hcontent => exact .same ((documents_of_content hcontent).trans rfl)
  | read _ hcontent => exact .same (documents_of_content hcontent)
  | listed hfound hcontent =>
    exact .same ((documents_of_content hcontent).trans hfound.documents)
  | created _ hfound hcontent =>
    refine .created ?_ ((documents_of_content hcontent).trans
      (congrArg (· ++ _) hfound.documents))
    exact (timestamp_of_clock (clock_of_content hcontent)).symm
  | updated _ _ _ hcontent =>
    have hnow := timestamp_of_clock (clock_of_content hcontent)
    refine .modify (fun d => ?_) (documents_of_content hcontent)
    rw [hnow]
    exact restamps_replaced _ _ _ d
  | replied _ _ _ hcontent =>
    exact .modify (restamps_discussed _ _ _) (documents_of_content hcontent)
  | resolved _ _ _ hcontent =>
    exact .modify (restamps_discussed _ _ _) (documents_of_content hcontent)

theorem stamps_applyPlan (id : String) (plan : Plan) (w : World Memory) :
    Stamps w.store (outcome (applyPlan id plan) w).2.store := by
  have hclock := preserves_applyPlan_clock id plan w
  rcases documents_applyPlan id plan w with hsame | ⟨body, hedited | hrefused⟩
  · exact .same hsame
  · refine .modify (fun d => ?_) hedited
    rw [timestamp_of_clock hclock]
    exact restamps_edited body plan _ d
  · -- The body may have changed, but no batch has been applied.
    exact .modify (f := fun d => { d with body := .ofList body }) (fun d => .kept rfl rfl rfl)
      hrefused

theorem stamps_modifyComment (id comment : String) (f : Comment → Comment) (w : World Memory) :
    Stamps w.store (outcome (modifyComment id comment f) w).2.store := by
  rcases outcome_modifyComment id comment f w with ⟨e, hsame⟩ | ⟨d, c, -, -, hmodify⟩
  · rw [hsame]
    exact .same rfl
  · rw [hmodify]
    exact .modify (restamps_discussed comment f _) rfl

theorem StoreCall.stamps {α : Type} {a : Action Memory α} (h : StoreCall a) (w : World Memory) :
    Stamps w.store (outcome a w).2.store := by
  cases h with
  | findFolder parent name => exact .same rfl
  | createFolder parent name => exact .same rfl
  | createDocument parent title => exact .created rfl rfl
  | bodyEnd id => exact .same (documents_of_content (preserves_bodyEnd id w))
  | applyPlan id plan => exact stamps_applyPlan id plan w
  | exportHtml id => exact .same (documents_of_content (preserves_exportHtml id w))
  | listDocuments parent => exact .same (documents_of_content (preserves_listDocuments parent w))
  | listComments id => exact .same (documents_of_content (preserves_listComments id w))
  | createReply id comment content =>
    exact (stamps_modifyComment id comment _
      { w with store := (w.store.noted ("create_reply " ++ id ++ " " ++ comment)).ticked }).congr rfl
  | resolveComment id comment =>
    exact (stamps_modifyComment id comment _
      { w with store := w.store.noted ("resolve_comment " ++ id ++ " " ++ comment) }).congr rfl

/-- **A step stamps what it modifies.** -/
theorem Step.stamps (h : Step m m') (hm : Numbered n m) (hlt : n + drawn m m' < UInt32.size) :
    Stamps m m' := by
  cases h with
  | document parent title body html => exact .created rfl rfl
  | folder parent name => exact .same rfl
  | comment id c =>
    exact .modify (f := fun d => { d with comments := d.comments ++ [c] })
      (fun d => .kept rfl rfl rfl) rfl
  | call w hcall => exact hcall.stamps w
  | operation s op w => exact (effect_run hm op hlt).stamps

/-! ### The last modification -/

theorem Step.reachable (h : Step m m') (hm : Reachable n m) : Reachable (n + drawn m m') m' := by
  cases h with
  | document parent title body html =>
    rw [drawn_eq (k := 1) rfl (by decide)]
    exact .document parent title body html hm
  | folder parent name =>
    rw [drawn_eq (k := 1) rfl (by decide)]
    exact .folder parent name hm
  | comment id c =>
    have hdrawn : drawn m (m.addComment id c) = 0 :=
      drawn_eq (UInt32.add_zero _).symm (Nat.zero_le _)
    rw [hdrawn]
    exact .comment id c hm
  | call w hcall => exact .call w hcall hm
  | operation s op w => exact .operation s op w hm

theorem Course.reachable (h : Course m ms) : Reachable (drawnAlong (m :: ms)) m := by
  induction h with
  | start => exact .empty
  | step _ hstep ih =>
    rw [drawnAlong, Nat.add_comm]
    exact hstep.reachable ih

/-- The document shows the clock behind its last modification. -/
def ShowsLast (states : List Memory) (d : StoredDocument) : Prop :=
  ∃ i s, lastModification? d.id states = some (i, s) ∧ d.modifiedTime = s.timestamp

theorem ShowsLast.kept (h : ShowsLast (m :: ms) d) (hd : m.document? d.id = some d)
    (hd' : m'.document? d'.id = some d') (hid : d'.id = d.id) (hbatches : d'.batches = d.batches)
    (htime : d'.modifiedTime = d.modifiedTime) : ShowsLast (m' :: m :: ms) d' := by
  obtain ⟨i, s, hlast, hshows⟩ := h
  have hnot : ¬ Modifies d'.id m m' := by
    rw [Modifies, hd', hid, hd, Option.map_some, Option.map_some, hbatches]
    exact fun hne => hne rfl
  refine ⟨i, s, ?_, htime.trans hshows⟩
  rw [lastModification?, if_neg hnot, hid]
  exact hlast

theorem ShowsLast.written (hmodifies : Modifies d'.id m m') (hnow : d'.modifiedTime = m'.timestamp) :
    ShowsLast (m' :: m :: ms) d' :=
  ⟨_, _, by rw [lastModification?, if_pos hmodifies], hnow⟩

theorem Stamps.showsLast (h : Stamps m m') (hm : Numbered n m) {n' : Nat} (hm' : Numbered n' m')
    (hbefore : ∀ d ∈ m.documents, ShowsLast (m :: ms) d) :
    ∀ d ∈ m'.documents, ShowsLast (m' :: m :: ms) d := by
  intro d' hmem
  have hd' := (hm'.holds hmem).document?
  cases h with
  | changed hall =>
    obtain ⟨d, hd, hrestamps⟩ := hall d' hmem
    have hlookup := (hm.holds hd).document?
    cases hrestamps with
    | kept hid hbatches htime => exact (hbefore d hd).kept hlookup hd' hid hbatches htime
    | written hid hbatches hnow =>
      refine .written ?_ hnow
      rw [Modifies, hd', hid, hlookup, Option.map_some, Option.map_some, Ne, Option.some.injEq]
      exact hbatches
  | @created e hnow hadded =>
    rw [hadded] at hmem
    rcases List.mem_append.1 hmem with hold | hnew
    · exact (hbefore d' hold).kept (hm.holds hold).document? hd' rfl rfl rfl
    · -- No document that was there has the id of the new one.
      rw [List.mem_singleton.1 hnew] at hd' ⊢
      refine .written ?_ hnow
      have hnone : m.document? e.id = none := by
        have hdistinct := hm'.distinct
        rw [hadded, List.map_append, List.nodup_append] at hdistinct
        refine List.find?_eq_none.2 fun d hd hid => ?_
        exact hdistinct.2.2 _ (List.mem_map_of_mem hd) _ (List.mem_singleton_self _)
          (by simpa using hid)
      rw [Modifies, hd', hnone]
      exact Option.some_ne_none _

/-- **Every document of a course shows the clock behind its last modification.** -/
theorem Course.showsLast (h : Course m ms) (hlt : drawnAlong (m :: ms) < UInt32.size) :
    ∀ d ∈ m.documents, ShowsLast (m :: ms) d := by
  induction h with
  | start =>
    intro d hd
    cases hd
  | step hcourse hstep ih =>
    have hlater := (Course.step hcourse hstep).reachable.numbered hlt
    rw [drawnAlong, Nat.add_comm] at hlt
    have hearlier := hcourse.reachable.numbered (by omega)
    exact (hstep.stamps hearlier hlt).showsLast hearlier hlater (ih (by omega))

/-! ### The clock -/

theorem getElem?_of_lastModification? {id : String} {states : List Memory} {i : Nat} {m : Memory}
    (h : lastModification? id states = some (i, m)) : states.reverse[i]? = some m := by
  fun_induction lastModification? id states with
  | case1 m' m ms _ =>
    cases h
    rw [List.reverse_cons, List.getElem?_append_right (by simp)]
    simp
  | case2 m' m ms _ ih =>
    obtain ⟨hi, -⟩ := List.getElem?_eq_some_iff.1 (ih h)
    rw [List.reverse_cons, List.getElem?_append_left hi]
    exact ih h
  | case3 => cases h

theorem Course.clock (h : Course m ms) (hlt : drawnAlong (m :: ms) < UInt32.size) :
    m.clock.toNat = drawnAlong (m :: ms) := by
  rw [(h.reachable.numbered hlt).clock, UInt32.toNat_ofNat_of_lt' hlt]

/-- The clock never goes back. -/
theorem Course.clock_le (h : Course m ms) (hlt : drawnAlong (m :: ms) < UInt32.size) :
    (m :: ms).Pairwise fun later earlier => earlier.clock ≤ later.clock := by
  induction h with
  | start => exact List.pairwise_singleton _ _
  | @step m m' ms hcourse hstep ih =>
    have hlast := (hcourse.step hstep).clock hlt
    rw [drawnAlong] at hlt hlast
    have hbefore := ih (by omega)
    have hstep : m.clock ≤ m'.clock := by
      rw [UInt32.le_iff_toNat_le, hlast, hcourse.clock (by omega)]
      omega
    refine List.pairwise_cons.2 ⟨fun s hs => ?_, hbefore⟩
    rcases List.mem_cons.1 hs with rfl | hs
    · exact hstep
    · exact UInt32.le_trans ((List.pairwise_cons.1 hbefore).1 s hs) hstep

/-- Of two modifications the one with the later clock is the later step. -/
theorem Course.lt_of_clock_lt (h : Course m ms) (hlt : drawnAlong (m :: ms) < UInt32.size)
    {id id' : String} {i j : Nat} {s s' : Memory}
    (hs : lastModification? id (m :: ms) = some (i, s))
    (hs' : lastModification? id' (m :: ms) = some (j, s')) (hclock : s'.clock < s.clock) :
    j < i := by
  obtain ⟨hi, hs⟩ := List.getElem?_eq_some_iff.1 (getElem?_of_lastModification? hs)
  obtain ⟨hj, hs'⟩ := List.getElem?_eq_some_iff.1 (getElem?_of_lastModification? hs')
  have hascending := List.pairwise_iff_getElem.1 (List.pairwise_reverse.2 (h.clock_le hlt))
  by_contra hle
  rcases Nat.lt_or_eq_of_le (Nat.le_of_not_lt hle) with hij | rfl
  · have hback := hascending i j hi hj hij
    rw [hs, hs'] at hback
    exact UInt32.not_le.2 hclock hback
  · rw [← hs, hs'] at hclock
    exact UInt32.lt_irrefl _ hclock

/-! ### Listings -/

/-- Why a document stands above another in a listing. -/
inductive Above (m : Memory) (ms : List Memory) (a b : StoredDocument) : Prop where
  /-- It was modified by a later step, and an id has been drawn since the other was modified. -/
  | newer {i j : Nat} {s s' : Memory} : a.modifiedTime.length = b.modifiedTime.length →
      lastModification? a.id (m :: ms) = some (i, s) →
      lastModification? b.id (m :: ms) = some (j, s') → j < i → s'.clock < s.clock → Above m ms a b
  /-- No id was drawn between their last modifications, and it was created first. -/
  | tied {i j : Nat} {s s' : Memory} : lastModification? a.id (m :: ms) = some (i, s) →
      lastModification? b.id (m :: ms) = some (j, s') → s.clock = s'.clock →
      [a, b].Sublist m.documents → Above m ms a b
  /-- The times have different numbers of digits, and their texts decide. -/
  | spelled : a.modifiedTime.length ≠ b.modifiedTime.length → b.modifiedTime < a.modifiedTime →
      Above m ms a b

/-- **Listings follow the clock.** Take a course from the empty store in which the clock does not run
over. A listing gives each document of its folder once, with the time of its last modification, that
is, of the last step that created it or applied a batch to it. Of two documents with equally long
times, the one that was last modified by the later step stands above the other if an id was drawn
between the two modifications; if not, they stand in the order in which they were created. While less
than 100 ids have been drawn, all times are equally long. -/
theorem listing_follows_clock (h : Course m ms) (hlt : drawnAlong (m :: ms) < UInt32.size)
    (parent : String) (events : List Log.Event) :
    ∃ docs : List StoredDocument,
      (outcome (store.listDocuments parent) ⟨m, events⟩).1 = .ok (docs.map summary) ∧
      docs.Perm (m.documents.filter (·.parent == parent)) ∧
      (∀ d ∈ docs, ShowsLast (m :: ms) d) ∧ docs.Pairwise (Above m ms) ∧
      (drawnAlong (m :: ms) < 100 → ∀ d ∈ docs, d.modifiedTime.length = 24) := by
  have hshows := h.showsLast hlt
  have hdistinct : m.documents.Nodup := (h.reachable.numbered hlt).distinct.of_map _
  have hmem : ∀ d ∈ m.listed parent, d ∈ m.documents := fun d hd =>
    List.mem_of_mem_filter ((listed_perm m parent).mem_iff.1 hd)
  refine ⟨m.listed parent, congrArg Except.ok (listing_eq_map m parent), listed_perm m parent,
    fun d hd => hshows d (hmem d hd), ?_, fun hfew d hd => ?_⟩
  · refine (pairwise_listed hdistinct parent).imp_of_mem fun {a b} ha hb hab => ?_
    obtain ⟨i, s, hlast, htime⟩ := hshows a (hmem a ha)
    obtain ⟨j, s', hlast', htime'⟩ := hshows b (hmem b hb)
    rcases hab with htext | ⟨heq, hsublist⟩
    · by_cases hlength : a.modifiedTime.length = b.modifiedTime.length
      · have hclock : s'.clock < s.clock := by
          rw [htime, htime'] at htext hlength
          exact clock_lt_of_timestamp_lt hlength.symm htext
        exact .newer hlength hlast hlast' (h.lt_of_clock_lt hlt hlast hlast' hclock) hclock
      · exact .spelled hlength htext
    · rw [htime, htime'] at heq
      exact .tied hlast hlast' (clock_eq_of_timestamp_eq heq) hsublist
  · obtain ⟨i, s, hlast, htime⟩ := hshows d (hmem d hd)
    have hstate : s ∈ m :: ms :=
      List.mem_reverse.1 (List.mem_of_getElem? (getElem?_of_lastModification? hlast))
    rw [htime]
    apply length_timestamp
    have hclock : s.clock ≤ m.clock := by
      rcases List.mem_cons.1 hstate with rfl | hs
      · exact UInt32.le_refl _
      · exact (List.pairwise_cons.1 (h.clock_le hlt)).1 s hs
    rw [UInt32.le_iff_toNat_le, h.clock hlt] at hclock
    omega

/-- A store with one document. -/
def oneDocument : Memory := (Memory.empty.addDocument "root-folder" "A" "" none).2

/-- A store with two documents. -/
def twoDocuments : Memory := (oneDocument.addDocument "root-folder" "B" "" none).2

/-- The store behind an update of a document. -/
def updated (id : String) (m : Memory) : Memory :=
  (outcome ((Operation.updateDoc id "x" false).run store ⟨some "root-folder", 100⟩) ⟨m, []⟩).2.store

theorem course_twoDocuments : Course twoDocuments [oneDocument, .empty] :=
  .step (.step .start (.document "root-folder" "A" "" none)) (.document "root-folder" "B" "" none)

theorem course_updated (h : Course m ms) (id : String) : Course (updated id m) (m :: ms) :=
  .step h (.operation ⟨some "root-folder", 100⟩ (.updateDoc id "x" false) ⟨m, []⟩)

/-- A document is updated behind the creation of another document and of a folder. -/
theorem listing_follows_clock_folder :
    let m := (twoDocuments.addFolder "root-folder" "Sub").2
    let ms := [m, twoDocuments, oneDocument, .empty]
    Course (updated "doc-1" m) ms ∧ drawnAlong (updated "doc-1" m :: ms) < UInt32.size ∧
      ∃ docs : List StoredDocument, docs.length = 2 ∧
        (outcome (store.listDocuments "root-folder") ⟨updated "doc-1" m, []⟩).1 =
          .ok (docs.map summary) ∧
        docs.Pairwise (Above (updated "doc-1" m) ms) := by
  intro m ms
  have hcourse : Course (updated "doc-1" m) ms :=
    course_updated (course_twoDocuments.step (.folder "root-folder" "Sub")) "doc-1"
  have hdrawn : drawnAlong (updated "doc-1" m :: ms) < UInt32.size := by decide +kernel
  obtain ⟨docs, hlisting, hperm, -, habove, -⟩ :=
    listing_follows_clock hcourse hdrawn "root-folder" []
  have hlength : ((updated "doc-1" m).documents.filter (·.parent == "root-folder")).length = 2 := by
    decide +kernel
  exact ⟨hcourse, hdrawn, docs, hperm.length_eq.trans hlength, hlisting, habove⟩

/-- Of two documents that are updated one behind the other, the one that was updated last is listed
last: the clock stands still, and so does the order. -/
theorem later_update_listed_last :
    let m := updated "doc-1" twoDocuments
    let ms := [m, twoDocuments, oneDocument, .empty]
    Course (updated "doc-2" m) ms ∧
      (lastModification? "doc-1" (updated "doc-2" m :: ms)).map (·.1) = some 3 ∧
      (lastModification? "doc-2" (updated "doc-2" m :: ms)).map (·.1) = some 4 ∧
      ((outcome (store.listDocuments "root-folder") ⟨updated "doc-2" m, []⟩).1.map
        (·.map (·.id))) = .ok ["doc-1", "doc-2"] := by
  intro m ms
  have hcourse : Course (updated "doc-2" m) ms :=
    course_updated (course_updated course_twoDocuments "doc-1") "doc-2"
  refine ⟨hcourse, by decide +kernel, by decide +kernel, ?_⟩
  change Except.ok (((updated "doc-2" m).listing "root-folder").map (·.id)) = _
  -- The two times are equal, so the documents are sorted as they are.
  rw [listing, List.mergeSort_of_pairwise (by decide +kernel)]
  decide +kernel

end Scribe.Service
