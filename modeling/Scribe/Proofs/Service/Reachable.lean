import Scribe.Proofs.Service.Effect

/-!
# Reachable states

A store in memory starts empty. It is seeded with documents, folders and comments, and then its own
calls and the operations of the service work on it, in any order. `Reachable` holds of the states
that are reached in this way, and counts the ids that have been drawn.

As long as these are less than `2 ^ 32`, the documents of a reachable state are numbered
(`Reachable.numbered`), so that each is the only one with its id.
-/

namespace Scribe.Service

open Scribe.Action Store Store.Memory

/-- The calls of the store. -/
inductive StoreCall : {α : Type} → Action Memory α → Prop where
  | findFolder (parent name : String) : StoreCall (store.findFolder parent name)
  | createFolder (parent name : String) : StoreCall (store.createFolder parent name)
  | createDocument (parent title : String) : StoreCall (store.createDocument parent title)
  | bodyEnd (document : String) : StoreCall (store.bodyEnd document)
  | applyPlan (document : String) (plan : Edit.Plan) : StoreCall (store.applyPlan document plan)
  | exportHtml (document : String) : StoreCall (store.exportHtml document)
  | listDocuments (parent : String) : StoreCall (store.listDocuments parent)
  | listComments (document : String) : StoreCall (store.listComments document)
  | createReply (document comment content : String) :
      StoreCall (store.createReply document comment content)
  | resolveComment (document comment : String) : StoreCall (store.resolveComment document comment)

/-- The states that are reached from the empty store, each with the number of ids drawn so far. -/
inductive Reachable : Nat → Memory → Prop where
  | empty : Reachable 0 .empty
  | document {n : Nat} {m : Memory} (parent title body : String) (html : Option String) :
      Reachable n m → Reachable (n + 1) (m.addDocument parent title body html).2
  | folder {n : Nat} {m : Memory} (parent name : String) :
      Reachable n m → Reachable (n + 1) (m.addFolder parent name).2
  | comment {n : Nat} {m : Memory} (id : String) (c : Comment) :
      Reachable n m → Reachable n (m.addComment id c)
  | call {n : Nat} {α : Type} {a : Action Memory α} (w : World Memory) :
      StoreCall a → Reachable n w.store →
      Reachable (n + drawn w.store (outcome a w).2.store) (outcome a w).2.store
  | operation {n : Nat} (s : Settings) (op : Operation) (w : World Memory) :
      Reachable n w.store →
      Reachable (n + drawn w.store (outcome (op.run store s) w).2.store)
        (outcome (op.run store s) w).2.store

/-! ### Ids drawn by a step -/

variable {m m' : Memory}

theorem draws_zero (h : m'.roll = m.roll) : Draws m m' 0 :=
  .others ((congrArg Prod.snd h).trans (UInt32.add_zero _).symm) (congrArg Prod.fst h)

theorem draws_one (h : m'.roll = m.ticked.roll) : Draws m m' 1 :=
  .others (congrArg Prod.snd h) (congrArg Prod.fst h)

theorem roll_of_content (h : m'.content = m.content) : m'.roll = m.roll := by
  rw [roll, documents_of_content h, clock_of_content h]
  rfl

/-- A call of the store draws an id at most. -/
theorem StoreCall.draws {α : Type} {a : Action Memory α} (h : StoreCall a) (w : World Memory) :
    ∃ k ≤ 1, Draws w.store (outcome a w).2.store k := by
  cases h with
  | findFolder parent name => exact ⟨0, Nat.zero_le _, draws_zero rfl⟩
  | createFolder parent name => exact ⟨1, Nat.le_refl _, draws_one rfl⟩
  | createDocument parent title =>
    refine ⟨1, Nat.le_refl _, Draws.document rfl ?_⟩
    exact List.map_append
  | bodyEnd id => exact ⟨0, Nat.zero_le _, draws_zero (roll_of_content (preserves_bodyEnd id w))⟩
  | applyPlan id plan => exact ⟨0, Nat.zero_le _, draws_zero (preserves_applyPlan_roll id plan w)⟩
  | exportHtml id =>
    exact ⟨0, Nat.zero_le _, draws_zero (roll_of_content (preserves_exportHtml id w))⟩
  | listDocuments parent =>
    exact ⟨0, Nat.zero_le _, draws_zero (roll_of_content (preserves_listDocuments parent w))⟩
  | listComments id =>
    exact ⟨0, Nat.zero_le _, draws_zero (roll_of_content (preserves_listComments id w))⟩
  | createReply id comment content =>
    refine ⟨1, Nat.le_refl _, draws_one ?_⟩
    exact preserves_modifyComment_roll id comment _
      { w with store := (w.store.noted ("create_reply " ++ id ++ " " ++ comment)).ticked }
  | resolveComment id comment =>
    refine ⟨0, Nat.zero_le _, draws_zero ?_⟩
    exact preserves_modifyComment_roll id comment _
      { w with store := w.store.noted ("resolve_comment " ++ id ++ " " ++ comment) }

/-- An operation of the service draws two ids at most. -/
theorem Effect.draws {s : Settings} {op : Operation} {r : Except Fault String}
    (h : Effect s m op r m') : ∃ k ≤ 2, Draws m m' k := by
  cases h with
  | failed hcontent => exact ⟨0, Nat.zero_le _, draws_zero (roll_of_content hcontent)⟩
  | replyFailed hcontent => exact ⟨1, by decide, draws_one (roll_of_content hcontent)⟩
  | read _ hcontent => exact ⟨0, Nat.zero_le _, draws_zero (roll_of_content hcontent)⟩
  | listed hfound hcontent =>
    obtain ⟨k, hk, hclock⟩ := hfound.clock
    refine ⟨k, by omega, .others ((clock_of_content hcontent).trans hclock) ?_⟩
    rw [documents_of_content hcontent, hfound.documents]
  | created _ hfound hcontent =>
    obtain ⟨k, hk, hclock⟩ := hfound.clock
    have hlast := clock_of_content hcontent
    refine ⟨k + 1, by omega, .document ?_ ?_⟩
    · rw [hlast, UInt32.ofNat_add, ← UInt32.add_assoc, ← hclock]
      rfl
    · rw [hlast, documents_of_content hcontent, ← hfound.documents]
      exact List.map_append
  | updated _ _ _ hcontent =>
    refine ⟨0, Nat.zero_le _, draws_zero ((roll_of_content hcontent).trans ?_)⟩
    exact roll_modifyDocument (by intro d; rfl) m _
  | replied _ _ _ hcontent =>
    refine ⟨1, by decide, draws_one ((roll_of_content hcontent).trans ?_)⟩
    exact roll_modifyDocument (by intro d; rfl) m.ticked _
  | resolved _ _ _ hcontent =>
    refine ⟨0, Nat.zero_le _, draws_zero ((roll_of_content hcontent).trans ?_)⟩
    exact roll_modifyDocument (by intro d; rfl) m _

/-- The numbering goes on with every operation. -/
theorem numbered_run {s : Settings} {w : World Memory} {n : Nat} (hn : Numbered n w.store)
    (op : Operation) (hlt : n + drawn w.store (outcome (op.run store s) w).2.store < UInt32.size) :
    Numbered (n + drawn w.store (outcome (op.run store s) w).2.store)
      (outcome (op.run store s) w).2.store := by
  obtain ⟨k, hk, hdraws⟩ := (effect_run hn op hlt).draws
  have hdrawn := drawn_eq hdraws.clock hk
  rw [hdrawn] at hlt ⊢
  exact hn.step hdraws hlt

/-- **The documents of a reachable state are numbered**, if the clock has not run over. -/
theorem Reachable.numbered {n : Nat} (h : Reachable n m) (hn : n < UInt32.size) : Numbered n m := by
  induction h with
  | empty => exact .empty
  | document parent title body html _ ih =>
    exact (ih (by omega)).step (.document rfl List.map_append) hn
  | folder parent name _ ih => exact (ih (by omega)).step (draws_one rfl) hn
  | comment id c _ ih =>
    refine (ih hn).step (draws_zero ?_) hn
    exact roll_modifyDocument (by intro d; rfl) _ id
  | call w hcall _ ih =>
    obtain ⟨k, hk, hdraws⟩ := hcall.draws w
    have hdrawn := drawn_eq hdraws.clock (Nat.le_succ_of_le hk)
    rw [hdrawn] at hn ⊢
    exact (ih (by omega)).step hdraws hn
  | operation s op w _ ih => exact numbered_run (ih (by omega)) op hn

end Scribe.Service
