import Mathlib.Data.List.Perm.Subperm
import Scribe.Proofs.Store.Identity

/-!
# Documents and replies that stay

A store takes nothing back: its documents keep their places, ids, folders and titles, and their
replies stay (`Grows`). The replies that a step has added are then those that are there behind it and
were not there before (`gained`), whatever their ids.
-/

namespace Scribe.Store

/-- What a document is created with and keeps: its id, its folder and its title. -/
def StoredDocument.card (d : StoredDocument) : String × String × String := (d.id, d.parent, d.title)

/-- The replies to the comments on a document. -/
def StoredDocument.replies (d : StoredDocument) : List Reply := d.comments.flatMap (·.replies)

namespace Memory

/-- The replies to all comments in a store. -/
def replies (m : Memory) : List Reply := m.documents.flatMap (·.replies)

/-- The replies that a store has and another one has not; a reply that is there twice counts
twice. -/
def gained (m m' : Memory) : List Reply := m'.replies.diff m.replies

/-- A store that has all that another one has, and beside other documents some new replies. -/
structure Grows (m m' : Memory) (new : List Reply) : Prop where
  cards : m.documents.map (·.card) <+: m'.documents.map (·.card)
  replies : m'.replies.Perm (m.replies ++ new)

variable {m m' : Memory} {new : List Reply} {d : StoredDocument} {id : String}
  {f : StoredDocument → StoredDocument}

/-! ### Changes of one element -/

/-- What the changed element has more than before, all elements together have more. -/
theorem flatMap_modifyFirst {α β : Type} {p : α → Bool} {f : α → α} {g : α → List β} {new : List β}
    {x : α} {l : List α} (hx : l.find? p = some x) (hnew : (g (f x)).Perm (g x ++ new)) :
    ((modifyFirst p f l).flatMap g).Perm (l.flatMap g ++ new) := by
  induction l with
  | nil => cases hx
  | cons y ys ih =>
    by_cases hy : p y = true
    · rw [List.find?_cons_of_pos hy, Option.some.injEq] at hx
      subst hx
      rw [modifyFirst, if_pos hy, List.flatMap_cons, List.flatMap_cons]
      refine (hnew.append_right _).trans ?_
      rw [List.append_assoc, List.append_assoc]
      exact List.perm_append_comm.append_left _
    · rw [List.find?_cons_of_neg hy] at hx
      rw [modifyFirst, if_neg hy, List.flatMap_cons, List.flatMap_cons, List.append_assoc]
      exact (ih hx).append_left _

/-! ### Growth -/

/-- What has been added is what was not there before. -/
theorem Grows.gained_perm (h : Grows m m' new) : (gained m m').Perm new := by
  have hdiff : ((m.replies ++ new).diff m.replies).Perm new := by
    induction m.replies with
    | nil => exact List.Perm.refl _
    | cons r rs ih =>
      rw [List.cons_append, List.diff_cons, List.erase_cons_head]
      exact ih
  exact (h.replies.diff_right _).trans hdiff

theorem Grows.same (h : m'.documents = m.documents) : Grows m m' [] := by
  refine ⟨h ▸ List.prefix_refl _, ?_⟩
  rw [Memory.replies, h, List.append_nil]
  exact List.Perm.refl _

/-- A new document comes without replies. -/
theorem Grows.append (hd : d.comments = []) (h : m'.documents = m.documents ++ [d]) :
    Grows m m' [] := by
  constructor
  · rw [h, List.map_append]
    exact List.prefix_append _ _
  · rw [Memory.replies, h, List.flatMap_append, List.flatMap_singleton, StoredDocument.replies, hd]
    exact List.Perm.refl _

/-- A change of a document that keeps its card keeps all cards. -/
theorem cards_of_modify (hcard : ∀ d, (f d).card = d.card)
    (h : m'.documents = (m.modifyDocument id f).documents) :
    m'.documents.map (·.card) = m.documents.map (·.card) := by
  rw [h]
  exact map_modifyFirst hcard m.documents

/-- A change of a document may add replies to it. -/
theorem Grows.modify (hd : m.document? id = some d) (hcard : ∀ d, (f d).card = d.card)
    (hnew : (f d).replies.Perm (d.replies ++ new))
    (h : m'.documents = (m.modifyDocument id f).documents) : Grows m m' new := by
  refine ⟨cards_of_modify hcard h ▸ List.prefix_refl _, ?_⟩
  rw [Memory.replies, h]
  exact flatMap_modifyFirst hd hnew

/-- A change of a document that keeps its replies keeps them all. -/
theorem Grows.modify_of_replies (hcard : ∀ d, (f d).card = d.card)
    (hreplies : ∀ d, (f d).replies = d.replies)
    (h : m'.documents = (m.modifyDocument id f).documents) : Grows m m' [] := by
  refine ⟨cards_of_modify hcard h ▸ List.prefix_refl _, ?_⟩
  have hsame : m'.replies = m.replies := by
    rw [Memory.replies, h, List.flatMap_def, modifyDocument, map_modifyFirst hreplies,
      ← List.flatMap_def]
    rfl
  rw [hsame, List.append_nil]

/-- An added comment brings its replies, if the document is there. -/
theorem grows_addComment (id : String) (c : Comment) (m : Memory) :
    ∃ new, Grows m (m.addComment id c) new := by
  cases hd : m.document? id with
  | none =>
    refine ⟨[], .same ?_⟩
    rw [addComment, modifyDocument_eq_self]
    intro d hd'
    rw [hd] at hd'
    cases hd'
  | some d =>
    refine ⟨c.replies, .modify hd (by intro d; rfl) ?_ rfl⟩
    simp [StoredDocument.replies]

/-! ### Growth along states -/

theorem Grows.cards_cons {ms : List Memory} (h : Grows m m' new)
    (hcards : ∀ m₀ ∈ m :: ms, m₀.documents.map (·.card) <+: m.documents.map (·.card)) :
    ∀ m₀ ∈ m' :: m :: ms, m₀.documents.map (·.card) <+: m'.documents.map (·.card) := by
  intro m₀ hm₀
  rcases List.mem_cons.1 hm₀ with rfl | hm₀
  · exact List.prefix_refl _
  · exact (hcards m₀ hm₀).trans h.cards

/-- A document stays in its place. -/
theorem exists_card_of_prefix
    (h : m.documents.map (·.card) <+: m'.documents.map (·.card)) {i : Nat}
    (hd : m.documents[i]? = some d) :
    ∃ d', m'.documents[i]? = some d' ∧ d'.card = d.card := by
  obtain ⟨rest, hrest⟩ := h
  have hcard : (m'.documents.map (·.card))[i]? = some d.card := by
    have hlt : i < (m.documents.map (·.card)).length := by
      rw [List.length_map]
      exact (List.getElem?_eq_some_iff.1 hd).1
    rw [← hrest, List.getElem?_append_left hlt, List.getElem?_map, hd, Option.map_some]
  rw [List.getElem?_map, Option.map_eq_some_iff] at hcard
  exact hcard

end Memory

end Scribe.Store
