import Scribe.Proofs.Store.Memory

/-!
# Ids of documents

The clock numbers all that is created, so the ids of one kind carry different numbers as long as the
clock has not run over (`Series`). The id of a document then tells when it was created, and no two
documents have the same id. The number of ids that have been drawn is kept beside the store here
(`Numbered`); the clock shows it only up to `2 ^ 32`.

`Holds` says that a store has a document exactly once. This outlasts every change of a document,
and new documents with other ids.
-/

namespace Scribe.Store.Memory

open Scribe.Action

/-! ### Numbered ids -/

/-- The id with a given start that carries a number. -/
def numbered (start : String) (k : Nat) : String := start ++ "-" ++ toString k

theorem numbered_injective (start : String) : Function.Injective (numbered start) := by
  intro a b h
  have hdigits : (toString a).toList = (toString b).toList := by
    have hlists := congrArg String.toList h
    simp only [numbered, String.toList_append] at hlists
    exact List.append_cancel_left hlists
  have hvalues := congrArg (Nat.ofDigitChars 10 · 0) hdigits
  simpa [Nat.toString_eq_repr, Nat.toList_repr] using hvalues

/-- Ids whose starts differ in their first character are different. -/
theorem numbered_ne {a b : String} {c d : Char} (ha : a.toList.head? = some c)
    (hb : b.toList.head? = some d) (hne : c ≠ d) (j k : Nat) : numbered a j ≠ numbered b k := by
  intro h
  have hheads := congrArg (·.toList.head?) h
  simp only [numbered, String.toList_append, List.append_assoc, List.head?_append, ha, hb,
    Option.some_or, Option.some.injEq] at hheads
  exact hne hheads

/-- The ids of a kind, so far: each has the start of the kind and a number of its own, from 1 to
`n`. -/
structure Series (start : String) (n : Nat) (ids : List String) : Prop where
  numbered : ∀ id ∈ ids, ∃ k, 0 < k ∧ k ≤ n ∧ id = numbered start k
  distinct : ids.Nodup

namespace Series

variable {start : String} {n k j : Nat} {ids : List String}

theorem nil (start : String) : Series start 0 [] := by
  refine ⟨?_, List.nodup_nil⟩
  intro id hid
  cases hid

/-- A number that has not been drawn is in no id. -/
theorem fresh (h : Series start n ids) (hk : n < k) : Memory.numbered start k ∉ ids := by
  intro hmem
  obtain ⟨j, -, hj, hid⟩ := h.numbered _ hmem
  have := numbered_injective start hid
  omega

theorem mono (h : Series start n ids) (hle : n ≤ k) : Series start k ids := by
  refine ⟨?_, h.distinct⟩
  intro id hid
  obtain ⟨j, hpos, hj, hnumbered⟩ := h.numbered id hid
  exact ⟨j, hpos, Nat.le_trans hj hle, hnumbered⟩

/-- A number that is drawn later makes a new id. -/
theorem append (h : Series start n ids) (hk : n < k) (hle : k ≤ j) :
    Series start j (ids ++ [Memory.numbered start k]) := by
  constructor
  · intro id hid
    rw [List.mem_append, List.mem_singleton] at hid
    rcases hid with hold | rfl
    · exact (h.mono (Nat.le_trans (Nat.le_of_lt hk) hle)).numbered id hold
    · exact ⟨k, Nat.zero_lt_of_lt hk, hle, rfl⟩
  · rw [List.nodup_append]
    refine ⟨h.distinct, List.pairwise_singleton _ _, ?_⟩
    intro id hold new hnew
    rw [List.mem_singleton.1 hnew]
    rintro rfl
    exact h.fresh hk hold

/-- Two kinds whose ids differ have no id in common. -/
theorem ne {start' : String} {n' : Nat} {ids' : List String} (h : Series start n ids)
    (h' : Series start' n' ids')
    (hne : ∀ j k, Memory.numbered start j ≠ Memory.numbered start' k) {id id' : String}
    (hid : id ∈ ids) (hid' : id' ∈ ids') : id ≠ id' := by
  obtain ⟨j, -, -, rfl⟩ := h.numbered id hid
  obtain ⟨k, -, -, rfl⟩ := h'.numbered id' hid'
  exact hne j k

end Series

/-- The store behind the drawing of an id. -/
def ticked (m : Memory) : Memory := { m with clock := m.clock + 1 }

/-- How many ids a step has drawn between two states. The clock tells, for no step draws more than
two. -/
def drawn (m m' : Memory) : Nat := (m'.clock - m.clock).toNat

/-! ### Stores whose documents are numbered -/

/-- A store from which `n` ids have been drawn: its documents carry different numbers from 1 to
`n`. -/
structure Numbered (n : Nat) (m : Memory) : Prop where
  clock : m.clock = UInt32.ofNat n
  documents : ∀ id ∈ m.documents.map (·.id), ∃ k, 0 < k ∧ k ≤ n ∧ id = numbered "doc" k
  distinct : (m.documents.map (·.id)).Nodup

/-- A step that draws `k` ids, the last of them perhaps for a new document. -/
inductive Draws (m m' : Memory) : Nat → Prop where
  | others {k : Nat} : m'.clock = m.clock + UInt32.ofNat k →
      m'.documents.map (·.id) = m.documents.map (·.id) → Draws m m' k
  | document {k : Nat} : m'.clock = m.clock + UInt32.ofNat (k + 1) →
      m'.documents.map (·.id) = m.documents.map (·.id) ++ [numbered "doc" m'.clock.toNat] →
      Draws m m' (k + 1)

variable {m m' : Memory} {n k : Nat}

theorem Draws.clock (h : Draws m m' k) : m'.clock = m.clock + UInt32.ofNat k := by
  cases h with
  | others hclock _ => exact hclock
  | document hclock _ => exact hclock

theorem drawn_eq (hclock : m'.clock = m.clock + UInt32.ofNat k) (hk : k ≤ 2) :
    drawn m m' = k := by
  have hlt : k < UInt32.size := Nat.lt_of_le_of_lt hk (by decide)
  rw [drawn, hclock, UInt32.add_comm, UInt32.add_sub_cancel, UInt32.toNat_ofNat_of_lt' hlt]

theorem Numbered.empty : Numbered 0 .empty :=
  ⟨rfl, (Series.nil "doc").numbered, List.nodup_nil⟩

theorem Numbered.series (h : Numbered n m) : Series "doc" n (m.documents.map (·.id)) :=
  ⟨h.documents, h.distinct⟩

/-- The step of the numbering. -/
theorem Numbered.step (h : Numbered n m) (hdraws : Draws m m' k) (hlt : n + k < UInt32.size) :
    Numbered (n + k) m' := by
  have hclock : m'.clock = UInt32.ofNat (n + k) := by
    rw [hdraws.clock, h.clock, UInt32.ofNat_add]
  have hseries : Series "doc" (n + k) (m'.documents.map (·.id)) := by
    cases hdraws with
    | others _ hids =>
      rw [hids]
      exact h.series.mono (Nat.le_add_right n k)
    | @document k _ hids =>
      -- The new id carries the last number that is drawn, and the others carry at most `n`.
      rw [hids, hclock, UInt32.toNat_ofNat_of_lt' hlt]
      exact h.series.append (by omega) (Nat.le_refl _)
  exact ⟨hclock, hseries.numbered, hseries.distinct⟩

/-- An id that is drawn for a document is no other document's. -/
theorem Numbered.fresh_of_clock (h : Numbered n m) {clock : UInt32}
    (hclock : clock = m.clock + UInt32.ofNat (k + 1)) (hlt : n + (k + 1) < UInt32.size) :
    numbered "doc" clock.toNat ∉ m.documents.map (·.id) := by
  have hvalue : clock.toNat = n + (k + 1) := by
    rw [hclock, h.clock, ← UInt32.ofNat_add, UInt32.toNat_ofNat_of_lt' hlt]
  rw [hvalue]
  exact h.series.fresh (by omega)

/-- What has been drawn before an action that draws nothing. -/
theorem lt_of_preserves_clock {α : Type} {a : Action Memory α} {w : World Memory}
    (ha : Preserves Memory.clock a) (hclock : w.store.clock = m.clock + UInt32.ofNat k)
    (hk : k ≤ 2) (hlt : n + drawn m (outcome a w).2.store < UInt32.size) :
    n + k < UInt32.size := by
  rwa [drawn_eq ((ha w).trans hclock) hk] at hlt

/-! ### The roll -/

/-- The ids of the documents in their order, and the clock. -/
def roll (m : Memory) : List String × UInt32 := (m.documents.map (·.id), m.clock)

theorem roll_modifyDocument {f : StoredDocument → StoredDocument} (hf : ∀ d, (f d).id = d.id)
    (m : Memory) (id : String) : (m.modifyDocument id f).roll = m.roll :=
  congrArg (·, m.clock) (map_modifyFirst hf m.documents)

theorem preserves_applyPlan_roll (id : String) (plan : Edit.Plan) :
    Preserves roll (applyPlan id plan) := by
  have hrecord : Preserves roll (record (batchCall id plan)) := fun _ => rfl
  refine hrecord.bind fun _ => preserves_store.bind fun m =>
    (preserves_find roll id).bind fun d => ?_
  refine (preserves_modifyStore fun m => ?_).bind fun _ => (preserves_ofExcept _).bind fun _ =>
    preserves_modifyStore fun m => ?_
  · exact roll_modifyDocument (by intro d; rfl) m id
  · exact roll_modifyDocument (by intro d; rfl) m id

theorem preserves_modifyComment_roll (document comment : String) (f : Comment → Comment) :
    Preserves roll (modifyComment document comment f) := by
  refine (preserves_find roll document).bind fun d => (preserves_ofExcept _).bind fun c =>
    preserves_modifyStore fun m => ?_
  exact roll_modifyDocument (by intro d; rfl) m document

/-! ### Stores that hold a document -/

/-- Whether a store has a document, exactly once, and no other document of its id. -/
def Holds (m : Memory) (d : StoredDocument) : Prop := m.documents.filter (·.id == d.id) = [d]

variable {d : StoredDocument} {id : String} {f : StoredDocument → StoredDocument}

theorem Holds.mem (h : m.Holds d) : d ∈ m.documents := by
  have hmem : d ∈ m.documents.filter (·.id == d.id) := h ▸ List.mem_singleton_self d
  exact (List.mem_filter.1 hmem).1

/-- Of numbered documents each is held. -/
theorem Numbered.holds (h : Numbered n m) (hd : d ∈ m.documents) : m.Holds d := by
  have hall : ∀ ds : List StoredDocument, (ds.map (·.id)).Nodup → d ∈ ds →
      ds.filter (·.id == d.id) = [d] := by
    intro ds hdistinct hd
    induction ds with
    | nil => cases hd
    | cons e ds ih =>
      rw [List.map_cons, List.nodup_cons] at hdistinct
      rcases List.mem_cons.1 hd with rfl | hd
      · have hothers : ds.filter (·.id == d.id) = [] := by
          rw [List.filter_eq_nil_iff]
          intro e he hid
          exact hdistinct.1 (List.mem_map.2 ⟨e, he, by simpa using hid⟩)
        rw [List.filter_cons_of_pos (by simp), hothers]
      · have hne : e.id ≠ d.id := fun hid => hdistinct.1 (hid ▸ List.mem_map_of_mem hd)
        rw [List.filter_cons_of_neg (by simpa using hne)]
        exact ih hdistinct.2 hd
  exact hall m.documents h.distinct hd

theorem Holds.document? (h : m.Holds d) : m.document? d.id = some d := by
  rw [Memory.document?, ← List.head?_filter, h]
  rfl

theorem Holds.congr (h : m.Holds d) (hdocuments : m'.documents = m.documents) : m'.Holds d := by
  rw [Holds, hdocuments]
  exact h

/-- The document that is changed is held as it has become. -/
theorem Holds.modify (h : m.Holds d) (hf : ∀ d, (f d).id = d.id) :
    (m.modifyDocument d.id f).Holds (f d) := by
  rw [Holds, hf]
  exact filter_modifyFirst (by rw [hf, beq_self_eq_true]) h

/-- A change of another document leaves it as it is. -/
theorem Holds.modify_of_ne (h : m.Holds d) (hf : ∀ d, (f d).id = d.id) (hne : id ≠ d.id) :
    (m.modifyDocument id f).Holds d := by
  refine (filter_modifyFirst_of_disjoint ?_ m.documents).trans h
  intro e he
  have hid : e.id = id := by simpa using he
  rw [hf, hid]
  exact ⟨beq_false_of_ne hne, beq_false_of_ne hne⟩

/-- A new document with another id leaves it as it is. -/
theorem Holds.append (h : m.Holds d) {e : StoredDocument} (hne : e.id ≠ d.id)
    (hdocuments : m'.documents = m.documents ++ [e]) : m'.Holds d := by
  rw [Holds, hdocuments, List.filter_append, h, List.filter_cons_of_neg (by simpa using hne)]
  rfl

end Scribe.Store.Memory
