import Scribe.Store.Memory
import Scribe.Proofs.Action

/-!
# Looking up and changing documents

The store finds a document as the first with an id, and changes it there. A change that keeps the id
is then seen by exactly one lookup: the lookup of that id finds the changed document, any other
finds what it found before. The operations of the store come down to such changes and to the call
that they write down.
-/

namespace Scribe.Store.Memory

open Scribe.Action Edit

/-! ### The first element that satisfies a test -/

section ModifyFirst

variable {α : Type} {p q : α → Bool} {f g : α → α}

/-- The test finds the element that was changed, if it still satisfies the test. -/
theorem find?_modifyFirst (hf : ∀ x, p x = true → p (f x) = true) (l : List α) :
    (modifyFirst p f l).find? p = (l.find? p).map f := by
  induction l with
  | nil => rfl
  | cons x xs ih =>
    by_cases hx : p x = true
    · simp [modifyFirst, hx, hf x hx]
    · simp [modifyFirst, hx, ih]

/-- A test that the changed element fails, before and after, finds what it found before. -/
theorem find?_modifyFirst_of_disjoint (hq : ∀ x, p x = true → q x = false ∧ q (f x) = false)
    (l : List α) : (modifyFirst p f l).find? q = l.find? q := by
  induction l with
  | nil => rfl
  | cons x xs ih =>
    by_cases hx : p x = true
    · simp [modifyFirst, hx, hq x hx]
    · simp [modifyFirst, hx, List.find?_cons, ih]

/-- Two changes of the same element are one. -/
theorem modifyFirst_modifyFirst (hf : ∀ x, p x = true → p (f x) = true) (l : List α) :
    modifyFirst p g (modifyFirst p f l) = modifyFirst p (g ∘ f) l := by
  induction l with
  | nil => rfl
  | cons x xs ih =>
    by_cases hx : p x = true
    · simp [modifyFirst, hx, hf x hx]
    · simp [modifyFirst, hx, ih]

/-- A change that leaves the found element as it is changes nothing. -/
theorem modifyFirst_eq_self {l : List α} (h : ∀ x, l.find? p = some x → f x = x) :
    modifyFirst p f l = l := by
  induction l with
  | nil => rfl
  | cons x xs ih =>
    by_cases hx : p x = true
    · simp [modifyFirst, hx, h x (by simp [hx])]
    · simp [modifyFirst, hx, ih fun y hy => h y (by simp [hx, hy])]

/-- The one element that satisfies the test is the one that is changed. -/
theorem filter_modifyFirst {x : α} {l : List α} (hf : p (f x) = true) (h : l.filter p = [x]) :
    (modifyFirst p f l).filter p = [f x] := by
  induction l with
  | nil => cases h
  | cons y ys ih =>
    by_cases hy : p y = true
    · rw [List.filter_cons_of_pos hy, List.cons.injEq] at h
      obtain ⟨rfl, hys⟩ := h
      rw [modifyFirst, if_pos hy, List.filter_cons_of_pos hf, hys]
    · rw [List.filter_cons_of_neg hy] at h
      rw [modifyFirst, if_neg hy, List.filter_cons_of_neg hy]
      exact ih h

/-- A test that the changed element fails, before and after, selects what it selected before. -/
theorem filter_modifyFirst_of_disjoint (hq : ∀ x, p x = true → q x = false ∧ q (f x) = false)
    (l : List α) : (modifyFirst p f l).filter q = l.filter q := by
  induction l with
  | nil => rfl
  | cons x xs ih =>
    by_cases hx : p x = true
    · simp [modifyFirst, hx, hq x hx]
    · simp [modifyFirst, hx, List.filter_cons, ih]

/-- What the change leaves alone reads the same in all elements. -/
theorem map_modifyFirst {β : Type} {g : α → β} (hg : ∀ x, g (f x) = g x) (l : List α) :
    (modifyFirst p f l).map g = l.map g := by
  induction l with
  | nil => rfl
  | cons x xs ih =>
    by_cases hx : p x = true
    · simp [modifyFirst, hx, hg x]
    · simp [modifyFirst, hx, ih]

theorem length_modifyFirst (l : List α) : (modifyFirst p f l).length = l.length := by
  induction l with
  | nil => rfl
  | cons x xs ih =>
    by_cases hx : p x = true
    · simp [modifyFirst, hx]
    · simp [modifyFirst, hx, ih]

theorem mem_modifyFirst {l : List α} {y : α} (h : y ∈ modifyFirst p f l) :
    y ∈ l ∨ ∃ x ∈ l, y = f x := by
  induction l with
  | nil => cases h
  | cons x xs ih =>
    rw [modifyFirst] at h
    split at h
    · rcases List.mem_cons.1 h with rfl | hrest
      · exact .inr ⟨x, List.mem_cons_self, rfl⟩
      · exact .inl (List.mem_cons_of_mem x hrest)
    · rcases List.mem_cons.1 h with rfl | hrest
      · exact .inl List.mem_cons_self
      · rcases ih hrest with hmem | ⟨z, hz, rfl⟩
        · exact .inl (List.mem_cons_of_mem x hmem)
        · exact .inr ⟨z, List.mem_cons_of_mem x hz, rfl⟩

/-- Elements that fail the test are passed over. -/
theorem modifyFirst_append {l l' : List α} (h : ∀ x ∈ l, p x = false) :
    modifyFirst p f (l ++ l') = l ++ modifyFirst p f l' := by
  induction l with
  | nil => rfl
  | cons x xs ih =>
    have hx : ¬ p x = true := by
      rw [h x List.mem_cons_self]
      exact Bool.false_ne_true
    rw [List.cons_append, modifyFirst, if_neg hx, ih fun y hy => h y (List.mem_cons_of_mem _ hy)]
    rfl

/-- Only the first element that satisfies the test is changed. -/
theorem getElem?_modifyFirst (l : List α) (i : Nat) :
    (modifyFirst p f l)[i]? = if l.findIdx? p = some i then l[i]?.map f else l[i]? := by
  induction l generalizing i with
  | nil => simp [modifyFirst]
  | cons x xs ih =>
    by_cases hx : p x = true
    · cases i <;> simp [modifyFirst, hx, List.findIdx?_cons]
    · cases i with
      | zero => simp [modifyFirst, hx, List.findIdx?_cons]
      | succ i => simp [modifyFirst, hx, List.findIdx?_cons, ih]

end ModifyFirst

/-! ### Documents -/

variable {m : Memory} {id id' : String} {d : StoredDocument} {f g : StoredDocument → StoredDocument}

/-- A document is found under its own id. -/
theorem id_of_document? (h : m.document? id = some d) : d.id = id := by
  have hfound := List.find?_some h
  simpa using hfound

/-- The lookup of a changed document finds it changed. -/
theorem document?_modifyDocument (hf : ∀ d, (f d).id = d.id) :
    (m.modifyDocument id f).document? id = (m.document? id).map f :=
  find?_modifyFirst (fun d hd => by rw [hf]; exact hd) m.documents

/-- The lookup of another document finds what it found before. -/
theorem document?_modifyDocument_of_ne (hf : ∀ d, (f d).id = d.id) (hne : id' ≠ id) :
    (m.modifyDocument id f).document? id' = m.document? id' := by
  apply find?_modifyFirst_of_disjoint
  intro d hd
  have hid : d.id = id := by simpa using hd
  rw [hf, hid]
  exact ⟨beq_false_of_ne hne.symm, beq_false_of_ne hne.symm⟩

theorem modifyDocument_modifyDocument (hf : ∀ d, (f d).id = d.id) :
    (m.modifyDocument id f).modifyDocument id g = m.modifyDocument id (g ∘ f) := by
  rw [modifyDocument, modifyDocument, modifyFirst_modifyFirst]
  · rfl
  · intro d hd
    rw [hf]
    exact hd

theorem modifyDocument_eq_self (h : ∀ d, m.document? id = some d → f d = d) :
    m.modifyDocument id f = m := by
  rw [modifyDocument, modifyFirst_eq_self h]

/-- A change of a document leaves all others in their places. -/
theorem documents_modifyDocument (hd : m.document? id = some d) :
    ∃ front back, m.documents = front ++ d :: back ∧ (∀ e ∈ front, e.id ≠ id) ∧
      (m.modifyDocument id f).documents = front ++ f d :: back := by
  obtain ⟨hid, front, back, hdocuments, hfront⟩ := List.find?_eq_some_iff_append.1 hd
  have hothers : ∀ e ∈ front, (e.id == id) = false := fun e he => by simpa using hfront e he
  refine ⟨front, back, hdocuments, fun e he => beq_eq_false_iff_ne.1 (hothers e he), ?_⟩
  change modifyFirst (·.id == id) f m.documents = _
  rw [hdocuments, modifyFirst_append hothers, modifyFirst, if_pos hid]

/-! ### Outcomes of the operations -/

/-- The store with one more call written down. -/
def noted (call : String) (m : Memory) : Memory := { m with calls := m.calls ++ [call] }

@[simp] theorem document?_noted (call : String) (m : Memory) (id : String) :
    (m.noted call).document? id = m.document? id := rfl

@[simp] theorem outcome_record (call : String) (w : World Memory) :
    outcome (record call) w = (.ok (), { w with store := w.store.noted call }) := rfl

/-- What a store holds, and its clock, without the calls that it has written down. -/
def content (m : Memory) : Memory := { m with calls := [] }

theorem folders_of_content {m m' : Memory} (h : m'.content = m.content) :
    m'.folders = m.folders := by
  have hfolders := congrArg Memory.folders h
  exact hfolders

theorem documents_of_content {m m' : Memory} (h : m'.content = m.content) :
    m'.documents = m.documents := by
  have hdocuments := congrArg Memory.documents h
  exact hdocuments

theorem document?_of_content {m m' : Memory} (h : m'.content = m.content) (id : String) :
    m'.document? id = m.document? id := by
  rw [Memory.document?, documents_of_content h, Memory.document?]

theorem clock_of_content {m m' : Memory} (h : m'.content = m.content) : m'.clock = m.clock := by
  have hclock := congrArg Memory.clock h
  exact hclock

theorem outcome_find {w : World Memory} (h : w.store.document? id = some d) :
    outcome (find id) w = (.ok d, w) := by
  rw [find, outcome_bind_ok (outcome_store w), h]
  rfl

theorem outcome_find_none {w : World Memory} (h : w.store.document? id = none) :
    outcome (find id) w = (.error (.notFound ("document " ++ id)), w) := by
  rw [find, outcome_bind_ok (outcome_store w), h]
  rfl

theorem preserves_record (call : String) : Preserves content (record call) := fun _ => rfl

theorem preserves_find {β : Type} (part : Memory → β) (id : String) :
    Preserves part (find id) := by
  refine preserves_store.bind fun m => ?_
  cases m.document? id with
  | some d => exact preserves_pure d
  | none => exact preserves_throw _

/-- The end index of a document is that of its body. -/
theorem outcome_bodyEnd {w : World Memory} (h : w.store.document? id = some d) :
    outcome (store.bodyEnd id) w =
      (.ok (some d.endIndex), { w with store := w.store.noted ("body_end_index " ++ id) }) := by
  simp only [store, outcome_bind, outcome_record, outcome_pure,
    outcome_find (w := { w with store := w.store.noted _ }) (d := d) h]

theorem outcome_bodyEnd_none {w : World Memory} (h : w.store.document? id = none) :
    outcome (store.bodyEnd id) w =
      (.error (.notFound ("document " ++ id)),
        { w with store := w.store.noted ("body_end_index " ++ id) }) := by
  simp only [store, outcome_bind, outcome_record,
    outcome_find_none (w := { w with store := w.store.noted _ }) h]

/-- The export of a document is the one that was given for it, or else made from its body. -/
theorem outcome_exportHtml {w : World Memory} (h : w.store.document? id = some d) :
    outcome (store.exportHtml id) w =
      (.ok (d.html.getD (paragraphs d.body)),
        { w with store := w.store.noted ("export_html " ++ id) }) := by
  simp only [store, outcome_bind, outcome_record, outcome_pure,
    outcome_find (w := { w with store := w.store.noted _ }) (d := d) h]

@[simp] theorem store_applyPlan : store.applyPlan = applyPlan := rfl

/-- The call that an edit is written down as. -/
def batchCall (id : String) (plan : Plan) : String :=
  "batch_update " ++ id ++ " " ++ toString plan.length

/-- A document whose body has been edited by a plan. -/
def edited (body : List Char) (plan : Plan) (now : String) (d : StoredDocument) : StoredDocument :=
  { d with body := .ofList body, batches := d.batches ++ [plan], html := none, modifiedTime := now }

/-- An accepted plan edits the document. -/
theorem outcome_applyPlan_ok {w : World Memory} {plan : Plan} {body : List Char}
    (h : w.store.document? id = some d)
    (happly : applyRequests d.body.toList plan = (body, .ok ())) :
    outcome (applyPlan id plan) w =
      (.ok (), { w with
        store := (w.store.noted (batchCall id plan)).modifyDocument id
          (edited body plan w.store.timestamp) }) := by
  simp only [applyPlan, outcome_bind, outcome_record, outcome_store,
    outcome_find (w := { w with store := w.store.noted _ }) (d := d) h, happly,
    outcome_modifyStore, outcome_ofExcept]
  rw [modifyDocument_modifyDocument (f := fun d => { d with body := .ofList body }) fun _ => rfl]
  rfl

/-- A refused plan leaves what its requests have made of the body by then. -/
theorem outcome_applyPlan_error {w : World Memory} {plan : Plan} {body : List Char} {e : Fault}
    (h : w.store.document? id = some d)
    (happly : applyRequests d.body.toList plan = (body, .error e)) :
    outcome (applyPlan id plan) w =
      (.error e, { w with
        store := (w.store.noted (batchCall id plan)).modifyDocument id
          fun d => { d with body := .ofList body } }) := by
  simp only [applyPlan, outcome_bind, outcome_record, outcome_store,
    outcome_find (w := { w with store := w.store.noted _ }) (d := d) h, happly,
    outcome_modifyStore, outcome_ofExcept]
  rfl

/-- A plan edits the document, or it is refused and leaves a body; without the document it changes
nothing. -/
theorem documents_applyPlan (id : String) (plan : Plan) (w : World Memory) :
    (outcome (applyPlan id plan) w).2.store.documents = w.store.documents ∨
      ∃ body, (outcome (applyPlan id plan) w).2.store.documents =
          (w.store.modifyDocument id (edited body plan w.store.timestamp)).documents ∨
        (outcome (applyPlan id plan) w).2.store.documents =
          (w.store.modifyDocument id fun d => { d with body := .ofList body }).documents := by
  cases hd : w.store.document? id with
  | none =>
    left
    rw [applyPlan, outcome_bind_ok (outcome_record _ w), outcome_bind_ok (outcome_store _),
      outcome_bind, outcome_find_none (w := { w with store := w.store.noted _ }) hd]
    rfl
  | some d =>
    right
    obtain ⟨body, result, happly⟩ :
        ∃ body result, applyRequests d.body.toList plan = (body, result) := ⟨_, _, rfl⟩
    refine ⟨body, ?_⟩
    cases result with
    | ok =>
      rw [outcome_applyPlan_ok hd happly]
      exact .inl rfl
    | error e =>
      rw [outcome_applyPlan_error hd happly]
      exact .inr rfl

end Scribe.Store.Memory
