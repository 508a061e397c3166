import Scribe.Proofs.Action
import Scribe.Remote.Store
import Scribe.Store.Memory

/-!
# Stores that do not look at the events

Events are reported for the log, and nothing that is reported decides what is done next. An action
is *oblivious* if its result and the store that it leaves depend on the store alone, whatever events
have been reported before it. Oblivious actions in a sequence are oblivious, and so are the operations
of both stores (`Store.Memory.oblivious_store`, `Remote.oblivious_store`).
-/

namespace Scribe

variable {σ α β : Type}

/-- Two worlds with the same store lead to the same result and to the same store. -/
def Oblivious (a : StateM (World σ) α) : Prop :=
  ∀ w w' : World σ, w.store = w'.store →
    (a.run w).1 = (a.run w').1 ∧ (a.run w).2.store = (a.run w').2.store

theorem oblivious_pure (x : α) : Oblivious (pure x : StateM (World σ) α) :=
  fun _ _ h => ⟨rfl, h⟩

theorem Oblivious.bind {a : StateM (World σ) α} {f : α → StateM (World σ) β} (ha : Oblivious a)
    (hf : ∀ x, Oblivious (f x)) : Oblivious (a >>= f) := by
  intro w w' h
  obtain ⟨hresult, hstore⟩ := ha w w' h
  simp only [StateT.run_bind]
  change ((f (a.run w).1).run (a.run w).2).1 = ((f (a.run w').1).run (a.run w').2).1 ∧
    ((f (a.run w).1).run (a.run w).2).2.store = ((f (a.run w').1).run (a.run w').2).2.store
  rw [hresult]
  exact hf _ _ _ hstore

theorem oblivious_mapM {f : α → StateM (World σ) β} (hf : ∀ x, Oblivious (f x)) (xs : List α) :
    Oblivious (xs.mapM f) := by
  induction xs with
  | nil =>
    rw [List.mapM_nil]
    exact oblivious_pure _
  | cons x rest ih =>
    rw [List.mapM_cons]
    exact (hf x).bind fun _ => ih.bind fun _ => oblivious_pure _

namespace Action

/-- An action on a store that does not depend on the events. -/
def Oblivious (a : Action σ α) : Prop := Scribe.Oblivious a.run

theorem oblivious_pure (x : α) : Oblivious (pure x : Action σ α) := Scribe.oblivious_pure _

theorem oblivious_throw (f : Fault) : Oblivious (throw f : Action σ α) := Scribe.oblivious_pure _

theorem oblivious_ofExcept (e : Except Fault α) : Oblivious (ofExcept e : Action σ α) := by
  cases e with
  | ok x => exact oblivious_pure x
  | error f => exact oblivious_throw f

theorem oblivious_store : Oblivious (store : Action σ σ) := fun _ _ h => ⟨congrArg Except.ok h, h⟩

theorem oblivious_modifyStore (f : σ → σ) : Oblivious (modifyStore f : Action σ Unit) :=
  fun _ _ h => ⟨rfl, congrArg f h⟩

theorem oblivious_report (level : Log.Level) (origin : Log.Origin) (message : String) :
    Oblivious (report level origin message : Action σ Unit) :=
  fun _ _ h => ⟨rfl, h⟩

theorem Oblivious.bind {a : Action σ α} {f : α → Action σ β} (ha : Oblivious a)
    (hf : ∀ x, Oblivious (f x)) : Oblivious (a >>= f) := by
  change Scribe.Oblivious (a >>= f).run
  rw [ExceptT.run_bind]
  refine Scribe.Oblivious.bind ha fun result => ?_
  cases result with
  | ok x => exact hf x
  | error f => exact Scribe.oblivious_pure _

end Action

open Scribe.Action

/-- A store whose operations do not depend on the events. -/
structure Store.Oblivious (store : Store σ) : Prop where
  findFolder : ∀ parent name, (store.findFolder parent name).Oblivious
  createFolder : ∀ parent name, (store.createFolder parent name).Oblivious
  createDocument : ∀ parent title, (store.createDocument parent title).Oblivious
  bodyEnd : ∀ document, (store.bodyEnd document).Oblivious
  applyPlan : ∀ document plan, (store.applyPlan document plan).Oblivious
  exportHtml : ∀ document, (store.exportHtml document).Oblivious
  listDocuments : ∀ parent, (store.listDocuments parent).Oblivious
  listComments : ∀ document, (store.listComments document).Oblivious
  createReply : ∀ document comment content, (store.createReply document comment content).Oblivious
  resolveComment : ∀ document comment, (store.resolveComment document comment).Oblivious

/-! ### The store in memory -/

namespace Store.Memory

theorem oblivious_record (call : String) : (record call).Oblivious := oblivious_modifyStore _

theorem oblivious_find (id : String) : (find id).Oblivious := by
  refine Action.oblivious_store.bind fun m => ?_
  split
  · exact oblivious_pure _
  · exact oblivious_throw _

theorem oblivious_draw (f : Memory → α × Memory) : (draw f).Oblivious :=
  Action.oblivious_store.bind fun _ => (oblivious_modifyStore _).bind fun _ => oblivious_pure _

theorem oblivious_modifyComment (document comment : String) (f : Comment → Comment) :
    (modifyComment document comment f).Oblivious :=
  (oblivious_find document).bind fun _ => (oblivious_ofExcept _).bind fun _ =>
    oblivious_modifyStore _

theorem oblivious_applyPlan (id : String) (plan : Edit.Plan) : (applyPlan id plan).Oblivious :=
  (oblivious_record _).bind fun _ => Action.oblivious_store.bind fun _ =>
    (oblivious_find id).bind fun _ => (oblivious_modifyStore _).bind fun _ =>
      (oblivious_ofExcept _).bind fun _ => oblivious_modifyStore _

/-- **The store in memory is oblivious.** -/
theorem oblivious_store : store.Oblivious where
  findFolder _ _ :=
    (oblivious_record _).bind fun _ => Action.oblivious_store.bind fun _ => oblivious_pure _
  createFolder _ _ := (oblivious_record _).bind fun _ => oblivious_draw _
  createDocument _ _ := (oblivious_record _).bind fun _ => oblivious_draw _
  bodyEnd id := (oblivious_record _).bind fun _ => (oblivious_find id).bind fun _ => oblivious_pure _
  applyPlan := oblivious_applyPlan
  exportHtml id :=
    (oblivious_record _).bind fun _ => (oblivious_find id).bind fun _ => oblivious_pure _
  listDocuments _ :=
    (oblivious_record _).bind fun _ => Action.oblivious_store.bind fun _ => oblivious_pure _
  listComments id :=
    (oblivious_record _).bind fun _ => (oblivious_find id).bind fun _ => oblivious_pure _
  createReply document comment _ :=
    (oblivious_record _).bind fun _ => (oblivious_draw _).bind fun _ =>
      oblivious_modifyComment document comment _
  resolveComment document comment :=
    (oblivious_record _).bind fun _ => oblivious_modifyComment document comment _

end Store.Memory

/-! ### The remote store -/

namespace Remote

variable {ρ : Type} {t : Transport ρ}

theorem oblivious_deliver (r : Request) : (deliver t r).Oblivious :=
  Action.oblivious_store.bind fun _ => (oblivious_modifyStore _).bind fun _ => oblivious_pure _

theorem oblivious_crash (c : Crash) : (crash c : Action (Connection ρ) α).Oblivious := by
  unfold crash
  exact (oblivious_modifyStore _).bind fun _ => oblivious_throw _

theorem oblivious_fetchToken (key : ServiceKey) : (fetchToken t key).Oblivious := by
  refine Action.oblivious_store.bind fun c => (oblivious_ofExcept _).bind fun request =>
    (oblivious_deliver request).bind fun answer => ?_
  split
  · exact oblivious_throw _
  · split
    · exact (oblivious_report _ _ _).bind fun _ => oblivious_throw _
    · refine (oblivious_ofExcept _).bind fun got => (oblivious_report _ _ _).bind fun _ => ?_
      split
      · exact oblivious_crash _
      · exact oblivious_pure _

theorem oblivious_currentToken (c : Credentials) : (currentToken t c).Oblivious := by
  cases c with
  | accessToken token => exact Action.oblivious_pure token
  | missing => exact oblivious_throw _
  | serviceAccount key =>
    have hfetch : Oblivious (do
        let token ← fetchToken t key
        modifyStore fun c => { c with token := some token }
        return token.value : Action (Connection ρ) String) :=
      (oblivious_fetchToken key).bind fun _ => (oblivious_modifyStore _).bind fun _ =>
        oblivious_pure _
    refine Action.oblivious_store.bind fun c => ?_
    split
    · exact oblivious_pure _
    · split
      · exact (oblivious_report _ _ _).bind fun _ => hfetch
      · exact hfetch

theorem oblivious_ask (r : Site) (q : Question) : (ask r t q).Oblivious := by
  refine (oblivious_currentToken r.credentials).bind fun token => ?_
  split
  · exact oblivious_throw _
  · refine (oblivious_deliver _).bind fun answer => ?_
    split
    · exact oblivious_throw _
    · split
      · exact oblivious_pure _
      · exact (oblivious_report _ _ _).bind fun _ => oblivious_throw _

theorem oblivious_askFor (r : Site) (q : Question) (read : String → Except Fault α) :
    (askFor r t q read).Oblivious :=
  (oblivious_ask r q).bind fun _ => oblivious_ofExcept _

theorem oblivious_askPages (r : Site) (q : Question) (read : String → Except Fault (Page α))
    (fuel : Nat) (page : Option String) : (askPages r t q read fuel page).Oblivious := by
  induction fuel generalizing page with
  | zero => exact oblivious_throw _
  | succ fuel ih =>
    refine (oblivious_askFor r _ read).bind fun p => ?_
    split
    · exact oblivious_pure _
    · exact (ih _).bind fun _ => oblivious_pure _

theorem oblivious_askAll (r : Site) (q : Question) (read : String → Except Fault (Page α)) :
    (askAll r t q read).Oblivious :=
  Action.oblivious_store.bind fun _ => oblivious_askPages r q read _ none

theorem oblivious_createFile (r : Site) (parent name type : String) :
    (createFile r t parent name type).Oblivious :=
  (oblivious_askFor r _ _).bind fun _ => (oblivious_report _ _ _).bind fun _ => oblivious_pure _

/-- **The remote store is oblivious**, over any transport. -/
theorem oblivious_store (r : Site) (t : Transport ρ) : (store r t).Oblivious where
  findFolder _ _ := (oblivious_askAll r _ _).bind fun _ => oblivious_pure _
  createFolder _ _ := oblivious_createFile r _ _ _
  createDocument _ _ := oblivious_createFile r _ _ _
  bodyEnd _ := oblivious_askFor r _ _
  applyPlan _ _ := (oblivious_report _ _ _).bind fun _ => (oblivious_ask r _).bind fun _ =>
    oblivious_pure _
  exportHtml _ := oblivious_ask r _
  listDocuments _ := (oblivious_askAll r _ _).bind fun _ => oblivious_pure _
  listComments _ := oblivious_askAll r _ _
  createReply _ _ _ := (oblivious_ask r _).bind fun _ => oblivious_pure _
  resolveComment _ _ := (oblivious_ask r _).bind fun _ => oblivious_pure _

end Remote

end Scribe
