import Scribe.Proofs.Action
import Scribe.Remote.Store

/-!
# Conversations with the service

What the remote store does is a conversation: it asks, takes the answer, and asks again. A
conversation is bad from the first answer that is (`Exchange.fault?`), and every action of the store
stops there (`Stops`). With a token at hand nothing else of the connection changes.

`Converses` says of an action that it stops at the first bad answer, with a relation between the
exchanges and the result. There is one rule for a sequence (`Converses.bind`), and one lemma for
each way of asking: once (`converses_ask`, `converses_askFor`), or page by page
(`callsOnly_askAll`).
-/

namespace Scribe.Remote

open Scribe.Action Json

/-! ### Calls -/

/-- What the store asks the service for, a list page by page. -/
inductive Call where
  | findFolder (parent name : String) (page : Option String)
  | createFile (parent name type : String)
  | bodyEnd (document : String)
  | applyPlan (document : String) (plan : Edit.Plan)
  | exportHtml (document : String)
  | listDocuments (parent : String) (page : Option String)
  | listComments (document : String) (page : Option String)
  | createReply (document comment content : String)
  | resolveComment (document comment : String)
  deriving DecidableEq

namespace Call

/-- The question that is asked. -/
def question (r : Site) : Call → Question
  | findFolder parent name page =>
    (filesQuestion r (folderQuery parent name) "nextPageToken,files(id)").atPage page
  | createFile parent name type => createQuestion r parent name type
  | bodyEnd document => bodyQuestion r document
  | applyPlan document plan => planQuestion r document plan
  | exportHtml document => exportQuestion r document
  | listDocuments parent page =>
    (filesQuestion r (documentsQuery parent) "nextPageToken,files(id,name,modifiedTime)").atPage
      page
  | listComments document page => (commentsQuestion r document).atPage page
  | createReply document comment content => replyQuestion r document comment content
  | resolveComment document comment => resolveQuestion r document comment

/-- The data of the reply, if it is read. -/
def schema? : Call → Option Schema
  | findFolder .. | listDocuments .. => some filesSchema
  | createFile .. => some createdSchema
  | bodyEnd _ => some documentSchema
  | listComments .. => some commentsSchema
  | applyPlan .. | exportHtml _ | createReply .. | resolveComment .. => none

/-- What is wrong with the text of a reply: it cannot be read as the data that it should be. -/
def unread? (c : Call) (body : String) : Option Fault :=
  match c.schema? with
  | none => none
  | some s =>
    match s.read body with
    | .error reason => some (.malformed reason)
    | .ok _ => none

end Call

/-- A request that was sent, what it was sent for, and what came back. -/
structure Exchange where
  call : Call
  request : Request
  answer : Answer
  deriving DecidableEq

/-- The text of a reply that tells of success. -/
def Answer.text : Answer → Except Fault String
  | .lost => .error .transport
  | .reply status body =>
    if isSuccess status then .ok body else .error (.remote status (errorReason body))

/-- What is wrong with an answer: it is lost, it does not tell of success, or its data cannot be
read. -/
def Exchange.fault? (e : Exchange) : Option Fault :=
  match e.answer.text with
  | .error f => some f
  | .ok body => e.call.unread? body

/-! ### Conversations -/

variable {ρ α β : Type} {r : Site} {t : Transport ρ} {token : String}

/-- Requests that were sent one after the other, between two states of a transport. -/
inductive Conversation (r : Site) (t : Transport ρ) (token : String) :
    ρ → List Exchange → ρ → Prop where
  | nil (p : ρ) : Conversation r t token p [] p
  | cons {p p₁ p' : ρ} {e : Exchange} {es : List Exchange} {answer : Answer} :
      (e.call.question r).request? token = some e.request →
      (t.send e.request).run p = (answer, p₁) → e.answer = answer.settled →
      Conversation r t token p₁ es p' → Conversation r t token p (e :: es) p'

theorem Conversation.append {p p₁ p' : ρ} {es later : List Exchange}
    (h : Conversation r t token p es p₁) (hlater : Conversation r t token p₁ later p') :
    Conversation r t token p (es ++ later) p' := by
  induction h with
  | nil => exact hlater
  | cons hrequest hsend hanswer _ ih => exact .cons hrequest hsend hanswer (ih hlater)

/-- A conversation with a script sends its requests behind those that were sent, and takes as many
of the answers; when none is left, the connection is lost. -/
theorem Conversation.script {p p' : Script} {es : List Exchange}
    (h : Conversation r Script.transport token p es p') :
    p' = ⟨p.answers.drop es.length, p.sent ++ es.map (·.request)⟩ ∧
      ∀ (i : Nat) (e : Exchange), es[i]? = some e →
        e.answer = (p.answers[i]?.getD .lost).settled := by
  induction h with
  | nil p => exact ⟨by simp, fun i e he => nomatch he⟩
  | @cons p p₁ p' e es answer _ hsend hanswer _ ih =>
    cases hsend
    obtain ⟨rfl, hanswers⟩ := ih
    refine ⟨by simp, ?_⟩
    -- The script of the later exchanges is this one without its first answer.
    rintro (_ | i) e' he'
    · cases he'
      rw [hanswer, List.headD_eq_head?_getD, List.head?_eq_getElem?]
    · rw [hanswers i e' he', List.getElem?_tail]

/-- A conversation that stops at the first bad answer: none is bad, or only the last one, and its
fault is the result. -/
inductive Stops : List Exchange → Except Fault α → Prop where
  | good {es : List Exchange} {result : Except Fault α} : (∀ e ∈ es, e.fault? = none) →
      Stops es result
  | failed {es : List Exchange} {e : Exchange} {f : Fault} : (∀ e ∈ es, e.fault? = none) →
      e.fault? = some f → Stops (es ++ [e]) (.error f)

/-- Behind a success every answer was good. -/
theorem Stops.of_ok {es : List Exchange} {x : α} (h : Stops es (.ok x)) :
    ∀ e ∈ es, e.fault? = none := by
  cases h with
  | good hgood => exact hgood

theorem Stops.nil (result : Except Fault α) : Stops [] result :=
  .good (List.forall_mem_nil _)

/-- One exchange stops if its fault is the result. -/
theorem Stops.single {e : Exchange} {result : Except Fault α}
    (h : ∀ f, e.fault? = some f → result = .error f) : Stops [e] result := by
  cases hfault : e.fault? with
  | none => exact .good fun e' he' => (List.mem_singleton.1 he') ▸ hfault
  | some f =>
    rw [h f hfault]
    show Stops ([] ++ [e]) (.error f)
    exact .failed (List.forall_mem_nil _) hfault

/-- A failure is passed on. -/
theorem Stops.error {es : List Exchange} {f : Fault} (h : Stops es (.error f : Except Fault α)) :
    Stops es (.error f : Except Fault β) := by
  cases h with
  | good hgood => exact .good hgood
  | failed hgood hfault => exact .failed hgood hfault

theorem Stops.append {es later : List Exchange} {result : Except Fault α}
    (h : ∀ e ∈ es, e.fault? = none) (hlater : Stops later result) :
    Stops (es ++ later) result := by
  cases hlater with
  | good hgood => exact .good (List.forall_mem_append.2 ⟨h, hgood⟩)
  | failed hgood hfault =>
    rw [← List.append_assoc]
    exact .failed (List.forall_mem_append.2 ⟨h, hgood⟩) hfault

/-! ### Actions -/

/-- The token that a connection has at hand. -/
def Connection.atHand? (c : Connection ρ) : Credentials → Option String
  | .serviceAccount _ => c.fresh?
  | .accessToken token => some token
  | .missing => none

theorem outcome_currentToken {w : World (Connection ρ)} {credentials : Credentials}
    (h : w.store.atHand? credentials = some token) :
    outcome (currentToken t credentials) w = (.ok token, w) := by
  cases credentials with
  | serviceAccount key =>
    rw [currentToken, outcome_bind_ok (outcome_store w)]
    change w.store.fresh? = some token at h
    simp only [h]
    rfl
  | accessToken token' =>
    cases h
    rfl
  | missing => cases h

theorem outcome_deliver {w : World (Connection ρ)} {request : Request} {answer : Answer} {p : ρ}
    (h : (t.send request).run w.store.transport = (answer, p)) :
    outcome (deliver t request) w =
      (.ok answer.settled, { w with store := { w.store with transport := p } }) := by
  rw [deliver, outcome_bind_ok (outcome_store w)]
  simp only [h]
  rfl

/-- What an action has done to a connection: it has held a conversation that stops at the first bad
answer, and has changed nothing but the state of the transport. -/
structure Held (r : Site) (t : Transport ρ) (token : String) (c : Connection ρ)
    (es : List Exchange) (result : Except Fault α) (c' : Connection ρ) : Prop where
  conversation : Conversation r t token c.transport es c'.transport
  stops : Stops es result
  kept : c' = { c with transport := c'.transport }

/-- An action that holds a conversation on every connection that has the token at hand, with a
relation between the exchanges and the result. -/
def Converses (r : Site) (t : Transport ρ) (token : String) (a : Action (Connection ρ) α)
    (P : List Exchange → Except Fault α → Prop) : Prop :=
  ∀ w, w.store.atHand? r.credentials = some token → ∃ es,
    Held r t token w.store es (outcome a w).1 (outcome a w).2.store ∧ P es (outcome a w).1

variable {a : Action (Connection ρ) α} {f : α → Action (Connection ρ) β}
  {P : List Exchange → Except Fault α → Prop} {Q : List Exchange → Except Fault β → Prop}

theorem Converses.mono {P' : List Exchange → Except Fault α → Prop}
    (h : Converses r t token a P) (hP : ∀ es result, P es result → P' es result) :
    Converses r t token a P' := by
  intro w hw
  obtain ⟨es, hheld, hes⟩ := h w hw
  exact ⟨es, hheld, hP _ _ hes⟩

/-- What leaves the connection alone has a conversation of no exchange. -/
theorem Converses.silent (h : ∀ w, (outcome a w).2.store = w.store ∧ P [] (outcome a w).1) :
    Converses r t token a P := by
  intro w _
  obtain ⟨hstore, hP⟩ := h w
  refine ⟨[], ⟨?_, .nil _, ?_⟩, hP⟩
  · rw [hstore]
    exact .nil _
  · rw [hstore]

theorem converses_pure {x : α} (h : P [] (.ok x)) : Converses r t token (pure x) P :=
  .silent fun _ => ⟨rfl, h⟩

theorem converses_ofExcept {e : Except Fault α} (h : P [] e) :
    Converses r t token (ofExcept e) P := by
  refine .silent fun w => ?_
  rw [outcome_ofExcept]
  exact ⟨rfl, h⟩

/-- A sequence holds both conversations, one behind the other; if the first ends in a failure, the
second is not held. -/
theorem Converses.bind (h : Converses r t token a P)
    (hfail : ∀ es e, P es (.error e) → Q es (.error e))
    (hnext : ∀ es x, P es (.ok x) →
      Converses r t token (f x) fun later result => Q (es ++ later) result) :
    Converses r t token (a >>= f) Q := by
  intro w hw
  obtain ⟨es, hheld, hes⟩ := h w hw
  rw [outcome_bind]
  generalize outcome a w = first at hheld hes
  match first with
  | (.error e, w₁) =>
    exact ⟨es, ⟨hheld.conversation, hheld.stops.error, hheld.kept⟩, hfail es e hes⟩
  | (.ok x, w₁) =>
    have hkept : w₁.store = { w.store with transport := w₁.store.transport } := hheld.kept
    -- Only the transport has changed, so the token is still at hand.
    have hatHand : w₁.store.atHand? r.credentials = some token := by
      rw [hkept]
      exact hw
    obtain ⟨later, hheld', hlater⟩ := hnext es x hes w₁ hatHand
    refine ⟨es ++ later, ⟨hheld.conversation.append hheld'.conversation,
      hheld'.stops.append hheld.stops.of_ok, ?_⟩, hlater⟩
    rw [hheld'.kept, hkept]

theorem Converses.check {e : Except Fault α} (hfail : ∀ err, Q [] (.error err))
    (hnext : ∀ x, e = .ok x → Converses r t token (f x) Q) :
    Converses r t token (ofExcept e >>= f) Q := by
  refine Converses.bind (P := fun es result => es = [] ∧ result = e)
    (converses_ofExcept ⟨rfl, rfl⟩) ?_ ?_
  · rintro _ err ⟨rfl, -⟩
    exact hfail err
  · rintro _ x ⟨rfl, hx⟩
    exact hnext x hx.symm

/-- Behind something that never fails and asks nothing. -/
theorem Converses.after {γ : Type} {b : Action (Connection ρ) γ} {g : γ → Action (Connection ρ) α}
    (hb : ∀ w, ∃ x, (outcome b w).1 = .ok x ∧ (outcome b w).2.store = w.store)
    (h : ∀ x, Converses r t token (g x) P) : Converses r t token (b >>= g) P := by
  refine Converses.bind (P := fun es result => es = [] ∧ ∃ x, result = .ok x)
    (.silent fun w => ?_) ?_ ?_
  · obtain ⟨x, hx, hstore⟩ := hb w
    exact ⟨hstore, rfl, x, hx⟩
  · rintro _ e ⟨-, x, hx⟩
    cases hx
  · rintro _ x ⟨rfl, -⟩
    exact h x

/-- What comes of asking once: there is no valid request, the answer is bad, or its text is read. -/
inductive Asked (c : Call) (read : String → Except Fault α) :
    List Exchange → Except Fault α → Prop where
  | unsent : Asked c read [] (.error .transport)
  | failed {e : Exchange} {f : Fault} : e.call = c → Asked c read [e] (.error f)
  | answered {request : Request} {status : Nat} {body : String} {x : α} : read body = .ok x →
      Asked c read [⟨c, request, .reply status body⟩] (.ok x)

variable {w : World (Connection ρ)} {q : Question} {request : Request} {answer : Answer} {p : ρ}

/-- Asking sends the request for the question, once there is a token. -/
theorem outcome_ask_of_token {w₁ : World (Connection ρ)}
    (hw : outcome (currentToken t r.credentials) w = (.ok token, w₁))
    (hrequest : q.request? token = some request)
    (hsend : (t.send request).run w₁.store.transport = (answer, p)) :
    (outcome (ask r t q) w).1 = answer.settled.text ∧
      (outcome (ask r t q) w).2.store = { w₁.store with transport := p } := by
  rw [ask, outcome_bind_ok hw, hrequest]
  simp only
  rw [outcome_bind_ok (outcome_deliver hsend)]
  match answer.settled with
  | .lost => exact ⟨rfl, rfl⟩
  | .reply status body =>
    simp only [Answer.text]
    split
    · exact ⟨rfl, rfl⟩
    · exact ⟨rfl, rfl⟩

/-- Asking sends the request for the question. -/
theorem outcome_ask (hw : w.store.atHand? r.credentials = some token)
    (hrequest : q.request? token = some request)
    (hsend : (t.send request).run w.store.transport = (answer, p)) :
    (outcome (ask r t q) w).1 = answer.settled.text ∧
      (outcome (ask r t q) w).2.store = { w.store with transport := p } :=
  outcome_ask_of_token (outcome_currentToken hw) hrequest hsend

/-- One exchange is a conversation that stops if its fault is the result. -/
theorem Held.single {c : Connection ρ} {e : Exchange} {result : Except Fault α}
    (hrequest : (e.call.question r).request? token = some e.request)
    (hsend : (t.send e.request).run c.transport = (answer, p)) (hanswer : e.answer = answer.settled)
    (h : ∀ f, e.fault? = some f → result = .error f) :
    Held r t token c [e] result { c with transport := p } :=
  ⟨.cons hrequest hsend hanswer (.nil p), .single h, rfl⟩

/-- An action that makes calls of a kind only. -/
def CallsOnly (r : Site) (t : Transport ρ) (token : String) (kind : Call → Prop)
    (a : Action (Connection ρ) α) : Prop :=
  Converses r t token a fun es _ => ∀ e ∈ es, kind e.call

variable {kind : Call → Prop}

theorem CallsOnly.bind (h : CallsOnly r t token kind a)
    (hnext : ∀ x, CallsOnly r t token kind (f x)) : CallsOnly r t token kind (a >>= f) :=
  Converses.bind h (fun _ _ hes => hes) fun _ x hes =>
    (hnext x).mono fun _ _ hlater => List.forall_mem_append.2 ⟨hes, hlater⟩

theorem Asked.calls {c : Call} {read : String → Except Fault α} {es : List Exchange}
    {result : Except Fault α} (h : Asked c read es result) (hkind : kind c) :
    ∀ e ∈ es, kind e.call := by
  cases h with
  | unsent => exact List.forall_mem_nil _
  | failed hcall => exact fun e he => by rwa [List.mem_singleton.1 he, hcall]
  | answered _ => exact fun e he => by rwa [List.mem_singleton.1 he]

/-- An action that succeeds with what another one makes of its result. -/
theorem Converses.map {g : α → β} (h : Converses r t token a P)
    (hQ : ∀ es result, P es result → Q es (result.map g)) :
    Converses r t token (a >>= fun x => pure (g x)) Q :=
  h.bind (fun es e hes => hQ es _ hes) fun es x hes => by
    refine converses_pure ?_
    rw [List.append_nil]
    exact hQ es _ hes

/-- What is read once may be read further. -/
theorem Asked.map {c : Call} {read : String → Except Fault α} {es : List Exchange}
    {result : Except Fault α} (g : α → β) (h : Asked c read es result) :
    Asked c (fun body => (read body).map g) es (result.map g) := by
  cases h with
  | unsent => exact .unsent
  | failed hcall => exact .failed hcall
  | answered hread =>
    refine .answered ?_
    rw [hread]
    rfl

end Scribe.Remote
