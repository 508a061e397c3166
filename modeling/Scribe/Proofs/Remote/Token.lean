import Mathlib.Data.List.Induction
import Scribe.Proofs.Action
import Scribe.Proofs.Remote.Exchange
import Scribe.Remote.Store

/-!
# The token that is kept

The key of a service account is exchanged for tokens, and the last token that an exchange has
granted is kept until a minute before it expires (`token_cache_serves`). The theory is about a
sequence of calls for a token at times that do not go back, over a script of answers.

What an exchange comes to is said without the state (`grant`), and what the calls so far have been
granted is said without the token that is kept (`lastGrant?`). The one invariant of a run is that
this is the token that is kept (`token_afterCalls`).
-/

namespace Scribe.Remote

open Scribe.Action

/-! ### Exchanges of a key -/

/-- A token that was granted for a number of seconds, and when it was asked for. -/
structure Grant where
  value : String
  lifetime : Nat
  requestedAt : Nat
  deriving DecidableEq

namespace Grant

def expiresAt (g : Grant) : Nat := g.requestedAt + g.lifetime * second

/-- The token that is kept of a grant. -/
def token (g : Grant) : Token :=
  ⟨g.value, g.requestedAt + (g.lifetime - refreshMargin) * second⟩

theorem token_refreshAt (g : Grant) :
    g.token.refreshAt = g.requestedAt + (g.lifetime - refreshMargin) * second := by
  rw [token]

/-- Before a token has to be replaced, it lives longer than the margin. -/
theorem lt_expiresAt {g : Grant} {now : Nat} (hasked : g.requestedAt ≤ now)
    (h : now < g.token.refreshAt) : now + refreshMargin * second < g.expiresAt := by
  rw [token_refreshAt] at h
  have hlifetime : (g.lifetime - refreshMargin) * second =
      g.lifetime * second - refreshMargin * second := Nat.sub_mul _ _ _
  rw [expiresAt]
  omega

end Grant

/-- The grant that the data of a reply tells. -/
def Grant.ofValue (requestedAt : Nat) (v : Json.Value) : Grant where
  value := ((v.get? "access_token").bind (·.string?)).getD ""
  lifetime := ((v.get? "expires_in").bind (·.nat?)).getD assertionLifetime
  requestedAt := requestedAt

/-- What comes of the answer to a request for a token that went out at an instant. -/
def grant (requestedAt : Nat) : Answer → Except Fault Grant
  | .lost => .error .transport
  | .reply status body =>
    if isSuccess status then
      match tokenSchema.read body with
      | .error reason => .error (.malformed reason)
      | .ok v =>
        if lastInstant < (Grant.ofValue requestedAt v).token.refreshAt then
          .error (.crash .clockOverflow)
        else .ok (.ofValue requestedAt v)
    else .error (.remote status (refusalReason body))

/-- What the clocks tell at a call: at its start, and how much later a request goes out. -/
structure Reading where
  clock : Clock
  delay : Nat
  deriving DecidableEq

/-- A call is over before another one begins. -/
def Reading.Before (a b : Reading) : Prop := a.clock.instant + a.delay ≤ b.clock.instant

/-! ### Calls -/

/-- A call for a token: the world at its start, its result, and the world that it leaves. -/
structure TokenCall where
  start : World (Connection Script)
  result : Except Fault String
  finish : World (Connection Script)

variable (key : ServiceKey)

/-- A call at a time. -/
def tokenCall (w : World (Connection Script)) (rd : Reading) : TokenCall :=
  let start := { w with store := { w.store with clock := rd.clock, delay := rd.delay } }
  let ended := outcome (currentToken Script.transport (.serviceAccount key)) start
  ⟨start, ended.1, ended.2⟩

/-- Calls one after the other. -/
def tokenCalls : World (Connection Script) → List Reading → List TokenCall
  | _, [] => []
  | w, rd :: rest => tokenCall key w rd :: tokenCalls (tokenCall key w rd).finish rest

/-- The world behind some calls. -/
def afterCalls (w : World (Connection Script)) (readings : List Reading) :
    World (Connection Script) :=
  readings.foldl (fun w rd => (tokenCall key w rd).finish) w

namespace TokenCall

def now (e : TokenCall) : Nat := e.start.store.clock.instant

/-- The request for a token that this call would send. A key that cannot sign has none, nor has one
that names no address. -/
def request (e : TokenCall) : Except Fault Request := tokenRequest key e.start.store.clock.epoch

/-- What an exchange comes to in this call. -/
def exchange (e : TokenCall) : Except Fault Grant := do
  let _ ← e.request key
  grant e.start.store.requestedAt (e.start.store.transport.answers.headD .lost).settled

/-- What this call was granted, if it has sent a request. -/
def granted? (e : TokenCall) : Option Grant :=
  if e.finish.store.transport.sent = e.start.store.transport.sent then none
  else (e.exchange key).toOption

end TokenCall

/-- The last grant of some calls. -/
def lastGrant? (es : List TokenCall) : Option Grant := (es.filterMap (·.granted? key)).getLast?

/-- Whether a token has to be asked for: there is none yet, or the last one that was granted has no
more than the margin left. -/
def due (last : Option Grant) (now : Nat) : Bool := last.all fun g => g.token.refreshAt ≤ now

/-- What a call does that comes behind the last grant. -/
structure Serves (last : Option Grant) (e : TokenCall) : Prop where
  /-- A request is sent if a token is due, and only then. -/
  sent : e.finish.store.transport.sent = e.start.store.transport.sent ++
    if due last e.now then (e.request key).toOption.toList else []
  /-- If none is due, the last token is given out, which lives longer than the margin, and nothing
  changes. -/
  kept : due last e.now = false → ∃ g, last = some g ∧ e.result = .ok g.value ∧
    e.finish = e.start ∧ g.requestedAt ≤ e.now ∧ e.now + refreshMargin * second < g.expiresAt
  /-- An exchange that succeeds gives the new token, which is kept from then on. -/
  granted : ∀ g, due last e.now = true → e.exchange key = .ok g → e.result = .ok g.value ∧
    e.finish.store.token = some g.token
  /-- An exchange that fails gives its fault and leaves the token that is kept, and what the token
  was needed for is not asked. -/
  failed : ∀ f, due last e.now = true → e.exchange key = .error f → e.result = .error f ∧
    e.finish.store.token = e.start.store.token ∧
    ∀ (r : Site) (q : Question), r.credentials = .serviceAccount key →
      outcome (ask r Script.transport q) e.start = (.error f, e.finish)

variable {key} {w : World (Connection Script)} {rd : Reading} {last : Option Grant}

/-! ### The step -/

theorem readToken_eq (requestedAt : Nat) (body : String) :
    readToken requestedAt body =
      match tokenSchema.read body with
      | .error reason => .error (.malformed reason)
      | .ok v =>
        .ok ((Grant.ofValue requestedAt v).token, (Grant.ofValue requestedAt v).lifetime) := rfl

/-- An exchange sends its request and keeps the token as it is. -/
theorem outcome_fetchToken (w : World (Connection Script)) :
    (outcome (fetchToken Script.transport key) w).1 =
        ((tokenRequest key w.store.clock.epoch).bind fun _ => grant w.store.requestedAt
          (w.store.transport.answers.headD .lost).settled).map Grant.token ∧
      (outcome (fetchToken Script.transport key) w).2.store.token = w.store.token ∧
      (outcome (fetchToken Script.transport key) w).2.store.transport.sent =
        w.store.transport.sent ++ (tokenRequest key w.store.clock.epoch).toOption.toList := by
  rw [fetchToken, outcome_bind_ok (outcome_store w), outcome_bind, outcome_ofExcept]
  cases tokenRequest key w.store.clock.epoch with
  | error f => exact ⟨rfl, rfl, (List.append_nil _).symm⟩
  | ok request =>
    simp only [Except.bind, Except.toOption, Option.toList]
    let sent : Script := ⟨w.store.transport.answers.tail, w.store.transport.sent ++ [request]⟩
    have hdeliver : outcome (deliver Script.transport request) w =
        (.ok (w.store.transport.answers.headD .lost).settled,
          { w with store := { w.store with transport := sent } }) := rfl
    rw [outcome_bind_ok hdeliver]
    match (w.store.transport.answers.headD .lost).settled with
    | .lost => exact ⟨rfl, rfl, rfl⟩
    | .reply status body =>
      simp only [grant]
      -- The bound is only compared with; its digits are of no use here.
      generalize lastInstant = bound
      cases hstatus : isSuccess status with
      | false => exact ⟨rfl, rfl, rfl⟩
      | true =>
        simp only [readToken_eq]
        cases tokenSchema.read body with
        | error reason => exact ⟨rfl, rfl, rfl⟩
        | ok v =>
          simp only [Bool.not_true, Bool.false_eq_true, if_false, if_true]
          rw [outcome_bind_ok (outcome_ofExcept _ _), noteToken,
            outcome_bind_ok (outcome_report ..)]
          by_cases hlate : bound < (Grant.ofValue w.store.requestedAt v).token.refreshAt
          · simp only [hlate, if_true]
            exact ⟨rfl, rfl, rfl⟩
          · simp only [hlate, if_false]
            exact ⟨rfl, rfl, rfl⟩

/-- A token that was granted is kept. -/
theorem outcome_keepToken {w w' : World (Connection Script)} {result : Except Fault String}
    {exchange : Except Fault Grant}
    (h : outcome
      (do
        let token ← fetchToken Script.transport key
        modifyStore fun c => { c with token := some token }
        return token.value) w = (result, w'))
    (hexchange : ((tokenRequest key w.store.clock.epoch).bind fun _ => grant w.store.requestedAt
      (w.store.transport.answers.headD .lost).settled) = exchange) :
    result = exchange.map (·.value) ∧
      w'.store.token = (exchange.toOption.map Grant.token).or w.store.token ∧
      w'.store.transport.sent =
        w.store.transport.sent ++ (tokenRequest key w.store.clock.epoch).toOption.toList := by
  obtain ⟨hresult, htoken, hsent⟩ := @outcome_fetchToken key w
  rw [hexchange] at hresult
  rw [outcome_bind] at h
  generalize outcome (fetchToken Script.transport key) w = fetched at hresult htoken hsent h
  match exchange, fetched with
  | .error f, (_, w₁) =>
    cases hresult
    cases h
    exact ⟨rfl, htoken, hsent⟩
  | .ok g, (_, w₁) =>
    cases hresult
    cases h
    exact ⟨rfl, rfl, hsent⟩

theorem fresh?_of_token {c : Connection Script} {kept : Token} (h : c.token = some kept) :
    c.fresh? = if c.clock.instant < kept.refreshAt then some kept.value else none := by
  rw [Connection.fresh?, h, Option.filter_some]
  by_cases hfresh : c.clock.instant < kept.refreshAt
  · simp [hfresh]
  · simp [hfresh]

theorem due_some (g : Grant) (now : Nat) : due (some g) now = true ↔ g.token.refreshAt ≤ now := by
  rw [due, Option.all_some, decide_eq_true_eq]

/-- The token that is kept has to be replaced as soon as one is due. -/
theorem fresh?_of_due {c : Connection Script} (hkept : c.token = last.map Grant.token)
    (hdue : due last c.clock.instant = true) : c.fresh? = none := by
  cases last with
  | none =>
    rw [Connection.fresh?, hkept]
    rfl
  | some g => rw [fresh?_of_token hkept, if_neg (Nat.not_lt.2 ((due_some g _).1 hdue))]

theorem fresh?_of_not_due {c : Connection Script} (hkept : c.token = last.map Grant.token)
    (hdue : due last c.clock.instant = false) :
    ∃ g, last = some g ∧ c.clock.instant < g.token.refreshAt ∧ c.fresh? = some g.value := by
  cases last with
  | none => cases hdue
  | some g =>
    have hlt : c.clock.instant < g.token.refreshAt := by
      rw [← Nat.not_le, ← due_some, hdue]
      exact Bool.false_ne_true
    exact ⟨g, rfl, hlt, by rw [fresh?_of_token hkept, if_pos hlt]; rfl⟩

theorem tokenCall_now (w : World (Connection Script)) (rd : Reading) :
    (tokenCall key w rd).now = rd.clock.instant := rfl

theorem tokenCall_requestedAt (w : World (Connection Script)) (rd : Reading) :
    (tokenCall key w rd).start.store.requestedAt = rd.clock.instant + rd.delay := rfl

theorem tokenCall_transport (w : World (Connection Script)) (rd : Reading) :
    (tokenCall key w rd).start.store.transport = w.store.transport := rfl

/-- A call without exchange changes nothing. -/
theorem tokenCall_of_not_due (hkept : w.store.token = last.map Grant.token)
    (hdue : due last rd.clock.instant = false) :
    ∃ g, last = some g ∧ rd.clock.instant < g.token.refreshAt ∧
      (tokenCall key w rd).result = .ok g.value ∧
      (tokenCall key w rd).finish = (tokenCall key w rd).start := by
  obtain ⟨g, hlast, hlt, hfresh⟩ :=
    fresh?_of_not_due (c := (tokenCall key w rd).start.store) hkept hdue
  have hcall : outcome (currentToken Script.transport (.serviceAccount key))
      (tokenCall key w rd).start = (.ok g.value, (tokenCall key w rd).start) := by
    rw [currentToken, outcome_bind_ok (outcome_store _)]
    simp only [hfresh]
    rfl
  exact ⟨g, hlast, hlt, congrArg Prod.fst hcall, congrArg Prod.snd hcall⟩

/-- A call with an exchange ends as it does, and keeps the token if there is one. -/
theorem tokenCall_of_due (hkept : w.store.token = last.map Grant.token)
    (hdue : due last rd.clock.instant = true) :
    (tokenCall key w rd).result = ((tokenCall key w rd).exchange key).map (·.value) ∧
      (tokenCall key w rd).finish.store.token =
        (((tokenCall key w rd).exchange key).toOption.map Grant.token).or w.store.token ∧
      (tokenCall key w rd).finish.store.transport.sent =
        w.store.transport.sent ++ ((tokenCall key w rd).request key).toOption.toList := by
  have hfresh := fresh?_of_due (c := (tokenCall key w rd).start.store) hkept hdue
  have hcall : outcome (currentToken Script.transport (.serviceAccount key))
      (tokenCall key w rd).start =
        ((tokenCall key w rd).result, (tokenCall key w rd).finish) := rfl
  rw [currentToken, outcome_bind_ok (outcome_store _)] at hcall
  simp only [hfresh] at hcall
  -- If a token is replaced, an event tells so first.
  split at hcall
  · rw [noteToken, outcome_bind_ok (outcome_report ..)] at hcall
    exact outcome_keepToken hcall rfl
  · exact outcome_keepToken hcall rfl

/-- A call that is due is granted what its exchange comes to. -/
theorem granted?_of_due (hkept : w.store.token = last.map Grant.token)
    (hdue : due last rd.clock.instant = true) :
    (tokenCall key w rd).granted? key = ((tokenCall key w rd).exchange key).toOption := by
  obtain ⟨-, -, hsent⟩ := tokenCall_of_due hkept hdue
  rw [TokenCall.granted?, TokenCall.exchange, hsent]
  have hstart : (tokenCall key w rd).start.store.transport.sent = w.store.transport.sent := rfl
  rw [hstart]
  cases (tokenCall key w rd).request key with
  | error f => simp [Except.toOption, bind, Except.bind]
  | ok request => simp [Except.toOption, bind, Except.bind]

/-- **The step.** Behind a call the last token that was granted is kept. -/
theorem token_tokenCall (hkept : w.store.token = last.map Grant.token) (rd : Reading) :
    (tokenCall key w rd).finish.store.token =
      (((tokenCall key w rd).granted? key).or last).map Grant.token := by
  cases hdue : due last rd.clock.instant with
  | false =>
    obtain ⟨g, -, -, -, hfinish⟩ := tokenCall_of_not_due hkept hdue
    rw [TokenCall.granted?, hfinish, if_pos rfl, Option.none_or, ← hkept]
    rfl
  | true =>
    obtain ⟨-, htoken, -⟩ := tokenCall_of_due hkept hdue
    rw [htoken, granted?_of_due hkept hdue, Option.map_or, hkept]

/-- What a call does behind the last grant. -/
theorem serves_tokenCall (hkept : w.store.token = last.map Grant.token)
    (hasked : ∀ g, last = some g → g.requestedAt ≤ rd.clock.instant) :
    Serves key last (tokenCall key w rd) := by
  cases hdue : due last rd.clock.instant with
  | false =>
    have hnow : due last (tokenCall key w rd).now ≠ true := by
      show due last rd.clock.instant ≠ true
      rw [hdue]
      exact Bool.false_ne_true
    obtain ⟨g, hlast, hfresh, hresult, hfinish⟩ := tokenCall_of_not_due hkept hdue
    refine ⟨?_, fun _ => ⟨g, hlast, hresult, hfinish, hasked g hlast, ?_⟩,
      fun g h => absurd h hnow, fun f h => absurd h hnow⟩
    · rw [if_neg hnow, hfinish, List.append_nil]
    · exact Grant.lt_expiresAt (hasked g hlast) hfresh
  | true =>
    obtain ⟨hresult, htoken, hsent⟩ := tokenCall_of_due hkept hdue
    have hnow : due last (tokenCall key w rd).now = true := hdue
    refine ⟨?_, fun h => ?_, fun g _ hg => ?_, fun f _ hf => ?_⟩
    · rw [if_pos hnow]
      exact hsent
    · rw [hnow] at h
      cases h
    · rw [hg] at hresult htoken
      exact ⟨hresult, htoken⟩
    · rw [hf] at hresult htoken
      refine ⟨hresult, htoken, fun r q hr => ?_⟩
      have hcall : outcome (currentToken Script.transport r.credentials)
          (tokenCall key w rd).start = (.error f, (tokenCall key w rd).finish) := by
        rw [hr]
        exact Prod.ext hresult rfl
      rw [ask, outcome_bind, hcall]

/-! ### The run -/

theorem lastGrant?_append (es : List TokenCall) (e : TokenCall) :
    lastGrant? key (es ++ [e]) = (e.granted? key).or (lastGrant? key es) := by
  rw [lastGrant?, List.filterMap_append, List.getLast?_append, lastGrant?]
  cases hgranted : e.granted? key with
  | none => simp [hgranted]
  | some g => simp [hgranted]

theorem tokenCalls_append (w : World (Connection Script)) (readings : List Reading) (rd : Reading) :
    tokenCalls key w (readings ++ [rd]) =
      tokenCalls key w readings ++ [tokenCall key (afterCalls key w readings) rd] := by
  induction readings generalizing w with
  | nil => rfl
  | cons first rest ih => exact congrArg (tokenCall key w first :: ·) (ih _)

/-- **The token that is kept** is the last one that was granted, or the one that was kept at the
start. -/
theorem token_afterCalls {first : Option Grant} (hfirst : w.store.token = first.map Grant.token)
    (readings : List Reading) :
    (afterCalls key w readings).store.token =
      ((lastGrant? key (tokenCalls key w readings)).or first).map Grant.token := by
  -- The last call is the step, and the token that it finds is the last grant of the others.
  induction readings using List.reverseRecOn with
  | nil => exact hfirst
  | append_singleton readings rd ih =>
    rw [tokenCalls_append, lastGrant?_append, Option.or_assoc, ← token_tokenCall ih rd, afterCalls,
      List.foldl_append]
    rfl

theorem grant_requestedAt {requestedAt : Nat} {answer : Answer} {g : Grant}
    (h : grant requestedAt answer = .ok g) : g.requestedAt = requestedAt := by
  unfold grant at h
  split at h
  · cases h
  · split at h
    · split at h
      · cases h
      · split at h
        · cases h
        · cases h
          rfl
    · cases h

/-- A grant was asked for in one of the calls. -/
theorem requestedAt_of_lastGrant? {readings : List Reading} {g : Grant}
    (h : lastGrant? key (tokenCalls key w readings) = some g) :
    ∃ rd ∈ readings, g.requestedAt = rd.clock.instant + rd.delay := by
  induction readings using List.reverseRecOn with
  | nil => cases h
  | append_singleton readings rd ih =>
    rw [tokenCalls_append, lastGrant?_append, Option.or_eq_some_iff] at h
    rcases h with hnew | ⟨-, hold⟩
    · -- Granted by this call, whose exchange then has succeeded.
      rw [TokenCall.granted?] at hnew
      split at hnew
      · cases hnew
      · cases hexchange : (tokenCall key (afterCalls key w readings) rd).exchange key with
        | error f =>
          rw [hexchange] at hnew
          cases hnew
        | ok g' =>
          rw [hexchange] at hnew
          cases hnew
          obtain ⟨request, -, hgrant⟩ := ok_of_bind hexchange
          exact ⟨rd, by simp, grant_requestedAt hgrant⟩
    · obtain ⟨rd', hrd', hasked⟩ := ih hold
      exact ⟨rd', List.mem_append_left _ hrd', hasked⟩

theorem due_of_le {a b : Nat} (h : due last a = true) (hab : a ≤ b) : due last b = true := by
  cases last with
  | none => rfl
  | some g => exact (due_some g b).2 (Nat.le_trans ((due_some g a).1 h) hab)

/-- A call that fails was due, and has not been granted anything. -/
theorem due_of_error (hkept : w.store.token = last.map Grant.token) {f : Fault}
    (h : (tokenCall key w rd).result = .error f) :
    due last rd.clock.instant = true ∧ (tokenCall key w rd).granted? key = none := by
  cases hdue : due last rd.clock.instant with
  | false =>
    obtain ⟨g, -, -, hresult, -⟩ := tokenCall_of_not_due hkept hdue
    rw [hresult] at h
    cases h
  | true =>
    obtain ⟨hresult, -, -⟩ := tokenCall_of_due hkept hdue
    refine ⟨rfl, ?_⟩
    rw [granted?_of_due hkept hdue]
    rw [hresult] at h
    cases hexchange : (tokenCall key w rd).exchange key with
    | error f => rfl
    | ok g =>
      rw [hexchange] at h
      cases h

theorem tokenCalls_eq_append {readings : List Reading} {es es' : List TokenCall} {e : TokenCall}
    (h : tokenCalls key w readings = es ++ e :: es') :
    ∃ earlier rd later, readings = earlier ++ rd :: later ∧ es = tokenCalls key w earlier ∧
      e = tokenCall key (afterCalls key w earlier) rd ∧ es' = tokenCalls key e.finish later := by
  induction es generalizing w readings with
  | nil =>
    cases readings with
    | nil => cases h
    | cons rd later =>
      cases h
      exact ⟨[], rd, later, rfl, rfl, rfl, rfl⟩
  | cons first es ih =>
    cases readings with
    | nil => cases h
    | cons rd readings =>
      obtain ⟨rfl, hrest⟩ := List.cons.inj h
      obtain ⟨earlier, rd', later, rfl, rfl, he, hes'⟩ := ih hrest
      exact ⟨rd :: earlier, rd', later, rfl, rfl, he, hes'⟩

/-- **The token cache.** Take any calls for a token with the key of a service account, at times that
do not go back and over any script of answers, on a connection that keeps the first grant, if there
is one. Each call sends a request for a token if and only if none was granted so far or the last one
is due, by its lifetime and the time that it was asked for. If none is due it gives out the last
token, which lives longer than the margin. An exchange that succeeds gives the new token. One that
fails gives its fault and leaves the token that is kept, it is tried again at the next call, and
what the token was needed for is not asked. -/
theorem token_cache_serves {first : Option Grant} (hfirst : w.store.token = first.map Grant.token)
    {readings : List Reading} (hordered : readings.Pairwise Reading.Before)
    (hasked : ∀ g ∈ first, ∀ rd ∈ readings, g.requestedAt ≤ rd.clock.instant)
    {es later : List TokenCall} {e : TokenCall}
    (h : tokenCalls key w readings = es ++ e :: later) :
    Serves key ((lastGrant? key es).or first) e ∧
      ∀ f, e.result = .error f → ∀ next ∈ later.head?,
        due ((lastGrant? key (es ++ [e])).or first) next.now = true := by
  obtain ⟨earlier, rd, rest, rfl, rfl, rfl, rfl⟩ := tokenCalls_eq_append h
  have hkept := @token_afterCalls key w first hfirst earlier
  obtain ⟨-, hrest, hbefore⟩ := List.pairwise_append.1 hordered
  have hrequested : ∀ g, (lastGrant? key (tokenCalls key w earlier)).or first = some g →
      g.requestedAt ≤ rd.clock.instant := by
    intro g hg
    rcases Option.or_eq_some_iff.1 hg with hnew | ⟨-, hold⟩
    · obtain ⟨rd', hrd', hrequestedAt⟩ := requestedAt_of_lastGrant? hnew
      rw [hrequestedAt]
      exact hbefore rd' hrd' rd (List.mem_cons_self ..)
    · exact hasked g hold rd (by simp)
  refine ⟨serves_tokenCall hkept hrequested, fun f hf next hnext => ?_⟩
  obtain ⟨hdue, hgranted⟩ := due_of_error hkept hf
  rw [lastGrant?_append, hgranted, Option.none_or]
  cases rest with
  | nil => cases hnext
  | cons rd' rest =>
    have hnow : next.now = rd'.clock.instant := by
      cases hnext
      rfl
    have hlater : rd.clock.instant + rd.delay ≤ rd'.clock.instant :=
      (List.pairwise_cons.1 hrest).1 rd' (List.mem_cons_self ..)
    rw [hnow]
    exact due_of_le hdue (by omega)

theorem granted?_of_finish {e : TokenCall} (h : e.finish = e.start) : e.granted? key = none := by
  rw [TokenCall.granted?, h, if_pos rfl]

/-- A token for two minutes that was asked for at the start. -/
def oldGrant : Grant := ⟨"old", 120, 0⟩

/-- A connection that keeps this token, and can get one for an hour. -/
def twoMinutes : World (Connection Script) :=
  ⟨⟨some oldGrant.token, ⟨0, 0⟩, 0, ⟨[.reply 200 hourReply], []⟩, none⟩, []⟩

/-- The last time at which the token need not be replaced, the first at which it has to be, and a
second later. -/
def aroundMinute : List Reading :=
  [⟨⟨60 * second - 1, 0⟩, 0⟩, ⟨⟨60 * second, 0⟩, 5⟩, ⟨⟨61 * second, 1⟩, 0⟩]

/-- Until a nanosecond before it is due the old token is given out. Then a new one is asked for, and
given out from then on. -/
theorem token_cache_serves_minute :
    twoMinutes.store.token = (some oldGrant).map Grant.token ∧
      aroundMinute.Pairwise Reading.Before ∧
      (∀ g ∈ some oldGrant, ∀ rd ∈ aroundMinute, g.requestedAt ≤ rd.clock.instant) ∧
      ∃ old renewed kept, tokenCalls signingKey twoMinutes aroundMinute = [old, renewed, kept] ∧
        old.result = .ok "old" ∧ renewed.result = .ok "t" ∧ kept.result = .ok "t" ∧
        ∃ request, kept.finish.store.transport.sent = [request] := by
  have hfirst : twoMinutes.store.token = (some oldGrant).map Grant.token := rfl
  have hordered : aroundMinute.Pairwise Reading.Before := by
    unfold aroundMinute Reading.Before
    decide
  have hasked : ∀ g ∈ some oldGrant, ∀ rd ∈ aroundMinute, g.requestedAt ≤ rd.clock.instant := by
    rintro g ⟨⟩ rd _
    exact Nat.zero_le _
  let old := tokenCall signingKey twoMinutes ⟨⟨60 * second - 1, 0⟩, 0⟩
  let renewed := tokenCall signingKey old.finish ⟨⟨60 * second, 0⟩, 5⟩
  let kept := tokenCall signingKey renewed.finish ⟨⟨61 * second, 1⟩, 0⟩
  have hcalls : tokenCalls signingKey twoMinutes aroundMinute = [old, renewed, kept] := rfl
  have hstart : old.start.store.transport = ⟨[.reply 200 hourReply], []⟩ :=
    tokenCall_transport _ _
  have hrenewal : renewed.start.store.transport = old.finish.store.transport :=
    tokenCall_transport _ _
  have hkeeping : kept.start.store.transport = renewed.finish.store.transport :=
    tokenCall_transport _ _
  have hnow₁ : old.now = 60 * second - 1 := tokenCall_now _ _
  have hnow₂ : renewed.now = 60 * second := tokenCall_now _ _
  have hnow₃ : kept.now = 61 * second := tokenCall_now _ _
  have hrequestedAt : renewed.start.store.requestedAt = 60 * second + 5 :=
    tokenCall_requestedAt _ _
  have hserves := @token_cache_serves signingKey twoMinutes _ hfirst _ hordered hasked
  obtain ⟨hold, -⟩ := @hserves [] [renewed, kept] old hcalls
  obtain ⟨hrenewed, -⟩ := @hserves [old] [kept] renewed hcalls
  obtain ⟨hkept, -⟩ := @hserves [old, renewed] [] kept hcalls
  -- No more is needed of how the calls come about.
  clear_value old renewed kept
  -- The first call gives out the old token, without a request.
  obtain ⟨g₀, hg₀, hresult, hfinish, -⟩ := hold.kept (by rw [hnow₁]; decide)
  cases hg₀
  rw [hfinish, hstart] at hrenewal
  have hlast : lastGrant? signingKey [old] = none :=
    (lastGrant?_append [] old).trans (by rw [granted?_of_finish hfinish]; rfl)
  rw [hlast, Option.none_or] at hrenewed
  -- The second call is due and finds the reply.
  have hdue : due (some oldGrant) renewed.now = true := by
    rw [hnow₂]
    decide
  obtain ⟨request, hrequest⟩ := exists_tokenRequest renewed.start.store.clock.epoch
  have hexchange : renewed.exchange signingKey = .ok ⟨"t", 3600, 60 * second + 5⟩ := by
    rw [TokenCall.exchange, TokenCall.request, hrequest, hrenewal, hrequestedAt]
    show grant (60 * second + 5) (.reply 200 hourReply) = _
    decide +kernel
  have hsent : renewed.finish.store.transport.sent = [request] := by
    rw [hrenewed.sent, if_pos hdue, TokenCall.request, hrequest, hrenewal]
    rfl
  have hgranted : renewed.granted? signingKey = some ⟨"t", 3600, 60 * second + 5⟩ := by
    rw [TokenCall.granted?, hsent, hrenewal, hexchange, if_neg (List.cons_ne_nil _ _)]
    rfl
  have hlast' : lastGrant? signingKey [old, renewed] = some ⟨"t", 3600, 60 * second + 5⟩ :=
    (lastGrant?_append [old] renewed).trans (by rw [hgranted, Option.some_or])
  rw [hlast', Option.some_or] at hkept
  -- The third call gives out the new token.
  obtain ⟨g₁, hg₁, hresult', hfinish', -⟩ := hkept.kept (by rw [hnow₃]; decide)
  cases hg₁
  refine ⟨hfirst, hordered, hasked, old, renewed, kept, hcalls, hresult,
    (hrenewed.granted _ hdue hexchange).1, hresult', request, ?_⟩
  rw [hfinish', hkeeping, hsent]

end Scribe.Remote
