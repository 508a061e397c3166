import Scribe.Proofs.Json.Schema
import Scribe.Proofs.Remote.Conversation
import Scribe.Proofs.Remote.Exchange
import Scribe.Proofs.Rpc.Crash

/-!
# How long a token may live

A reply may tell any lifetime of up to a word of seconds. The token is replaced a minute before it
expires, so a lifetime of no more than a minute cannot lead before the start of the clock. But the
time at which the token is replaced may lie beyond the last instant of the clock, and then the
program crashes over a reply that is in order (`currentToken_of_reply`). A server that needs the token
comes down with it (`Doomed.serve_of_callsFor`).
-/

namespace Scribe.Remote

open Scribe.Action Json

/-! ### Replies -/

/-- The data of a reply that grants a token for some seconds. -/
def grantData (value : String) (lifetime : Nat) : Value :=
  .object [("access_token", .string value), ("expires_in", .nat lifetime)]

/-- A reply that can be read grants a token, for a word of seconds. -/
theorem exists_grantData {body : String} {v : Value} (h : tokenSchema.read body = .ok v) :
    ∃ value lifetime, v = grantData value lifetime ∧ lifetime ≤ wordLimit := by
  have hv := Schema.describes_read (by decide) h
  cases hv with
  | record hfields =>
    cases hfields with
    | given hvalue hrest =>
      cases hvalue with
      | text _ value =>
        cases hrest with
        | given hlifetime hnil =>
          cases hnil
          cases hlifetime with
          | word hle => exact ⟨value, _, rfl, hle⟩
        | missing hnil =>
          cases hnil
          exact ⟨value, assertionLifetime, rfl, by decide⟩

/-! ### The end of the clock -/

/-- When a token is replaced that was asked for at an instant. -/
def refreshTime (requestedAt lifetime : Nat) : Nat :=
  requestedAt + (lifetime - refreshMargin) * second

/-- The seconds after which a clock ends. -/
def clockSeconds : Nat := 0x8000000000000000

theorem lt_refreshTime {requestedAt lifetime : Nat} (h : clockSeconds + refreshMargin ≤ lifetime) :
    lastInstant < refreshTime requestedAt lifetime := by
  have hle : clockSeconds * second ≤ (lifetime - refreshMargin) * second :=
    Nat.mul_le_mul_right second (Nat.le_sub_of_add_le h)
  have hlast : lastInstant < clockSeconds * second := by decide
  rw [refreshTime]
  omega

theorem refreshTime_of_le {requestedAt lifetime : Nat} (h : lifetime ≤ refreshMargin) :
    refreshTime requestedAt lifetime = requestedAt := by
  rw [refreshTime, Nat.sub_eq_zero_of_le h, Nat.zero_mul, Nat.add_zero]

/-! ### Exchanges -/

variable {ρ : Type} {t : Transport ρ} {key : ServiceKey} {w : World (Connection ρ)} {p : ρ}
  {body value : String} {lifetime : Nat}

/-- The request for a token that goes out now gets a reply of success with a text, and leaves the
transport in a state. -/
def Replied (t : Transport ρ) (key : ServiceKey) (w : World (Connection ρ)) (body : String)
    (p : ρ) : Prop :=
  ∃ request answer status, tokenRequest key w.store.clock.epoch = .ok request ∧
    (t.send request).run w.store.transport = (answer, p) ∧
    answer.settled = .reply status body ∧ isSuccess status = true

/-- The connection behind a reply that the program has crashed over. -/
def Replied.crashed (w : World (Connection ρ)) (p : ρ) : Connection ρ :=
  { w.store with transport := p, crash := some .clockOverflow }

/-- An exchange gives the token of the reply, if the clock can tell when it is replaced. -/
theorem Replied.outcome_fetchToken (h : Replied t key w body p)
    (hread : tokenSchema.read body = .ok (grantData value lifetime)) :
    ∃ events, outcome (fetchToken t key) w =
      if lastInstant < refreshTime w.store.requestedAt lifetime then
        (.error (.crash .clockOverflow), ⟨crashed w p, events⟩)
      else
        (.ok ⟨value, refreshTime w.store.requestedAt lifetime⟩,
          ⟨{ w.store with transport := p }, events⟩) := by
  obtain ⟨request, answer, status, hrequest, hsend, hreply, hsuccess⟩ := h
  have htoken : readToken w.store.requestedAt body =
      .ok (⟨value, refreshTime w.store.requestedAt lifetime⟩, lifetime) := by
    rw [readToken, hread]
    rfl
  rw [fetchToken, outcome_bind_ok (outcome_store w), hrequest,
    outcome_bind_ok (outcome_ofExcept _ _), outcome_bind_ok (outcome_deliver hsend), hreply]
  simp only [hsuccess, Bool.not_true, Bool.false_eq_true, if_false]
  rw [htoken, outcome_bind_ok (outcome_ofExcept _ _), noteToken, outcome_bind_ok (outcome_report ..)]
  -- The bound is only compared with; its digits are of no use here.
  generalize lastInstant = bound
  split
  · exact ⟨_, rfl⟩
  · exact ⟨_, rfl⟩

/-- What comes of a call for a token: the token, which is kept, or else a crash. -/
def Replied.ending (w : World (Connection ρ)) (p : ρ) (value : String) (lifetime : Nat) :
    Except Fault String × Connection ρ :=
  if lastInstant < refreshTime w.store.requestedAt lifetime then
    (.error (.crash .clockOverflow), crashed w p)
  else
    (.ok value,
      { w.store with
        token := some ⟨value, refreshTime w.store.requestedAt lifetime⟩, transport := p })

/-- The exchange and what is kept of it, as a call for a token has them at its end. -/
theorem Replied.outcome_keepToken (h : Replied t key w body p)
    (hread : tokenSchema.read body = .ok (grantData value lifetime)) :
    ∃ events, outcome
      (do
        let token ← fetchToken t key
        modifyStore fun c => { c with token := some token }
        return token.value) w =
      ((ending w p value lifetime).1, ⟨(ending w p value lifetime).2, events⟩) := by
  obtain ⟨events, hfetch⟩ := h.outcome_fetchToken hread
  refine ⟨events, ?_⟩
  by_cases hlate : lastInstant < refreshTime w.store.requestedAt lifetime
  · rw [if_pos hlate] at hfetch
    rw [outcome_bind, hfetch, ending, if_pos hlate]
  · rw [if_neg hlate] at hfetch
    rw [outcome_bind_ok hfetch, ending, if_neg hlate]
    rfl

/-- A call that needs a new token ends as its exchange does. -/
theorem Replied.outcome_currentToken (h : Replied t key w body p) (hdue : w.store.fresh? = none)
    (hread : tokenSchema.read body = .ok (grantData value lifetime)) :
    ∃ events, outcome (currentToken t (.serviceAccount key)) w =
      ((ending w p value lifetime).1, ⟨(ending w p value lifetime).2, events⟩) := by
  rw [currentToken, outcome_bind_ok (outcome_store w)]
  simp only [hdue]
  -- If a token is replaced, an event tells so first.
  split
  · rw [noteToken, outcome_bind_ok (outcome_report ..)]
    exact Replied.outcome_keepToken (w := { w with events := _ }) h hread
  · exact h.outcome_keepToken hread

/-! ### Servers -/

/-- A connection that the program crashes over as soon as it needs a token: it has no fresh one, and
the reply to the request for one leads beyond the end of the clock. -/
structure Doomed (t : Transport ρ) (key : ServiceKey) (w : World (Connection ρ)) : Prop where
  due : w.store.fresh? = none
  late : ∃ p body value lifetime, Replied t key w body p ∧
    tokenSchema.read body = .ok (grantData value lifetime) ∧
    lastInstant < refreshTime w.store.requestedAt lifetime

namespace Doomed

variable {r : Site} {s : Settings} {text reference document : String}

theorem outcome_currentToken (h : Doomed t key w) :
    ∃ w', outcome (currentToken t (.serviceAccount key)) w = (.error (.crash .clockOverflow), w') ∧
      w'.store.crash = some .clockOverflow := by
  obtain ⟨p, body, value, lifetime, hreplied, hread, hlate⟩ := h.late
  obtain ⟨events, hcall⟩ := hreplied.outcome_currentToken h.due hread
  rw [Replied.ending, if_pos hlate] at hcall
  exact ⟨_, hcall, rfl⟩

/-- Whatever is asked of the service, the crash comes before it. -/
theorem outcome_ask (h : Doomed t key w) (hkey : r.credentials = .serviceAccount key)
    (q : Question) :
    ∃ w', outcome (ask r t q) w = (.error (.crash .clockOverflow), w') ∧
      w'.store.crash = some .clockOverflow := by
  obtain ⟨w', hcall, hcrash⟩ := h.outcome_currentToken
  refine ⟨w', ?_, hcrash⟩
  rw [ask, outcome_bind, hkey, hcall]

theorem crash_readDoc (h : Doomed t key w) (hkey : r.credentials = .serviceAccount key)
    (hdocument : Document.resolve reference = .ok document) :
    (outcome ((Operation.readDoc reference).run (store r t) s) w).2.store.crash =
      some .clockOverflow := by
  obtain ⟨w', hask, hcrash⟩ := h.outcome_ask hkey (exportQuestion r document)
  have hexport : outcome ((store r t).exportHtml document) w =
      (.error (.crash .clockOverflow), w') := hask
  rw [Operation.run, Service.readDoc, hdocument, outcome_bind_ok (outcome_ofExcept _ _),
    outcome_bind, hexport, hcrash]

/-- A server that is asked to read a document comes down: it neither answers that line nor reads
another. -/
theorem serve_of_callsFor (h : Doomed t key w) (hkey : r.credentials = .serviceAccount key)
    (hcalls : Rpc.CallsFor text (.readDoc reference))
    (hdocument : Document.resolve reference = .ok document) (hblank : Text.allBlank text = false)
    {input : List UInt8} {back : List (List UInt8)}
    (hlines : Text.feedLines 10 13 input = Text.bytesOf text.toList :: back) :
    ((Rpc.serve (store r t) s input Connection.crash).run w).1 =
      ("", some (.crash .clockOverflow)) := by
  have hcrash : Rpc.CrashesOver (store r t) s Connection.crash (Rpc.opened w)
      (Text.bytesOf text.toList) .clockOverflow := by
    refine ⟨text, Text.decode?_eq_some_iff.2 rfl, hblank, ?_⟩
    obtain ⟨events, hstore⟩ :=
      Rpc.store_handleLine_of_callsFor hcalls (store r t) s (Rpc.opened w)
    -- Only the log is another by now.
    have hopened : (Rpc.opened w).store = w.store := rfl
    have hdoomed : Doomed t key ⟨w.store, events⟩ := ⟨h.due, h.late⟩
    rw [hstore, hopened]
    exact hdoomed.crash_readDoc hkey hdocument
  -- The line is the first one, so no other is answered before.
  have hfirst : Text.feedLines 10 13 input = [] ++ Text.bytesOf text.toList :: back := hlines
  exact congrArg Prod.fst (Rpc.run_serve_of_crashesOver hfirst rfl hcrash)

end Doomed

/-! ### Calls -/

/-- What a call for a token does behind a reply that grants one for some seconds. -/
structure Granted (t : Transport ρ) (key : ServiceKey) (w : World (Connection ρ)) (p : ρ)
    (value : String) (lifetime : Nat) : Prop where
  /-- The token is given out and kept, if the clock can tell when it is replaced. -/
  inside : refreshTime w.store.requestedAt lifetime ≤ lastInstant → ∃ events,
    outcome (currentToken t (.serviceAccount key)) w =
      (.ok value,
        ⟨{ w.store with
            token := some ⟨value, refreshTime w.store.requestedAt lifetime⟩, transport := p },
          events⟩)
  /-- Otherwise the program crashes, with the token that was kept. -/
  beyond : lastInstant < refreshTime w.store.requestedAt lifetime → ∃ events,
    outcome (currentToken t (.serviceAccount key)) w =
      (.error (.crash .clockOverflow),
        ⟨{ w.store with transport := p, crash := some .clockOverflow }, events⟩)
  /-- A token for no more than a minute is given out, whatever the clock tells. -/
  short : lifetime ≤ refreshMargin → w.store.requestedAt ≤ lastInstant →
    (outcome (currentToken t (.serviceAccount key)) w).1 = .ok value
  /-- Over one that lives a minute longer than the clock the program always crashes. -/
  long : clockSeconds + refreshMargin ≤ lifetime →
    (outcome (currentToken t (.serviceAccount key)) w).2.store.crash = some .clockOverflow

/-- **A reply can bring the program down.** Take a call that needs a new token, at any time and over
any transport, whose request gets a reply of success that can be read. The reply grants a token for a
word of seconds, and what becomes of the call depends on the time at which the token would be
replaced: it gives the token out if the clock can tell that time, and else the program crashes. -/
theorem currentToken_of_reply {v : Value} (hdue : w.store.fresh? = none)
    (hreplied : Replied t key w body p) (hread : tokenSchema.read body = .ok v) :
    ∃ value lifetime, v = grantData value lifetime ∧ lifetime ≤ wordLimit ∧
      Granted t key w p value lifetime := by
  obtain ⟨value, lifetime, rfl, hword⟩ := exists_grantData hread
  obtain ⟨events, hcall⟩ := hreplied.outcome_currentToken hdue hread
  have hinside : refreshTime w.store.requestedAt lifetime ≤ lastInstant →
      Replied.ending w p value lifetime = (.ok value,
        { w.store with
          token := some ⟨value, refreshTime w.store.requestedAt lifetime⟩, transport := p }) :=
    fun h => if_neg (Nat.not_lt.2 h)
  have hbeyond : lastInstant < refreshTime w.store.requestedAt lifetime →
      Replied.ending w p value lifetime =
        (.error (.crash .clockOverflow), Replied.crashed w p) :=
    fun h => if_pos h
  refine ⟨value, lifetime, rfl, hword, fun h => ⟨events, ?_⟩, fun h => ⟨events, ?_⟩, ?_, ?_⟩
  · rw [hcall, hinside h]
  · rw [hcall, hbeyond h]
    rfl
  · intro hshort hclock
    rw [hcall, hinside]
    rwa [refreshTime_of_le hshort]
  · intro hlong
    rw [hcall, hbeyond (lt_refreshTime hlong), Replied.crashed]

/-- A connection without a token, at a time, whose next request gets a reply with a text. -/
def asking (clock : Clock) (delay : Nat) (body : String) : World (Connection Script) :=
  ⟨⟨none, clock, delay, ⟨[.reply 200 body], []⟩, none⟩, []⟩

theorem exists_replied (clock : Clock) (delay : Nat) (body : String) :
    ∃ p, Replied Script.transport signingKey (asking clock delay body) body p := by
  obtain ⟨request, hrequest⟩ := exists_tokenRequest clock.epoch
  exact ⟨⟨[], [request]⟩, request, .reply 200 body, 200, hrequest, rfl, rfl, rfl⟩

/-- The token and the lifetime in some data. -/
def told (v : Value) : Option String × Option Nat :=
  ((v.get? "access_token").bind (·.string?), (v.get? "expires_in").bind (·.nat?))

theorem read_of_told
    (h : (tokenSchema.read body).toOption.map told = some (some value, some lifetime)) :
    tokenSchema.read body = .ok (grantData value lifetime) := by
  cases hread : tokenSchema.read body with
  | error reason =>
    rw [hread] at h
    cases h
  | ok v =>
    obtain ⟨value', lifetime', rfl, -⟩ := exists_grantData hread
    rw [hread] at h
    cases h
    rfl

/-- At the start of the clock the token is given out. -/
theorem currentToken_of_reply_hour :
    (asking ⟨0, 0⟩ 0 hourReply).store.fresh? = none ∧
      (∃ p, Replied Script.transport signingKey (asking ⟨0, 0⟩ 0 hourReply) hourReply p) ∧
      tokenSchema.read hourReply = .ok (grantData "t" 3600) ∧
      (outcome (currentToken Script.transport (.serviceAccount signingKey))
        (asking ⟨0, 0⟩ 0 hourReply)).1 = .ok "t" := by
  have hread : tokenSchema.read hourReply = .ok (grantData "t" 3600) :=
    read_of_told (by decide +kernel)
  obtain ⟨p, hreplied⟩ := exists_replied ⟨0, 0⟩ 0 hourReply
  obtain ⟨value, lifetime, hdata, -, hgranted⟩ := currentToken_of_reply rfl hreplied hread
  cases hdata
  obtain ⟨events, hcall⟩ := hgranted.inside (by decide)
  refine ⟨rfl, ⟨p, hreplied⟩, hread, ?_⟩
  rw [hcall]

/-- A reply that grants a token for as many seconds as a word holds. -/
def longReply : String := "\x7b\"access_token\":\"t\",\"expires_in\":18446744073709551615\x7d"

/-- A site whose key can sign. -/
def signingSite : Site :=
  .new "https://docs.test" "https://drive.test" (.serviceAccount signingKey)

/-- A request to call the tool that reads a document. -/
def readCall : Value :=
  .object [("id", .number (.integer 1)), ("jsonrpc", .string "2.0"), ("method", .string "tools/call"),
    ("params", .object [("arguments", .object [("doc", .string "d")]),
      ("name", .string "read_doc")])]

theorem callsFor_readCall : Rpc.CallsFor readCall.compact (.readDoc "d") :=
  ⟨_, _, _, _, Value.parse_compact (v := readCall) (by decide), ⟨rfl, rfl⟩, rfl, rfl, rfl⟩

/-- The line of this request comes before the others. -/
theorem feedLines_readCall (rest : List UInt8) :
    Text.feedLines 10 13 (Text.bytesOf readCall.compact.toList ++ 10 :: rest) =
      Text.bytesOf readCall.compact.toList :: Text.feedLines 10 13 rest := by
  have hfirst : Text.feedLines 10 13 (Text.bytesOf readCall.compact.toList ++ [10]) =
      [Text.bytesOf readCall.compact.toList] := by decide +kernel
  rw [Text.feedLines_append, hfirst, List.singleton_append]

/-- Whatever the clock tells, it ends before this token would be replaced: the program crashes over
a reply that can be read. A server that needs the token to read a document comes down, and neither
answers that line nor reads another. -/
theorem currentToken_of_longReply :
    tokenSchema.read longReply = .ok (grantData "t" wordLimit) ∧
      ∀ clock delay,
        (∃ p, Replied Script.transport signingKey (asking clock delay longReply) longReply p) ∧
          (outcome (currentToken Script.transport (.serviceAccount signingKey))
            (asking clock delay longReply)).2.store.crash = some .clockOverflow ∧
          ∀ s rest, ((Rpc.serve (store signingSite Script.transport) s
            (Text.bytesOf readCall.compact.toList ++ 10 :: rest) Connection.crash).run
              (asking clock delay longReply)).1 = ("", some (.crash .clockOverflow)) := by
  have hread : tokenSchema.read longReply = .ok (grantData "t" wordLimit) :=
    read_of_told (by decide +kernel)
  refine ⟨hread, fun clock delay => ?_⟩
  obtain ⟨p, hreplied⟩ := exists_replied clock delay longReply
  have hlate : lastInstant < refreshTime (asking clock delay longReply).store.requestedAt wordLimit :=
    lt_refreshTime (by decide)
  have hdoomed : Doomed Script.transport signingKey (asking clock delay longReply) :=
    ⟨rfl, p, longReply, "t", wordLimit, hreplied, hread, hlate⟩
  obtain ⟨w', hcall, hcrash⟩ := hdoomed.outcome_currentToken
  refine ⟨⟨p, hreplied⟩, by rw [hcall, hcrash], fun s rest => ?_⟩
  exact hdoomed.serve_of_callsFor rfl callsFor_readCall rfl (by decide +kernel)
    (feedLines_readCall rest)

end Scribe.Remote
