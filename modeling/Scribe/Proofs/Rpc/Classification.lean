import Scribe.Proofs.Rpc.Message
import Scribe.Proofs.Tool.Call

/-!
# Which answer a message gets

A notification is a message without an id that asks for a method; it gets no answer and the store is
left alone. Every other object gets one answer, under its own id, and the code of an error is that of
the first check that fails: the form of the message, its method, the parameters of a tool call
(`handleLine_classified`).
-/

namespace Scribe.Rpc

open Json

variable {σ : Type} {store : Store σ} {s : Settings} {w : World σ}

/-! ### Answers as data -/

/-- The code of an outcome, if it is an error. -/
def Outcome.code? : Outcome → Option Int
  | .result _ => none
  | .error kind _ => some kind.code

/-- An answer in its written form: under an id, with a result, or with an error of the given code
in its place. -/
inductive Answers (id : Value) : Option Int → Value → Prop where
  | result (v : Value) :
      Answers id none (.object [("id", id), ("jsonrpc", .string "2.0"), ("result", v)])
  | error (code : Int) (message : String) :
      Answers id (some code)
        (.object
          [("error", .object [("code", .number (.integer code)), ("message", .string message)]),
           ("id", id), ("jsonrpc", .string "2.0")])

theorem answers_toJson {r : Response} (hid : r.id.Ordered) :
    Answers r.id r.outcome.code? r.toJson := by
  obtain ⟨id, outcome⟩ := r
  cases outcome with
  | result v =>
    have hform : Response.toJson ⟨id, .result v⟩ =
        .object [("id", id.sorted), ("jsonrpc", .string "2.0"), ("result", v.sorted)] := rfl
    rw [hform, hid.sorted_eq]
    exact .result v.sorted
  | error kind message =>
    have hform : Response.toJson ⟨id, .error kind message⟩ =
        .object
          [("error", .object
              [("code", .number (.integer kind.code)), ("message", .string message)]),
           ("id", id.sorted), ("jsonrpc", .string "2.0")] := rfl
    rw [hform, hid.sorted_eq]
    exact .error kind.code message

/-! ### Requests -/

/-- The methods that there are. -/
def methods : List String := ["initialize", "ping", "tools/list", "tools/call"]

/-- Parameters with which no tool can be called: they name no call, or one that is refused. -/
def Uncallable (store : Store σ) (s : Settings) (w : World σ) (params : Value) : Prop :=
  ∀ name arguments, callOf? params = some (name, arguments) →
    ∃ f, ((Tool.call store s name arguments).run w).1 = .error f

/-- Parameters that name a call which asks for an operation. -/
def callable (params : Value) : Bool :=
  (callOf? params).any fun call => (Tool.requested call.1 call.2).isOk

theorem uncallable_iff {params : Value} :
    Uncallable store s w params ↔ callable params = false := by
  unfold Uncallable callable
  cases callOf? params with
  | none => simp
  | some call =>
    obtain ⟨name, arguments⟩ := call
    cases hrequested : Tool.requested name arguments with
    | error f =>
      obtain ⟨w', -, hrun⟩ := Tool.call_of_requested_error hrequested s w
      simp [Except.isOk, Except.toBool, hrequested, hrun store]
    | ok op =>
      obtain ⟨output, w', hrun, -⟩ := Tool.call_of_requested_ok hrequested store s w
      simp [Except.isOk, Except.toBool, hrequested, hrun]

theorem code?_callTool {params : Value} (h : params.Ordered) (w : World σ) :
    ((callTool store s params).run w).1.code? =
      if callable params then none else some (-32602) := by
  have hread := toOption_decode_call h
  unfold callTool callable
  -- The schema is decoded exactly if `callOf?` finds a call, which leaves one case on each side.
  cases hcall : callOf? params with
  | none =>
    rw [hcall] at hread
    cases hdecode : callSchema.decode params with
    | error reason => rfl
    | ok v => rw [hdecode] at hread; cases hread
  | some call =>
    obtain ⟨name, arguments⟩ := call
    rw [hcall] at hread
    cases hdecode : callSchema.decode params with
    | error reason => rw [hdecode] at hread; cases hread
    | ok v =>
      rw [hdecode] at hread
      cases hread
      -- What is left is the call itself; only its result counts, not the world behind it.
      change Outcome.code? (StateT.run (Tool.call store s name arguments >>= _) w).1 = _
      rw [StateT.run_bind, Option.any_some]
      cases hrequested : Tool.requested name arguments with
      | error f =>
        obtain ⟨w', -, hrun⟩ := Tool.call_of_requested_error hrequested s w
        rw [hrun store]
        rfl
      | ok op =>
        obtain ⟨output, w', hrun, -⟩ := Tool.call_of_requested_ok hrequested store s w
        rw [hrun]
        rfl

/-- The code of the answer to a request: that of the first check that fails. -/
theorem code?_dispatch {r : Request} (h : r.params.Ordered) (w : World σ) :
    ((dispatch store s r).run w).1.code? =
      if r.method ∉ methods then some (-32601)
      else if r.method = "tools/call" ∧ callable r.params = false then some (-32602)
      else none := by
  obtain ⟨method, params⟩ := r
  unfold dispatch
  dsimp only
  split
  · rfl
  · rfl
  · rfl
  · rw [code?_callTool h]
    cases callable params <;> rfl
  · next hfirst hping hlist hcall =>
    have hother : method ∉ methods := by
      simpa [methods] using ⟨hfirst, hping, hlist, hcall⟩
    rw [if_pos hother]
    rfl

/-! ### Messages -/

variable {members : List (String × Value)} {method : String}

/-- The code with which a message that is no notification is answered: that of the first check that
fails, and none if all succeed. -/
structure Classified (store : Store σ) (s : Settings) (w : World σ) (message : Value)
    (code? : Option Int) : Prop where
  invalid : code? = some (-32600) ↔ ¬ ∃ method, Asks message method
  unknown : ∀ method, Asks message method → (code? = some (-32601) ↔ method ∉ methods)
  refused : ∀ method ∈ methods, Asks message method →
    (code? = some (-32602) ↔ method = "tools/call" ∧ Uncallable store s w (paramsOf message))
  nothingElse : ∀ code ∈ code?, code ∈ [-32600, -32601, -32602]

theorem classified_of_not_asks {message : Value} (h : ¬ ∃ method, Asks message method) :
    Classified store s w message (some (-32600)) where
  invalid := iff_of_true rfl h
  unknown method hasks := (h ⟨method, hasks⟩).elim
  refused method _ hasks := (h ⟨method, hasks⟩).elim
  nothingElse := by simp

theorem classified_of_unknown {message : Value} (hasks : Asks message method)
    (h : method ∉ methods) : Classified store s w message (some (-32601)) where
  invalid := iff_of_false (by decide) (not_not_intro ⟨method, hasks⟩)
  unknown other hother := iff_of_true rfl (hasks.unique hother ▸ h)
  refused other hmem hother := absurd (hasks.unique hother ▸ hmem) h
  nothingElse := by simp

theorem classified_of_uncallable {message : Value} (hasks : Asks message "tools/call")
    (h : Uncallable store s w (paramsOf message)) :
    Classified store s w message (some (-32602)) where
  invalid := iff_of_false (by decide) (not_not_intro ⟨_, hasks⟩)
  unknown _ hother := iff_of_false (by decide) (hasks.unique hother ▸ by decide)
  refused _ _ hother := iff_of_true rfl ⟨(hasks.unique hother).symm, h⟩
  nothingElse := by simp

theorem classified_of_answered {message : Value} (hasks : Asks message method)
    (hmem : method ∈ methods)
    (h : ¬ (method = "tools/call" ∧ Uncallable store s w (paramsOf message))) :
    Classified store s w message none where
  invalid := iff_of_false nofun (not_not_intro ⟨method, hasks⟩)
  unknown _ hother := iff_of_false nofun (not_not_intro (hasks.unique hother ▸ hmem))
  refused _ _ hother := iff_of_false nofun (hasks.unique hother ▸ h)
  nothingElse := nofun

/-- The answer to a request for a method is classified, whatever the world it is given on. -/
theorem classified_dispatch {message : Value} (hordered : message.Ordered)
    (hasks : Asks message method) (w' : World σ) :
    Classified store s w message
      ((dispatch store s ⟨method, paramsOf message⟩).run w').1.code? := by
  rw [code?_dispatch hordered.getD_null]
  by_cases hmem : method ∈ methods
  · rw [if_neg (not_not_intro hmem)]
    by_cases hrefused : method = "tools/call" ∧ callable (paramsOf message) = false
    · rw [if_pos hrefused]
      obtain ⟨rfl, h⟩ := hrefused
      exact classified_of_uncallable hasks (uncallable_iff.2 h)
    · rw [if_neg hrefused]
      exact classified_of_answered hasks hmem fun h => hrefused ⟨h.1, uncallable_iff.1 h.2⟩
  · rw [if_pos hmem]
    exact classified_of_unknown hasks hmem

/-! ### Lines -/

theorem run_handleMessage_of_error {message : Value} {reason : String}
    (h : Request.ofMessage message = .error reason) :
    (handleMessage store s message).run w =
      (some ⟨(message.get? "id").getD .null, .error .invalidRequest reason⟩, w) := by
  unfold handleMessage
  rw [h]
  rfl

theorem run_handleMessage_of_notification {message : Value} {r : Request}
    (h : Request.ofMessage message = .ok r) (hid : message.get? "id" = none) :
    (handleMessage store s message).run w =
      (none, { w with events := w.events ++ [⟨.debug, .server, "Notification " ++ r.method⟩] }) := by
  unfold handleMessage
  rw [h, hid]
  rfl

theorem run_handleMessage_of_request (store : Store σ) (s : Settings) (w : World σ)
    {message id : Value} {r : Request}
    (h : Request.ofMessage message = .ok r) (hid : message.get? "id" = some id) :
    ∃ w', ((handleMessage store s message).run w).1 =
      some ⟨id, ((dispatch store s r).run w').1⟩ := by
  unfold handleMessage
  rw [h, hid]
  exact ⟨_, rfl⟩

theorem run_handleLine_of_error {line : String} {stop : Stop}
    (h : Value.parse line = .error stop) :
    (handleLine store s line).run w =
      (some ⟨.null, .error .parseError ("parse error: " ++ stop.message line)⟩,
        { w with events := w.events ++
          [⟨.warn, .server, "Unparseable message: " ++ stop.message line⟩] }) := by
  unfold handleLine
  rw [h]
  rfl

/-- A message that is read from a line is ordered, so that it is handled as it stands. -/
theorem handleLine_of_parse {line : String} {message : Value} (h : Value.parse line = .ok message) :
    handleLine store s line = handleMessage store s message := by
  unfold handleLine
  rw [h]
  exact congrArg (handleMessage store s) (ordered_parse h).sorted_eq

/-- A message that is an object gets no answer, or one that is classified. -/
theorem handleMessage_classified (store : Store σ) (s : Settings) (w : World σ)
    (hordered : (Value.object members).Ordered) :
    let message := Value.object members
    let done := (handleMessage store s message).run w
    let notifies := message.get? "id" = none ∧ ∃ method, Asks message method
    (notifies → done.1 = none ∧ done.2.store = w.store) ∧
      (¬ notifies → ∃ r, done.1 = some r ∧ r.id = (message.get? "id").getD .null ∧
        Classified store s w message r.outcome.code?) := by
  intro message done notifies
  have hascending : Value.Ascending members := by
    cases hordered
    assumption
  constructor
  · rintro ⟨hid, method, hasks⟩
    have hdone : done = _ :=
      run_handleMessage_of_notification (ofMessage_of_asks hascending hasks) hid
    rw [hdone]
    exact ⟨rfl, rfl⟩
  · intro hnot
    -- A message that asks for a method must have an id here, or it would notify.
    by_cases hasks : ∃ method, Asks message method
    · obtain ⟨method, hasks⟩ := hasks
      have hr := ofMessage_of_asks hascending hasks
      cases hid : message.get? "id" with
      | none => exact absurd ⟨hid, method, hasks⟩ hnot
      | some id =>
        obtain ⟨w', hdone⟩ := run_handleMessage_of_request store s w hr hid
        exact ⟨_, hdone, rfl, classified_dispatch hordered hasks w'⟩
    · have hreason : ∃ reason, Request.ofMessage message = .error reason := by
        cases hr : Request.ofMessage message with
        | error reason => exact ⟨reason, rfl⟩
        | ok r => exact absurd ⟨_, asks_of_ofMessage hascending hr⟩ hasks
      obtain ⟨reason, hr⟩ := hreason
      have hdone : done = _ := run_handleMessage_of_error hr
      exact ⟨_, congrArg Prod.fst hdone, rfl, classified_of_not_asks hasks⟩

/-- **The answers are classified exactly.** A line that is no JSON gets an error of its own and
touches nothing. An object is dropped without a trace in the store if it is a notification; any other
object gets one answer under its id, classified by its members alone. -/
theorem handleLine_classified (store : Store σ) (s : Settings) (line : String) (w : World σ) :
    let done := (handleLine store s line).run w
    let reply := done.1.map Response.toJson
    (∀ stop, Value.parse line = .error stop →
      (∃ answer, reply = some answer ∧ Answers .null (some (-32700)) answer) ∧
        done.2.store = w.store) ∧
    ∀ members, Value.parse line = .ok (.object members) →
      let message := Value.object members
      let notifies := message.get? "id" = none ∧ ∃ method, Asks message method
      (notifies → reply = none ∧ done.2.store = w.store) ∧
        (¬ notifies → ∃ answer code?, reply = some answer ∧
          Answers ((message.get? "id").getD .null) code? answer ∧
          Classified store s w message code?) := by
  intro done reply
  constructor
  · intro stop hstop
    have hdone : done = _ := run_handleLine_of_error hstop
    rw [hdone]
    refine ⟨⟨_, congrArg (fun d => d.1.map Response.toJson) hdone, ?_⟩, rfl⟩
    exact answers_toJson (r := ⟨.null, .error .parseError _⟩) .null
  · intro members hparse message notifies
    have hordered : message.Ordered := ordered_parse hparse
    have hdone : done = (handleMessage store s message).run w := by
      rw [← handleLine_of_parse hparse]
    obtain ⟨hdropped, hanswered⟩ := handleMessage_classified store s w hordered
    rw [← hdone] at hdropped hanswered
    refine ⟨fun h => ?_, fun h => ?_⟩
    · obtain ⟨hnone, hstore⟩ := hdropped h
      exact ⟨congrArg (Option.map Response.toJson) hnone, hstore⟩
    · obtain ⟨r, hr, hid, hclassified⟩ := hanswered h
      have hrid : r.id.Ordered := hid ▸ hordered.getD_null
      refine ⟨r.toJson, r.outcome.code?, congrArg (Option.map Response.toJson) hr, ?_, hclassified⟩
      rw [← hid]
      exact answers_toJson hrid

end Scribe.Rpc
