import Scribe.Proofs.Json.Reading
import Scribe.Proofs.Rpc.Classification
import Scribe.Store.Memory

/-!
# Messages that are no objects

A message is an object, but a request may also be written as an array of its fields in order, where
there is no place for an id. So an array of the version and a method, with or without parameters, is
taken for a notification and dropped (`Positional`). Every other line that holds no object is refused
as an invalid request under the id null, and no such line touches the store
(`handleLine_of_not_object`).
-/

namespace Scribe.Rpc

open Json

/-- An array of the fields of a request in their order; the last one, the parameters, may be
missing. -/
inductive Positional : Value → Request → Prop where
  | short (method : String) :
      Positional (.array [.string "2.0", .string method]) ⟨method, .null⟩
  | full (method : String) (params : Value) :
      Positional (.array [.string "2.0", .string method, params]) ⟨method, params⟩

theorem Positional.length_le {message : Value} {r : Request} (h : Positional message r) :
    message.items.length ≤ 3 := by
  rcases h with method | ⟨method, params⟩
  · exact Nat.le_succ 2
  · exact Nat.le_refl 3

theorem eq_of_ofMessage {message params : Value} {version method : String} {r : Request}
    (hdecode : requestSchema.decode message = .ok (.object
      [("jsonrpc", .string version), ("method", .string method), ("params", params)]))
    (h : Request.ofMessage message = .ok r) : version = "2.0" ∧ r = ⟨method, params⟩ := by
  unfold Request.ofMessage at h
  rw [hdecode] at h
  change (if version = formatVersion then .ok ⟨method, params⟩ else .error _) = Except.ok r at h
  split at h
  · next hversion =>
    cases h
    exact ⟨hversion, rfl⟩
  · cases h

theorem positional_of_ofMessage {items : List Value} {r : Request}
    (h : Request.ofMessage (.array items) = .ok r) : Positional (.array items) r := by
  -- A request has three fields, of which only the last may be missing, and the first two are texts.
  rcases items with _ | ⟨a, _ | ⟨b, _ | ⟨c, _ | ⟨d, rest⟩⟩⟩⟩
  · cases h
  · cases a <;> cases h
  · cases a with
    | string version =>
      cases b with
      | string method =>
        obtain ⟨rfl, rfl⟩ := eq_of_ofMessage rfl h
        exact .short method
      | _ => cases h
    | _ => cases h
  · cases a with
    | string version =>
      cases b with
      | string method =>
        obtain ⟨rfl, rfl⟩ := eq_of_ofMessage rfl h
        exact .full method c
      | _ => cases h
    | _ => cases h
  · cases a with
    | string version => cases b <;> cases h
    | _ => cases h

/-- Of the messages that are no objects, the arrays of the fields are read, and nothing else. -/
theorem ofMessage_eq_ok_iff {message : Value} (hobject : ∀ members, message ≠ .object members)
    {r : Request} : Request.ofMessage message = .ok r ↔ Positional message r := by
  constructor
  · intro h
    cases message with
    | array items => exact positional_of_ofMessage h
    | object members => exact absurd rfl (hobject members)
    | _ => cases h
  · rintro (method | ⟨method, params⟩) <;> rfl

variable {σ : Type}

/-- **A line that holds no object** leaves the store alone. It is refused under the id null as an
invalid request, unless it holds the fields of a request in an array: then it gets no answer. -/
theorem handleLine_of_not_object (store : Store σ) (s : Settings) {line : String} (w : World σ)
    {message : Value} (hparse : Value.parse line = .ok message)
    (hobject : ∀ members, message ≠ .object members) :
    let done := (handleLine store s line).run w
    let reply := done.1.map Response.toJson
    done.2.store = w.store ∧
      (reply = none ↔ ∃ r, Positional message r) ∧
      ∀ answer, reply = some answer → Answers .null (some (-32600)) answer := by
  intro done reply
  have hid : message.get? "id" = none := by
    cases message with
    | object members => exact absurd rfl (hobject members)
    | _ => rfl
  have hdone : done = (handleMessage store s message).run w := by
    rw [← handleLine_of_parse hparse]
  cases hread : Request.ofMessage message with
  | ok r =>
    have hdropped : done = _ := hdone.trans (run_handleMessage_of_notification hread hid)
    have hnone : reply = none := congrArg (fun d => d.1.map Response.toJson) hdropped
    refine ⟨congrArg (fun d => d.2.store) hdropped, iff_of_true hnone ?_, fun answer h => ?_⟩
    · exact ⟨r, (ofMessage_eq_ok_iff hobject).1 hread⟩
    · rw [hnone] at h
      cases h
  | error reason =>
    have hrefused : done = _ := hdone.trans (run_handleMessage_of_error hread)
    have hsome : reply = some (Response.toJson ⟨.null, .error .invalidRequest reason⟩) := by
      rw [hid] at hrefused
      exact congrArg (fun d => d.1.map Response.toJson) hrefused
    refine ⟨congrArg (fun d => d.2.store) hrefused, iff_of_false ?_ ?_, fun answer h => ?_⟩
    · rw [hsome]
      exact Option.some_ne_none _
    · rintro ⟨r, hr⟩
      rw [(ofMessage_eq_ok_iff hobject).2 hr] at hread
      cases hread
    · rw [hsome] at h
      cases h
      exact answers_toJson (r := ⟨.null, .error .invalidRequest reason⟩) .null

/-- An array with one item too many is refused, although its first three are the fields of a
request. -/
theorem handleLine_of_not_object_four :
    let line := "[\"2.0\",\"ping\",\x7b\x7d,7]"
    let done := (handleLine Store.Memory.store ⟨none, 10⟩ line).run ⟨.empty, []⟩
    let message := Value.array [.string "2.0", .string "ping", .object [], .number (.integer 7)]
    Value.parse line = .ok message ∧ (∀ members, message ≠ .object members) ∧
      done.2.store.calls = [] ∧
      ∃ answer, done.1.map Response.toJson = some answer ∧ Answers .null (some (-32600)) answer := by
  intro line done message
  have hparse : Value.parse line = .ok message := Value.parse_compact (v := message) (by decide)
  have hobject : ∀ members, message ≠ .object members := nofun
  obtain ⟨hstore, hdropped, hrefused⟩ :=
    handleLine_of_not_object Store.Memory.store ⟨none, 10⟩ ⟨.empty, []⟩ hparse hobject
  refine ⟨hparse, hobject, congrArg Store.Memory.calls hstore, ?_⟩
  cases hreply : done.1.map Response.toJson with
  | some answer => exact ⟨answer, rfl, hrefused answer hreply⟩
  | none =>
    obtain ⟨r, hr⟩ := hdropped.1 hreply
    exact absurd hr.length_le (by decide)

/-- A line that holds an array, which is no object, and gets no answer at all. -/
theorem positional_request_dropped :
    let line := "[\"2.0\",\"ping\"]"
    Value.parse line = .ok (.array [.string "2.0", .string "ping"]) ∧
      ((handleLine Store.Memory.store ⟨none, 10⟩ line).run ⟨.empty, []⟩).1 = none := by
  intro line
  have hparse : Value.parse line = .ok (.array [.string "2.0", .string "ping"]) :=
    Value.parse_compact (v := .array [.string "2.0", .string "ping"]) (by decide)
  refine ⟨hparse, ?_⟩
  rw [handleLine_of_parse hparse]
  rfl

end Scribe.Rpc
