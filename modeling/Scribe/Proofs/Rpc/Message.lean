import Scribe.Proofs.Json.Record
import Scribe.Rpc.Message

/-!
# How messages are read

The two schemas of the server in plain words. A message asks for a method (`Asks`) if it has the
accepted version and names a method; the parameters of a tool call are a name and arguments
(`callOf?`). Both are read off a value as it stands, without the reader of schemas.
-/

namespace Scribe.Rpc

open Json Json.Schema

variable {members : List (String × Value)} {method : String}

/-! ### Requests -/

/-- A message that asks for a method. -/
structure Asks (message : Value) (method : String) : Prop where
  version : message.get? "jsonrpc" = some (.string "2.0")
  method : message.get? "method" = some (.string method)

/-- A message asks for one method only. -/
theorem Asks.unique {message : Value} {other : String} (h : Asks message method)
    (h' : Asks message other) : method = other := by
  have heq : some (Value.string method) = some (.string other) := h.method.symm.trans h'.method
  cases heq
  rfl

/-- The parameters that a message gives; null stands for none. -/
def paramsOf (message : Value) : Value := (message.get? "params").getD .null

theorem bind_string?_eq_some {v : Option Value} {t : String} :
    v.bind (·.string?) = some t ↔ v = some (.string t) := by
  cases v with
  | none => simp
  | some v => cases v <;> simp [Value.string?]

/-- A message is read if it has the two texts, whatever else it has. -/
theorem toOption_decode_message (h : Value.Ascending members) :
    (requestSchema.decode (.object members)).toOption =
      ((members.lookup "jsonrpc").bind (·.string?)).bind fun version =>
        ((members.lookup "method").bind (·.string?)).map fun method =>
          .object [("jsonrpc", .string version), ("method", .string method),
            ("params", paramsOf (.object members))] := by
  rw [requestSchema, toOption_decode_object _ (by decide) (by decide) h]
  simp only [List.mapM_cons, List.mapM_nil, Schema.string, field?_required_text, field?_anything]
  cases (members.lookup "jsonrpc").bind (·.string?) with
  | none => rfl
  | some version => cases (members.lookup "method").bind (·.string?) <;> rfl

theorem ofMessage_of_asks (h : Value.Ascending members) (hasks : Asks (.object members) method) :
    Request.ofMessage (.object members) = .ok ⟨method, paramsOf (.object members)⟩ := by
  have hversion : members.lookup "jsonrpc" = some (.string "2.0") := hasks.version
  have hmethod : members.lookup "method" = some (.string method) := hasks.method
  have hread := toOption_decode_message h
  rw [hversion, hmethod] at hread
  unfold Request.ofMessage
  cases hdecode : requestSchema.decode (.object members) with
  | error reason => rw [hdecode] at hread; cases hread
  | ok v =>
    rw [hdecode] at hread
    cases hread
    rfl

theorem asks_of_ofMessage (h : Value.Ascending members) {r : Request}
    (hr : Request.ofMessage (.object members) = .ok r) : Asks (.object members) r.method := by
  have hread := toOption_decode_message h
  unfold Request.ofMessage at hr
  cases hdecode : requestSchema.decode (.object members) with
  | error reason => rw [hdecode] at hr; cases hr
  | ok v =>
    rw [hdecode] at hread hr
    obtain ⟨version, hversion, hrest⟩ := Option.bind_eq_some_iff.1 hread.symm
    obtain ⟨method, hmethod, rfl⟩ := Option.map_eq_some_iff.1 hrest
    change (if version = formatVersion then .ok ⟨method, _⟩ else .error _) = Except.ok r at hr
    split at hr
    · next hformat =>
      cases hr
      subst hformat
      exact ⟨bind_string?_eq_some.1 hversion, bind_string?_eq_some.1 hmethod⟩
    · cases hr

/-! ### Parameters of a tool call -/

/-- The tool and the arguments that parameters name. They may stand in an array, too, and the
arguments may be missing. -/
def callOf? : Value → Option (String × Value)
  | .object members =>
    ((members.lookup "name").bind (·.string?)).map fun name =>
      (name, (members.lookup "arguments").getD .null)
  | .array [.string name] => some (name, .null)
  | .array [.string name, arguments] => some (name, arguments)
  | _ => none

theorem toOption_decode_call {params : Value} (h : params.Ordered) :
    (callSchema.decode params).toOption = (callOf? params).map fun call =>
      .object [("name", .string call.1), ("arguments", call.2)] := by
  cases params with
  | object members =>
    cases h with
    | object hascending _ =>
    rw [callSchema, toOption_decode_object _ (by decide) (by decide) hascending]
    simp only [List.mapM_cons, List.mapM_nil, Schema.string, field?_required_text, field?_anything,
      callOf?]
    cases (members.lookup "name").bind (·.string?) <;> rfl
  | array items =>
    rcases items with _ | ⟨a, _ | ⟨b, _ | ⟨c, rest⟩⟩⟩
    · rfl
    · cases a <;> rfl
    · cases a <;> rfl
    · cases a <;> rfl
  | _ => rfl

end Scribe.Rpc
