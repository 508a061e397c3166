import Scribe.Edit.Wire
import Scribe.Proofs.Json.Reading
import Scribe.Proofs.Json.Sorted

/-!
# Plans read back from their bodies

The body of a plan loses nothing: `Plan.read?` reads it as JSON and finds the plan in it, request by
request. The offsets of a plan that can be sent are machine words, which is all that the reader of
numbers needs.
-/

namespace Scribe.Json.Value

/-! ### Sorted values -/

@[simp] theorem sorted_nat (n : Nat) : (Value.nat n).sorted = .nat n := rfl

@[simp] theorem sorted_string (s : String) : (Value.string s).sorted = .string s := rfl

@[simp] theorem nat?_nat (n : Nat) : (Value.nat n).nat? = some n := rfl

@[simp] theorem string?_string (s : String) : (Value.string s).string? = some s := rfl

theorem readableItems_iff {depth : Nat} {items : List Value} :
    readableItems depth items = true ↔ ∀ v ∈ items, v.readable depth = true := by
  induction items with
  | nil => simp [readableItems]
  | cons v rest ih => simp [readableItems, ih]

end Scribe.Json.Value

namespace Scribe.Edit

open Scribe.Json Scribe.Markdown

/-! ### Decoders -/

/-- The paragraph style of a given remote name. -/
def styleNamed? (name : String) : Option ParagraphStyle :=
  [.heading1, .heading2, .heading3, .body].find? fun style => namedStyle style = name

/-- The extent that a value stands for. -/
def Extent.ofWire? (v : Value) : Option Extent := do
  let start ← (← v.get? "startIndex").nat?
  let stop ← (← v.get? "endIndex").nat?
  return ⟨start, stop⟩

/-- The extent under the name of a range. -/
def range? (v : Value) : Option Extent := do
  Extent.ofWire? (← v.get? "range")

/-- The insertion that a value stands for. -/
def insertion? (v : Value) : Option Request := do
  let offset ← (← (← v.get? "location").get? "index").nat?
  let text ← (← v.get? "text").string?
  return .insert offset text

/-- The paragraph style that a value sets; the field mask names the style only. -/
def paragraph? (v : Value) : Option Formatting := do
  let extent ← range? v
  let style ← styleNamed? (← (← (← v.get? "paragraphStyle").get? "namedStyleType").string?)
  let fields ← (← v.get? "fields").string?
  if fields = "namedStyleType" then some (.paragraph extent style) else none

/-- The bullets that a value sets. -/
def bullet? (v : Value) : Option Formatting := do
  let extent ← range? v
  let preset ← (← v.get? "bulletPreset").string?
  if preset = bulletPreset then some (.bullet extent) else none

/-- The emphasis that a value sets; the field mask names exactly the flags that are set. -/
def emphasis? (v : Value) : Option Formatting := do
  let extent ← range? v
  let style ← v.get? "textStyle"
  let bold := (style.get? "bold").isSome
  let italicOrCode := (style.get? "italic").isSome
  let fields ← (← v.get? "fields").string?
  if fields = ",".intercalate (emphasisFields bold italicOrCode) then
    some (.emphasis extent bold italicOrCode)
  else none

/-- The request that a value stands for; its one member tells the kind. -/
def Request.ofWire? : Value → Option Request
  | .object [("deleteContentRange", v)] => (range? v).map .delete
  | .object [("insertText", v)] => insertion? v
  | .object [("updateParagraphStyle", v)] => (paragraph? v).map .format
  | .object [("createParagraphBullets", v)] => (bullet? v).map .format
  | .object [("updateTextStyle", v)] => (emphasis? v).map .format
  | _ => none

/-- The plan that a body stands for. -/
def Plan.read? (body : String) : Option Plan := do
  let v ← (Value.parse body).toOption
  (← v.get? "requests").items.mapM Request.ofWire?

/-! ### Values read back -/

@[simp] theorem styleNamed?_namedStyle (style : ParagraphStyle) :
    styleNamed? (namedStyle style) = some style := by
  cases style <;> decide

theorem Extent.ofWire?_toWire (e : Extent) : Extent.ofWire? e.toWire.sorted = some e := by
  rw [Extent.ofWire?, Extent.toWire, Value.get?_sorted, Value.get?_sorted]
  simp [Value.lookup_member]

/-- The range of a request, with any members behind it that are not called so. -/
theorem range?_sorted (e : Extent) {members : List (String × Value)}
    (h : members.reverse.lookup "range" = some e.toWire) :
    range? (Value.object members).sorted = some e := by
  rw [range?, Value.get?_sorted, h]
  exact Extent.ofWire?_toWire e

/-- The style of an emphasis holds exactly the flags that are set. -/
theorem lookup_textStyle (bold italicOrCode : Bool) :
    let style := (emphasisFields bold italicOrCode).map fun name => (name, Value.bool true)
    (style.reverse.lookup "bold").isSome = bold ∧
      (style.reverse.lookup "italic").isSome = italicOrCode := by
  cases bold <;> cases italicOrCode <;> exact ⟨rfl, rfl⟩

/-- A request is found again in its sorted wire form. -/
theorem Request.ofWire?_toWire (r : Request) : Request.ofWire? r.toWire.sorted = some r := by
  cases r with
  | delete e =>
    have hrange : range? (Value.object [("range", e.toWire)]).sorted = some e := range?_sorted e rfl
    rw [Request.toWire, Value.sorted_singleton, Request.ofWire?, hrange]
    rfl
  | insert offset text =>
    rw [Request.toWire, Value.sorted_singleton, Request.ofWire?, insertion?]
    simp [Value.get?_sorted, Value.lookup_member]
  | format f =>
    cases f with
    | paragraph e style =>
      rw [Request.toWire, Formatting.toWire, Value.sorted_singleton, Request.ofWire?, paragraph?,
        range?_sorted e rfl]
      simp [Value.get?_sorted, Value.lookup_member]
    | bullet e =>
      rw [Request.toWire, Formatting.toWire, Value.sorted_singleton, Request.ofWire?, bullet?,
        range?_sorted e rfl]
      simp [Value.get?_sorted]
    | emphasis e bold italicOrCode =>
      obtain ⟨hbold, hitalic⟩ := lookup_textStyle bold italicOrCode
      rw [Request.toWire, Formatting.toWire, Value.sorted_singleton, Request.ofWire?, emphasis?,
        range?_sorted e rfl]
      simp [Value.get?_sorted, Value.lookup_member, hbold, hitalic]

/-! ### Plans -/

/-- The offsets that a request names. -/
def Request.offsets : Request → List Nat
  | .delete e => [e.start, e.stop]
  | .insert offset _ => [offset]
  | .format f => [f.extent.start, f.extent.stop]

/-- Whether all offsets of a plan are machine words. -/
def Plan.Sendable (p : Plan) : Prop := ∀ r ∈ p, ∀ n ∈ r.offsets, n < UInt64.size

instance (p : Plan) : Decidable p.Sendable :=
  inferInstanceAs (Decidable (∀ r ∈ p, ∀ n ∈ r.offsets, n < UInt64.size))

theorem readable_nat {n : Nat} (h : n < UInt64.size) (depth : Nat) :
    (Value.nat n).readable depth = true := by
  simp only [Value.nat, Value.readable, Bool.and_eq_true, decide_eq_true_eq]
  rw [UInt64.size] at h
  omega

theorem Extent.readable_toWire {e : Extent} (h : ∀ n ∈ [e.start, e.stop], n < UInt64.size)
    (depth : Nat) : e.toWire.readable (depth + 2) = true := by
  have hstart := readable_nat (h e.start (by simp))
  have hstop := readable_nat (h e.stop (by simp))
  simp [Extent.toWire, Value.readable, Value.readableMembers, hstart, hstop]

theorem Request.readable_toWire {r : Request} (h : ∀ n ∈ r.offsets, n < UInt64.size)
    (depth : Nat) : r.toWire.readable (depth + 4) = true := by
  cases r with
  | delete e =>
    have hrange : e.toWire.readable (depth + 2) = true := Extent.readable_toWire h depth
    simp [Request.toWire, Value.readable, Value.readableMembers, hrange]
  | insert offset text =>
    have hoffset := readable_nat (h offset List.mem_cons_self)
    simp [Request.toWire, Value.readable, Value.readableMembers, hoffset]
  | format f =>
    have hrange : f.extent.toWire.readable (depth + 2) = true := Extent.readable_toWire h depth
    cases f with
    | paragraph e style =>
      change e.toWire.readable (depth + 2) = true at hrange
      simp [Request.toWire, Formatting.toWire, Value.readable, Value.readableMembers, hrange]
    | bullet e =>
      change e.toWire.readable (depth + 2) = true at hrange
      simp [Request.toWire, Formatting.toWire, Value.readable, Value.readableMembers, hrange]
    | emphasis e bold italicOrCode =>
      change e.toWire.readable (depth + 2) = true at hrange
      have hstyle : Value.readableMembers (depth + 1)
          ((emphasisFields bold italicOrCode).map fun name => (name, .bool true)) = true := by
        cases bold <;> cases italicOrCode <;> rfl
      simp [Request.toWire, Formatting.toWire, Value.readable, Value.readableMembers, hrange,
        hstyle]

theorem Plan.readable_toWire {p : Plan} (h : p.Sendable) :
    p.toWire.readable depthLimit = true := by
  -- The requests stand in the array of the one member, two brackets deep.
  have hitems : Value.readableItems 126 (p.map (·.toWire)) = true := by
    rw [Value.readableItems_iff]
    intro v hv
    obtain ⟨r, hr, rfl⟩ := List.mem_map.1 hv
    exact Request.readable_toWire (h r hr) 122
  simp [Plan.toWire, Value.readable, Value.readableMembers, depthLimit, hitems]

/-- The requests are found one after the other. -/
theorem mapM_ofWire?_toWire (p : Plan) :
    (p.map fun r => r.toWire.sorted).mapM Request.ofWire? = some p := by
  induction p with
  | nil => rfl
  | cons r rest ih =>
    rw [List.map_cons, List.mapM_cons, Request.ofWire?_toWire, ih]
    rfl

/-- A plan that can be sent is found in its body. -/
theorem Plan.read?_body {p : Plan} (h : p.Sendable) : Plan.read? p.body = some p := by
  have hparse : Value.parse p.body = .ok p.toWire.sorted :=
    Value.parse_compact (Plan.readable_toWire h)
  have hrequests : p.toWire.sorted.get? "requests" =
      some (.array (p.map fun r => r.toWire.sorted)) := by
    rw [Plan.toWire, Value.get?_sorted]
    simp [Value.sorted, Value.sortedItems_eq_map]
  rw [Plan.read?, hparse]
  change (p.toWire.sorted.get? "requests" >>= fun v => v.items.mapM Request.ofWire?) = some p
  rw [hrequests]
  exact mapM_ofWire?_toWire p

/-- **The body of a plan loses nothing**: the plan is read back from it, and no other plan has the
same body. -/
theorem Plan.body_loses_nothing {p : Plan} (h : p.Sendable) :
    Plan.read? p.body = some p ∧ ∀ q : Plan, q.Sendable → q.body = p.body → q = p := by
  refine ⟨Plan.read?_body h, fun q hq hbody => ?_⟩
  have hread : some q = some p := by
    rw [← Plan.read?_body hq, ← Plan.read?_body h, hbody]
  exact Option.some.inj hread

/-- The body of a plan that deletes up to the last offset there is, inserts a text of quotes,
backslashes, control characters and a pair of surrogates, and sets both flags, one and none. -/
theorem Plan.body_loses_nothing_escaped :
    let p : Plan :=
      [.delete ⟨1, 0xFFFFFFFFFFFFFFFF⟩, .insert 1 "\",\"text\":\\\u0001\t𝄞\n",
        .format (.paragraph ⟨1, 7⟩ .body), .format (.bullet ⟨1, 7⟩),
        .format (.emphasis ⟨1, 2⟩ true true), .format (.emphasis ⟨2, 3⟩ false true),
        .format (.emphasis ⟨4, 3⟩ false false)]
    p.Sendable ∧
      (Plan.read? p.body = some p ∧ ∀ q : Plan, q.Sendable → q.body = p.body → q = p) := by
  intro p
  have hsendable : p.Sendable := by decide
  exact ⟨hsendable, Plan.body_loses_nothing hsendable⟩

end Scribe.Edit
