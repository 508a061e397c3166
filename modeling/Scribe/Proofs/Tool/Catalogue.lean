import Scribe.Proofs.Json.Sorted
import Scribe.Proofs.Tool.Call

/-!
# The catalogue and the calls

The catalogue publishes a schema for the arguments of each tool: the properties that it demands, and
the types of those that it declares. A call does not look at the published data, but asks for one
argument after the other. The two agree (`call_follows_catalogue`): a call is refused for its
arguments exactly if they do not fit the schema that is published for its tool, and before the
service is asked for anything.
-/

namespace Scribe.Tool

open Json

/-! ### What is published -/

/-- The catalogue publishes a schema for the arguments of the tool with a name. -/
def Published (name : String) (schema : Value) : Prop :=
  ∃ entry ∈ all.map toJson,
    entry.get? "name" = some (.string name) ∧ entry.get? "inputSchema" = some schema

/-- A schema demands a property. -/
def Demands (schema : Value) (property : String) : Prop :=
  ∃ names, schema.get? "required" = some (.array names) ∧ .string property ∈ names

/-- A schema declares a property, of a type. -/
def Declares (schema : Value) (property type : String) : Prop :=
  ∃ properties entry, schema.get? "properties" = some properties ∧
    properties.get? property = some entry ∧ entry.get? "type" = some (.string type)

/-- The type of a value, as schemas name it. -/
def typeName : Value → String
  | .null => "null"
  | .bool _ => "boolean"
  | .number _ => "number"
  | .string _ => "string"
  | .array _ => "array"
  | .object _ => "object"

/-- What arguments give for a property. A property that is null is not given. -/
def given? (arguments : Value) (property : String) : Option Value :=
  (arguments.get? property).filter fun v => typeName v != "null"

/-- Arguments that do not fit a schema. -/
inductive Misfit (schema arguments : Value) : Prop where
  | missing {property : String} :
      Demands schema property → given? arguments property = none → Misfit schema arguments
  | mistyped {property type : String} {v : Value} :
      Declares schema property type → given? arguments property = some v → typeName v ≠ type →
        Misfit schema arguments

theorem mem_all (t : Tool) : t ∈ all := by
  cases t <;> decide

theorem published_iff {name : String} {schema : Value} :
    Published name schema ↔ ∃ t : Tool, t.name = name ∧ schema = t.inputSchema := by
  constructor
  · rintro ⟨entry, hentry, hname, hschema⟩
    obtain ⟨t, -, rfl⟩ := List.mem_map.1 hentry
    cases hname
    cases hschema
    exact ⟨t, rfl, rfl⟩
  · rintro ⟨t, rfl, rfl⟩
    exact ⟨t.toJson, List.mem_map_of_mem (mem_all t), rfl, rfl⟩

theorem demands_inputSchema {t : Tool} {property : String} :
    Demands t.inputSchema property ↔
      ∃ p ∈ t.parameters, p.required = true ∧ p.name = property := by
  constructor
  · rintro ⟨names, hnames, hmem⟩
    cases hnames
    obtain ⟨p, hp, hname⟩ := List.mem_map.1 hmem
    obtain ⟨hp, hrequired⟩ := List.mem_filter.1 hp
    cases hname
    exact ⟨p, hp, hrequired, rfl⟩
  · rintro ⟨p, hp, hrequired, rfl⟩
    exact ⟨_, rfl, List.mem_map.2 ⟨p, List.mem_filter.2 ⟨hp, hrequired⟩, rfl⟩⟩

/-- No two parameters of a tool share a name. -/
theorem nodup_parameters (t : Tool) : (t.parameters.map (·.name)).Nodup := by
  cases t <;> decide

theorem declares_inputSchema {t : Tool} {property type : String} :
    Declares t.inputSchema property type ↔
      ∃ p ∈ t.parameters, p.name = property ∧ p.kind.name = type := by
  constructor
  · rintro ⟨properties, entry, hproperties, hentry, htype⟩
    cases hproperties
    obtain ⟨p, hp, hpair⟩ := List.mem_map.1 (Value.mem_of_lookup hentry)
    cases hpair
    cases htype
    exact ⟨p, hp, rfl, rfl⟩
  · rintro ⟨p, hp, rfl, rfl⟩
    have hdistinct : ((t.parameters.map fun p => (p.name, p.toJson)).map (·.1)).Nodup := by
      rw [List.map_map]
      exact nodup_parameters t
    exact ⟨_, p.toJson, rfl, Value.lookup_of_mem hdistinct (List.mem_map_of_mem hp), rfl⟩

/-! ### Checks of arguments -/

/-- A check of arguments: it succeeds if they are as they should be, with a result of which something
is known, and else blames them. -/
inductive Checks {α : Type} (good : Prop) (known : α → Prop) : Except CallFault α → Prop where
  | ok {a : α} : good → known a → Checks good known (.ok a)
  | error {reason : String} : ¬ good → Checks good known (.error (.invalidArguments reason))

section Checks

variable {α β : Type} {good good' : Prop} {known : α → Prop} {known' : β → Prop}
  {x : Except CallFault α}

theorem Checks.bind {f : α → Except CallFault β} (hx : Checks good known x)
    (hf : ∀ a, known a → Checks good' known' (f a)) : Checks (good ∧ good') known' (x >>= f) := by
  cases hx with
  | error hbad => exact .error (mt And.left hbad)
  | @ok a hgood hknown =>
    change Checks _ _ (f a)
    have hrest := hf a hknown
    generalize f a = y at hrest
    cases hrest with
    | error hbad => exact .error (mt And.right hbad)
    | ok hgood' hknown' => exact .ok ⟨hgood, hgood'⟩ hknown'

theorem Checks.exists_ok (h : Checks good known x) (hgood : good) :
    ∃ a, x = .ok a ∧ known a := by
  cases h with
  | @ok a _ hknown => exact ⟨a, rfl, hknown⟩
  | error hbad => exact absurd hgood hbad

theorem Checks.exists_error (h : Checks good known x) (hbad : ¬ good) :
    ∃ reason, x = .error (.invalidArguments reason) := by
  cases h with
  | ok hgood => exact absurd hgood hbad
  | @error reason => exact ⟨reason, rfl⟩

end Checks

/-- Arguments that a parameter accepts. -/
def Accepts (args : Arguments) (p : Parameter) : Prop :=
  match args.get? p.name with
  | none => p.required = false
  | some v => typeName v = p.kind.name

section Arguments

variable (args : Arguments) (name description : String)

theorem checks_text? : Checks (Accepts args (optionalText name description))
    (fun t => args.get? name = t.map .string) (args.text? name) := by
  unfold Accepts Arguments.text? optionalText
  dsimp only
  cases args.get? name with
  | none => exact .ok rfl rfl
  | some v =>
    cases v with
    | string s => exact .ok rfl rfl
    | _ => exact .error (by simp [typeName, ParameterKind.name])

theorem checks_text : Checks (Accepts args (requiredText name description))
    (fun t => args.get? name = some (.string t)) (args.text name) := by
  unfold Accepts Arguments.text Arguments.text? requiredText
  dsimp only
  cases args.get? name with
  | none => exact .error (by simp)
  | some v =>
    cases v with
    | string s => exact .ok rfl rfl
    | _ => exact .error (by simp [typeName, ParameterKind.name])

/-- A flag that is not given is off. -/
theorem checks_flag : Checks (Accepts args ⟨name, .flag, false, description⟩)
    (fun b => args.get? name = some (.bool b) ∨ args.get? name = none ∧ b = false)
    (args.flag name) := by
  unfold Accepts Arguments.flag
  dsimp only
  cases args.get? name with
  | none => exact .ok rfl (.inr ⟨rfl, rfl⟩)
  | some v =>
    cases v with
    | bool b => exact .ok rfl (.inl rfl)
    | _ => exact .error (by simp [typeName, ParameterKind.name])

end Arguments

end Scribe.Tool

namespace Scribe

open Json

/-! ### What is asked for -/

/-- The tool that an operation belongs to. -/
def Operation.tool : Operation → Tool
  | .createDoc .. => .createDoc
  | .updateDoc .. => .updateDoc
  | .readDoc .. => .readDoc
  | .listDocs .. => .listDocs
  | .getComments .. => .getComments
  | .replyToComment .. => .replyToComment
  | .resolveComment .. => .resolveComment

/-- What an operation works with, under the properties of its tool. -/
def Operation.takes : Operation → List (String × Option Value)
  | .createDoc title content subfolder =>
    [("title", some (.string title)), ("content", some (.string content)),
     ("subfolder", subfolder.map .string)]
  | .updateDoc document content dryRun =>
    [("doc", some (.string document)), ("content", some (.string content)),
     ("dry_run", some (.bool dryRun))]
  | .readDoc document => [("doc", some (.string document))]
  | .listDocs subfolder => [("subfolder", subfolder.map .string)]
  | .getComments document => [("doc", some (.string document))]
  | .replyToComment document comment content =>
    [("doc", some (.string document)), ("comment_id", some (.string comment)),
     ("reply", some (.string content))]
  | .resolveComment document comment =>
    [("doc", some (.string document)), ("comment_id", some (.string comment))]

end Scribe

namespace Scribe.Tool

open Json

/-- A property is taken as it was found; a flag that was not found is off. -/
def Taken (found : String → Option Value) (q : String × Option Value) : Prop :=
  found q.1 = q.2 ∨ found q.1 = none ∧ q.2 = some (.bool false)

theorem taken_flag {found : String → Option Value} {name : String} {b : Bool}
    (h : found name = some (.bool b) ∨ found name = none ∧ b = false) :
    Taken found (name, some (.bool b)) :=
  h.imp_right fun ⟨hmissing, hoff⟩ => ⟨hmissing, congrArg (some ∘ Value.bool) hoff⟩

/-- A tool takes the arguments that its parameters accept. -/
theorem checks_operation (t : Tool) (args : Arguments) :
    Checks (∀ p ∈ t.parameters, Accepts args p)
      (fun op => op.tool = t ∧ ∀ q ∈ op.takes, Taken args.get? q) (t.operation args) := by
  cases t with
  | createDoc =>
    simp only [parameters, List.forall_mem_cons]
    refine (checks_text ..).bind fun title htitle => (checks_text ..).bind fun content hcontent =>
      (checks_text? ..).bind fun subfolder hsubfolder => .ok nofun ⟨rfl, ?_⟩
    simp only [Operation.takes, List.forall_mem_cons]
    exact ⟨.inl htitle, .inl hcontent, .inl hsubfolder, nofun⟩
  | updateDoc =>
    simp only [parameters, List.forall_mem_cons]
    refine (checks_text ..).bind fun document hdocument =>
      (checks_text ..).bind fun content hcontent =>
      (checks_flag ..).bind fun dryRun hdryRun => .ok nofun ⟨rfl, ?_⟩
    simp only [Operation.takes, List.forall_mem_cons]
    exact ⟨.inl hdocument, .inl hcontent, taken_flag hdryRun, nofun⟩
  | readDoc | getComments =>
    simp only [parameters, List.forall_mem_cons]
    refine (checks_text ..).bind fun document hdocument => .ok nofun ⟨rfl, ?_⟩
    simp only [Operation.takes, List.forall_mem_cons]
    exact ⟨.inl hdocument, nofun⟩
  | listDocs =>
    simp only [parameters, List.forall_mem_cons]
    refine (checks_text? ..).bind fun subfolder hsubfolder => .ok nofun ⟨rfl, ?_⟩
    simp only [Operation.takes, List.forall_mem_cons]
    exact ⟨.inl hsubfolder, nofun⟩
  | replyToComment =>
    simp only [parameters, List.forall_mem_cons]
    refine (checks_text ..).bind fun document hdocument =>
      (checks_text ..).bind fun comment hcomment =>
      (checks_text ..).bind fun content hcontent => .ok nofun ⟨rfl, ?_⟩
    simp only [Operation.takes, List.forall_mem_cons]
    exact ⟨.inl hdocument, .inl hcomment, .inl hcontent, nofun⟩
  | resolveComment =>
    simp only [parameters, List.forall_mem_cons]
    refine (checks_text ..).bind fun document hdocument =>
      (checks_text ..).bind fun comment hcomment => .ok nofun ⟨rfl, ?_⟩
    simp only [Operation.takes, List.forall_mem_cons]
    exact ⟨.inl hdocument, .inl hcomment, nofun⟩

/-! ### Calls and the catalogue -/

/-- Arguments that hold members; null holds none. -/
def HoldsMembers (arguments : Value) : Prop :=
  arguments = .null ∨ ∃ members, arguments = .object members

section Requested

variable {name : String} {arguments : Value} {args : Arguments}

theorem holdsMembers_iff : HoldsMembers arguments ↔ ∃ args, Arguments.ofJson arguments = .ok args := by
  cases arguments with
  | null => exact iff_of_true (.inl rfl) ⟨[], rfl⟩
  | object members => exact iff_of_true (.inr ⟨members, rfl⟩) ⟨members, rfl⟩
  | _ =>
    refine iff_of_false ?_ (by rintro ⟨args, h⟩; cases h)
    rintro (h | ⟨members, h⟩) <;> cases h

theorem get?_eq_given? (h : Arguments.ofJson arguments = .ok args) (property : String) :
    args.get? property = given? arguments property := by
  cases arguments with
  | null =>
    cases h
    rfl
  | object members =>
    cases h
    unfold Arguments.get? given? Value.get?
    dsimp only
    cases List.lookup property args with
    | none => rfl
    | some v => cases v <;> rfl
  | _ => cases h

/-- Arguments fit a published schema if the parameters of its tool accept them. -/
theorem misfit_iff (h : Arguments.ofJson arguments = .ok args) {t : Tool} :
    Misfit t.inputSchema arguments ↔ ∃ p ∈ t.parameters, ¬ Accepts args p := by
  constructor
  · rintro (⟨hdemands, hmissing⟩ | ⟨hdeclares, hgiven, htype⟩)
    · obtain ⟨p, hp, hrequired, rfl⟩ := demands_inputSchema.1 hdemands
      refine ⟨p, hp, ?_⟩
      rw [Accepts, get?_eq_given? h, hmissing]
      simp [hrequired]
    · obtain ⟨p, hp, rfl, rfl⟩ := declares_inputSchema.1 hdeclares
      refine ⟨p, hp, ?_⟩
      rw [Accepts, get?_eq_given? h, hgiven]
      exact htype
  · rintro ⟨p, hp, hnot⟩
    rw [Accepts, get?_eq_given? h] at hnot
    cases hgiven : given? arguments p.name with
    | none =>
      rw [hgiven] at hnot
      have hrequired : p.required = true := by simpa using hnot
      exact .missing (demands_inputSchema.2 ⟨p, hp, hrequired, rfl⟩) hgiven
    | some v =>
      rw [hgiven] at hnot
      exact .mistyped (declares_inputSchema.2 ⟨p, hp, rfl, rfl⟩) hgiven hnot

theorem name_injective {t u : Tool} (h : t.name = u.name) : t = u := by
  cases t <;> cases u <;> first | rfl | exact absurd h (by decide)

theorem ofName?_eq_some_iff {t : Tool} : ofName? name = some t ↔ t.name = name := by
  have hname : ∀ u : Tool, ofName? name = some u → u.name = name := by
    intro u h
    have hfound := List.find?_some h
    exact beq_iff_eq.1 hfound
  constructor
  · exact hname t
  · rintro rfl
    cases hfound : ofName? t.name with
    | none => exact absurd (beq_self_eq_true _) (List.find?_eq_none.1 hfound t (mem_all t))
    | some u => rw [name_injective (hname u hfound)]

theorem ofName?_eq_none_iff : ofName? name = none ↔ ∀ schema, ¬ Published name schema := by
  constructor
  · rintro h schema hpublished
    obtain ⟨t, htool, -⟩ := published_iff.1 hpublished
    rw [ofName?_eq_some_iff.2 htool] at h
    cases h
  · intro h
    cases hfound : ofName? name with
    | none => rfl
    | some t =>
      have htool : t.name = name := ofName?_eq_some_iff.1 hfound
      exact absurd (published_iff.2 ⟨t, htool, rfl⟩) (h _)

/-! ### What is asked for, and what is published -/

theorem requested_of_not_holdsMembers (name : String) (h : ¬ HoldsMembers arguments) :
    ∃ reason, requested name arguments = .error (.invalidArguments reason) := by
  cases arguments with
  | null => exact absurd (.inl rfl) h
  | object members => exact absurd (.inr ⟨members, rfl⟩) h
  | _ => exact ⟨_, rfl⟩

theorem requested_of_unpublished (hargs : HoldsMembers arguments)
    (h : ∀ schema, ¬ Published name schema) :
    requested name arguments = .error (.unknownTool name) := by
  obtain ⟨args, hargs⟩ := holdsMembers_iff.1 hargs
  unfold requested
  rw [hargs, ofName?_eq_none_iff.2 h]
  rfl

theorem requested_of_tool (h : Arguments.ofJson arguments = .ok args) (t : Tool) :
    requested t.name arguments = t.operation args := by
  unfold requested
  rw [h, ofName?_eq_some_iff.2 rfl]
  rfl

theorem requested_of_misfit {schema : Value} (hpublished : Published name schema)
    (h : Misfit schema arguments) :
    ∃ reason, requested name arguments = .error (.invalidArguments reason) := by
  by_cases hholds : HoldsMembers arguments
  · obtain ⟨args, hargs⟩ := holdsMembers_iff.1 hholds
    obtain ⟨t, rfl, rfl⟩ := published_iff.1 hpublished
    obtain ⟨p, hp, hnot⟩ := (misfit_iff hargs).1 h
    rw [requested_of_tool hargs]
    exact (checks_operation t args).exists_error fun hgood => hnot (hgood p hp)
  · exact requested_of_not_holdsMembers _ hholds

/-- Arguments that fit make an operation of the tool, which takes them as they are. -/
theorem requested_of_fit (hholds : HoldsMembers arguments) {schema : Value}
    (hpublished : Published name schema) (h : ¬ Misfit schema arguments) :
    ∃ op, requested name arguments = .ok op ∧ op.tool.name = name ∧
      ∀ q ∈ op.takes, Taken (given? arguments) q := by
  obtain ⟨args, hargs⟩ := holdsMembers_iff.1 hholds
  obtain ⟨t, rfl, rfl⟩ := published_iff.1 hpublished
  have haccepts : ∀ p ∈ t.parameters, Accepts args p := by
    intro p hp
    exact Classical.byContradiction fun hnot => h ((misfit_iff hargs).2 ⟨p, hp, hnot⟩)
  obtain ⟨op, hread, htool, htaken⟩ := (checks_operation t args).exists_ok haccepts
  rw [requested_of_tool hargs, ← funext (get?_eq_given? hargs)]
  exact ⟨op, hread, congrArg Tool.name htool, htaken⟩

theorem requested_unknown_iff {unknown : String} :
    requested name arguments = .error (.unknownTool unknown) ↔
      unknown = name ∧ HoldsMembers arguments ∧ ∀ schema, ¬ Published name schema := by
  constructor
  · intro h
    have hholds : HoldsMembers arguments := Classical.byContradiction fun hnot => by
      obtain ⟨reason, hinvalid⟩ := requested_of_not_holdsMembers name hnot
      rw [hinvalid] at h
      cases h
    have hunpublished : ∀ schema, ¬ Published name schema := by
      intro schema hpublished
      by_cases hmisfit : Misfit schema arguments
      · obtain ⟨reason, hinvalid⟩ := requested_of_misfit hpublished hmisfit
        rw [hinvalid] at h
        cases h
      · obtain ⟨op, hop, -⟩ := requested_of_fit hholds hpublished hmisfit
        rw [hop] at h
        cases h
    rw [requested_of_unpublished hholds hunpublished] at h
    cases h
    exact ⟨rfl, hholds, hunpublished⟩
  · rintro ⟨rfl, hholds, hunpublished⟩
    exact requested_of_unpublished hholds hunpublished

theorem requested_invalid_iff :
    (∃ reason, requested name arguments = .error (.invalidArguments reason)) ↔
      ¬ HoldsMembers arguments ∨ ∃ schema, Published name schema ∧ Misfit schema arguments := by
  constructor
  · rintro ⟨reason, h⟩
    by_cases hholds : HoldsMembers arguments
    · refine .inr (Classical.byContradiction fun hnot => ?_)
      by_cases hpublished : ∃ schema, Published name schema
      · obtain ⟨schema, hpublished⟩ := hpublished
        obtain ⟨op, hop, -⟩ :=
          requested_of_fit hholds hpublished fun hmisfit => hnot ⟨schema, hpublished, hmisfit⟩
        rw [hop] at h
        cases h
      · rw [requested_of_unpublished hholds (not_exists.1 hpublished)] at h
        cases h
    · exact .inl hholds
  · rintro (hnot | ⟨schema, hpublished, hmisfit⟩)
    · exact requested_of_not_holdsMembers _ hnot
    · exact requested_of_misfit hpublished hmisfit

end Requested

/-- A call faults as what it asks for does. -/
theorem call_error_iff {σ : Type} {store : Store σ} {s : Settings} {name : String}
    {arguments : Value} {w : World σ} {f : CallFault} :
    ((call store s name arguments).run w).1 = .error f ↔ requested name arguments = .error f := by
  cases hrequested : requested name arguments with
  | error g =>
    obtain ⟨w', -, hrun⟩ := call_of_requested_error hrequested s w
    rw [hrun store]
    exact ⟨congrArg _ ∘ Except.error.inj, congrArg _ ∘ Except.error.inj⟩
  | ok op =>
    obtain ⟨output, w', hrun, -⟩ := call_of_requested_ok hrequested store s w
    rw [hrun]
    exact iff_of_false (fun h => nomatch h) (fun h => nomatch h)

/-- **Calls follow the catalogue.** A tool is unknown to calls exactly if nothing is published for
it. Arguments are refused exactly if they hold no members, or do not fit what is published. Then the
store is not asked: it stays as it is, and any other store would give the same outcome. Every other
call is answered, with an error exactly if the operation that it asks for fails. -/
theorem call_follows_catalogue {σ : Type} (store : Store σ) (s : Settings) (name : String)
    (arguments : Value) (w : World σ) :
    let done := (call store s name arguments).run w
    (∀ unknown, done.1 = .error (.unknownTool unknown) ↔
      unknown = name ∧ HoldsMembers arguments ∧ ∀ schema, ¬ Published name schema) ∧
    ((∃ reason, done.1 = .error (.invalidArguments reason)) ↔
      ¬ HoldsMembers arguments ∨ ∃ schema, Published name schema ∧ Misfit schema arguments) ∧
    (∀ f, done.1 = .error f → done.2.store = w.store ∧
      ∀ other : Store σ, (call other s name arguments).run w = done) ∧
    (HoldsMembers arguments → ∀ schema, Published name schema → ¬ Misfit schema arguments →
      ∃ (output : Output) (op : Operation), done.1 = .ok output ∧ op.tool.name = name ∧
        (∀ q ∈ op.takes, Taken (given? arguments) q) ∧
        (output.isError = true ↔
          ∃ f, (Action.outcome (op.run store s) (called name w)).1 = .error f) ∧
        done.2.store = (Action.outcome (op.run store s) (called name w)).2.store) := by
  intro done
  refine ⟨fun unknown => call_error_iff.trans requested_unknown_iff,
    (exists_congr fun reason => call_error_iff).trans requested_invalid_iff, ?_, ?_⟩
  · intro f hf
    obtain ⟨w', hstore, hrun⟩ := call_of_requested_error (call_error_iff.1 hf) s w
    have hdone : done = (.error f, w') := hrun store
    rw [hdone]
    exact ⟨hstore, hrun⟩
  · intro hholds schema hpublished hfit
    obtain ⟨op, hop, hname, htaken⟩ := requested_of_fit hholds hpublished hfit
    obtain ⟨output, w', hrun, hanswer⟩ := call_of_requested_ok hop store s w
    obtain ⟨herror, hstore⟩ := answer_of_outcome hanswer
    have hdone : done = (.ok output, w') := hrun
    rw [hdone]
    exact ⟨output, op, rfl, hname, htaken, herror, hstore⟩

end Scribe.Tool
