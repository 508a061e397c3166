import Scribe.Json.Schema
import Scribe.Proofs.Json.Sorted

/-!
# What is read through a schema

A schema describes a value if the value has its shape: a word has no more than 64 bits, and a record
has the fields of the schema in their order, each with a value that its own schema describes or that
stands for a missing one. Whatever text is read through a schema whose records name their fields
apart, the value that comes of it is one that the schema describes (`describes_read`).
-/

namespace Scribe.Json.Schema

mutual

/-- The value has the shape that the schema asks for. -/
inductive Describes : Schema → Value → Prop where
  | anything (v : Value) : Describes .anything v
  | text (expected t : String) : Describes (.text expected) (.string t)
  | flag (b : Bool) : Describes .flag (.bool b)
  | word {expected : String} {n : Nat} : n ≤ wordLimit → Describes (.word expected) (.nat n)
  | null (s : Schema) : Describes (.optional s) .null
  | optional {s : Schema} {v : Value} : Describes s v → Describes (.optional s) v
  | list {s : Schema} {items : List Value} :
      (∀ v ∈ items, Describes s v) → Describes (.list s) (.array items)
  | record {name : String} {closed : Bool} {fields : List (String × Presence × Schema)}
      {members : List (String × Value)} :
      DescribesFields fields members → Describes (.record name closed fields) (.object members)

/-- The members are the fields in their order. -/
inductive DescribesFields : List (String × Presence × Schema) → List (String × Value) → Prop where
  | nil : DescribesFields [] []
  | given {name : String} {presence : Presence} {s : Schema} {v : Value}
      {fields : List (String × Presence × Schema)} {members : List (String × Value)} :
      Describes s v → DescribesFields fields members →
        DescribesFields ((name, presence, s) :: fields) ((name, v) :: members)
  | missing {name : String} {s : Schema} {v : Value}
      {fields : List (String × Presence × Schema)} {members : List (String × Value)} :
      DescribesFields fields members →
        DescribesFields ((name, .fallback v, s) :: fields) ((name, v) :: members)

end

mutual

/-- Whether every record in a schema names its fields apart. -/
def namesApart : Schema → Bool
  | .optional s => s.namesApart
  | .list s => s.namesApart
  | .record _ _ fields => decide (fields.map (·.1)).Nodup && fieldsApart fields
  | _ => true

/-- Whether every record in some fields names its fields apart. -/
def fieldsApart : List (String × Presence × Schema) → Bool
  | [] => true
  | (_, _, s) :: rest => s.namesApart && fieldsApart rest

end

variable {fields : List (String × Presence × Schema)}

theorem namesApart_of_mem (h : fieldsApart fields = true) {name : String} {presence : Presence}
    {s : Schema} (hmem : (name, presence, s) ∈ fields) : s.namesApart = true := by
  induction fields with
  | nil => cases hmem
  | cons f rest ih =>
    obtain ⟨name', presence', s'⟩ := f
    rw [fieldsApart, Bool.and_eq_true] at h
    rcases List.mem_cons.1 hmem with heq | hrest
    · cases heq
      exact h.1
    · exact ih h.2 hrest

/-! ### Readers -/

section Gives

variable {α : Type} {P : α → Prop}

theorem gives_mono {Q : α → Prop} (hpq : ∀ x, Q x → P x) {a : Reader α} (h : Gives Q a) :
    Gives P a :=
  fun cs x r hx => hpq x (h cs x r hx)

theorem gives_stopData (reason : String) : Gives P (stopData reason) := by
  intro cs x r hx
  cases hx

/-- A stop that is given its place gives no more than before. -/
theorem gives_place {a : Reader α} (h : Gives P a) : Gives P fun cs => place (a cs) := by
  intro cs x r hx
  simp only [Schema.place] at hx
  split at hx
  · split at hx <;> cases hx
  · exact h cs x r hx

/-- What stands between brackets is what the inside gives. -/
theorem gives_bracketed {a : Reader α} (h : Gives P a) (close : Reader Unit) :
    Gives P (bracketed a close) := by
  intro cs x r hx
  unfold Schema.bracketed at hx
  split at hx
  · next y rest hinside =>
    cases hclose : close rest with
    | error stop =>
      rw [hclose] at hx
      cases hx
    | ok p =>
      rw [hclose] at hx
      cases hx
      exact h cs _ _ hinside
  · split at hx
    · cases hx
    · split at hx <;> cases hx

theorem gives_wrongNext (s : Schema) : Gives P (wrongNext s) := by
  refine gives_place (gives_bind fun next => ?_)
  split
  · exact gives_bind fun _ => gives_bind fun _ => gives_bind fun _ => gives_stopData _
  · exact gives_bind fun _ => gives_bind fun _ => gives_bind fun _ => gives_stopData _
  · exact gives_bind fun _ => gives_bind fun _ => gives_bind fun _ => gives_stopData _
  · exact gives_bind fun _ => gives_bind fun _ => gives_bind fun _ => gives_stopData _
  · exact gives_bind fun _ => gives_bind fun _ => gives_bind fun _ => gives_stopData _
  · exact gives_bind fun _ => gives_stopData _
  · exact gives_bind fun _ => gives_stopData _
  · extract_lets
    split
    · exact gives_bind fun _ => gives_bind fun _ => gives_stopData _
    · exact gives_bind fun _ => gives_stopData _
  · exact gives_bind fun _ => gives_stopData _

end Gives

/-! ### Words -/

/-- An integer is not greater than a word. -/
def WithinWord (n : Number) : Prop := ∀ i : Int, n = .integer i → i ≤ wordLimit

theorem withinWord_double (bits : UInt64) : WithinWord (.double bits) := by
  intro i h
  cases h

theorem accumulate_le {limit n : Nat} (h : n ≤ limit) (ds : List Char) :
    (accumulate limit n ds).1 ≤ limit := by
  induction ds generalizing n with
  | nil => exact h
  | cons d ds ih =>
    rw [accumulate]
    split
    · exact h
    · next hle => exact ih (Nat.not_lt.1 hle)

theorem gives_double (negative : Bool) (significand : Nat) (exponent : Int) :
    Gives WithinWord (double negative significand exponent) := by
  unfold double
  split
  · exact gives_pure (withinWord_double _)
  · exact gives_stopHere _

theorem gives_exponentPart (negative : Bool) (significand : Nat) (start : Int) :
    Gives WithinWord (exponentPart negative significand start) := by
  unfold exponentPart
  refine gives_bind fun _ => gives_bind fun down => gives_bind fun next => ?_
  split
  · exact gives_stopHere _
  · split
    · exact gives_stopAtNext _
    · refine gives_bind fun ds => ?_
      dsimp only
      split
      · exact gives_double _ _ _
      · split
        · refine gives_bind fun behind => ?_
          intro cs x r hx
          cases hx
        · exact gives_double _ _ _

theorem gives_decimalPart (negative : Bool) (significand : Nat) (start : Int) :
    Gives WithinWord (decimalPart negative significand start) := by
  unfold decimalPart
  refine gives_bind fun _ => gives_bind fun ds => ?_
  dsimp only
  split
  · refine gives_bind fun next => ?_
    split
    · exact gives_stopAtNext _
    · exact gives_stopHere _
  · refine gives_bind fun next => ?_
    split
    · exact gives_exponentPart _ _ _
    · exact gives_exponentPart _ _ _
    · exact gives_double _ _ _

theorem gives_integerOf {negative : Bool} {n : Nat} (h : n ≤ wordLimit) :
    Gives WithinWord (integerOf negative n) := by
  unfold integerOf
  split
  · refine gives_pure fun i hi => ?_
    cases hi
    exact Int.ofNat_le.2 h
  · split
    · exact gives_double _ _ _
    · refine gives_pure fun i hi => ?_
      cases hi
      omega

/-- An integer that is read is not greater than a word, for greater ones are doubles. -/
theorem gives_numberRest (negative : Bool) : Gives WithinWord (numberRest negative) := by
  unfold numberRest
  refine gives_bind fun next => ?_
  split
  · exact gives_stopHere _
  · next c =>
    split
    · exact gives_stopAtNext _
    · extract_lets finish
      -- Both ways to read the digits go on alike.
      have hfinish : ∀ ds, Gives WithinWord (finish ds) := by
        intro ds
        refine gives_bind fun next => ?_
        split
        · exact gives_stopAtNext _
        · have hle := accumulate_le (Nat.zero_le wordLimit) ds
          cases haccumulate : accumulate wordLimit 0 ds with
          | mk n surplus =>
            rw [haccumulate] at hle
            dsimp only
            split
            · exact gives_decimalPart _ _ _
            · exact gives_exponentPart _ _ _
            · exact gives_exponentPart _ _ _
            · split
              · exact gives_integerOf hle
              · exact gives_double _ _ _
      split
      · exact gives_bind fun _ => gives_bind fun ds => hfinish ds
      · exact gives_bind fun ds => hfinish ds

/-- What goes on with a number, whole or not. -/
theorem gives_ofNumber {P : Value → Prop} {f : Number → Reader Value}
    (hinteger : ∀ i, WithinWord (.integer i) → Gives P (f (.integer i)))
    (hdouble : ∀ bits, Gives P (f (.double bits))) (n : Number) (hn : WithinWord n) :
    Gives P (f n) := by
  cases n with
  | integer i => exact hinteger i hn
  | double bits => exact hdouble bits

theorem gives_readWord (s : Schema) (expected : String) :
    Gives (Describes (.word expected)) (readWord s) := by
  have hinteger : ∀ i, WithinWord (.integer i) → Gives (Describes (.word expected))
      (if 0 ≤ i then pure (.number (.integer i))
        else stopData (wrongValue jsonWording (.number (.integer i)) s)) := by
    intro i hi
    split
    · next hnonneg =>
      obtain ⟨n, rfl⟩ := Int.eq_ofNat_of_zero_le hnonneg
      exact gives_pure (.word (Int.ofNat_le.1 (hi n rfl)))
    · exact gives_stopData _
  refine gives_place (gives_bind fun next => ?_)
  split
  · exact gives_bind fun _ => (gives_numberRest true).bind
      (gives_ofNumber hinteger fun _ => gives_stopData _)
  · extract_lets finish
    split
    · exact (gives_numberRest false).bind (gives_ofNumber hinteger fun _ => gives_stopData _)
    · exact (gives_wrongNext s).bind (gives_ofNumber hinteger fun _ => gives_stopData _)
  · exact (gives_stopHere _).bind (gives_ofNumber hinteger fun _ => gives_stopData _)

/-! ### Records -/

/-- What was read under the name of a field is described by the schema of the field. -/
def Suits (fields : List (String × Presence × Schema)) (given : List (String × Value)) : Prop :=
  ∀ name presence s v, (name, presence, s) ∈ fields → given.lookup name = some v → Describes s v

theorem describesFields_of_absent {name : String} {presence : Presence} {s : Schema} {v : Value}
    (h : absent name presence s = .ok v) {members : List (String × Value)}
    (hmembers : DescribesFields fields members) :
    DescribesFields ((name, presence, s) :: fields) ((name, v) :: members) := by
  cases presence with
  | fallback v' =>
    cases h
    exact .missing hmembers
  | required =>
    cases s with
    | optional s =>
      cases h
      exact .given (.null s) hmembers
    | _ => cases h

/-- The fields of a record are put together from what was read and what stands for the rest. -/
theorem gives_completed {given : List (String × Value)} (h : Suits fields given) :
    Gives (DescribesFields fields)
      (fields.mapM fun (name, presence, s) =>
        match given.lookup name with
        | some v => (pure (name, v) : Reader (String × Value))
        | none => match absent name presence s with
          | .ok v => pure (name, v)
          | .error reason => stopData reason) := by
  induction fields with
  | nil => exact gives_pure .nil
  | cons f rest ih =>
    obtain ⟨name, presence, s⟩ := f
    have hrest := ih fun name presence s v hmem => h name presence s v (List.mem_cons_of_mem _ hmem)
    have hfirst : Gives (fun m => ∀ members, DescribesFields rest members →
        DescribesFields ((name, presence, s) :: rest) (m :: members))
        (match given.lookup name with
        | some v => (pure (name, v) : Reader (String × Value))
        | none => match absent name presence s with
          | .ok v => pure (name, v)
          | .error reason => stopData reason) := by
      cases hgiven : given.lookup name with
      | some v =>
        exact gives_pure fun members => .given (h name presence s v List.mem_cons_self hgiven)
      | none =>
        cases habsent : absent name presence s with
        | error reason => exact gives_stopData reason
        | ok v => exact gives_pure fun members => describesFields_of_absent habsent
    rw [List.mapM_cons]
    exact hfirst.bind fun m hm => hrest.bind fun members hmembers => gives_pure (hm members hmembers)

/-- What is read under a name that is none of those before suits the fields, too. -/
theorem Suits.cons {given : List (String × Value)} (h : Suits fields given)
    (hnodup : (fields.map (·.1)).Nodup) {name : String} {presence : Presence} {s : Schema}
    (hfield : fields.lookup name = some (presence, s)) {v : Value} (hv : Describes s v) :
    Suits fields ((name, v) :: given) := by
  intro name' presence' s' v' hmem hlookup
  rw [Value.lookup_member] at hlookup
  split at hlookup
  · next heq =>
    cases hlookup
    cases heq
    have hsame := Value.lookup_of_mem hnodup hmem
    rw [hfield] at hsame
    cases hsame
    exact hv
  · exact h name' presence' s' v' hmem hlookup

/-! ### The readers -/

/-- With some fuel, the readers of values, of lists, and of the fields of a record from an array and
from an object give what their schemas describe. -/
structure Sound (fuel : Nat) : Prop where
  value : ∀ depth s, namesApart s = true → Gives (Describes s) (readWith fuel depth s)
  list : ∀ depth s first, namesApart s = true →
    Gives (fun items => ∀ v ∈ items, Describes s v) (readListWith fuel depth s first)
  items : ∀ depth owner total index fields, fieldsApart fields = true →
    Gives (DescribesFields fields) (readItemsWith fuel depth owner total index fields)
  fields : ∀ depth closed fields first given, (fields.map (·.1)).Nodup →
    fieldsApart fields = true → Suits fields given →
      Gives (DescribesFields fields) (readFieldsWith fuel depth closed fields first given)

theorem sound_zero : Sound 0 := by
  refine ⟨fun _ _ _ => ?_, fun _ _ _ _ => ?_, fun _ _ _ _ _ _ => ?_, fun _ _ _ _ _ _ _ _ => ?_⟩
  · rw [readWith]
    exact gives_stopHere _
  · rw [readListWith]
    exact gives_stopHere _
  · rw [readItemsWith]
    exact gives_stopHere _
  · rw [readFieldsWith]
    exact gives_stopHere _

variable {fuel : Nat}

theorem Sound.value_succ (h : Sound fuel) (depth : Nat) {s : Schema} (hs : namesApart s = true) :
    Gives (Describes s) (readWith (fuel + 1) depth s) := by
  rw [readWith.eq_def]
  refine gives_bind fun next => ?_
  split
  · -- At the end of the text only an optional value looks once more.
    split
    · rw [namesApart] at hs
      exact gives_mono (fun _ => .optional) (h.value _ _ hs)
    · exact gives_stopHere _
  · split
    · exact fun _ v _ _ => .anything v
    · exact gives_bind fun _ => gives_bind fun _ => gives_pure (.null _)
    · rw [namesApart] at hs
      exact gives_mono (fun _ => .optional) (h.value _ _ hs)
    · exact gives_bind fun _ => gives_bind fun t => gives_pure (.text _ t)
    · exact gives_bind fun _ => gives_bind fun _ => gives_pure (.flag true)
    · exact gives_bind fun _ => gives_bind fun _ => gives_pure (.flag false)
    · exact gives_readWord _ _
    · rw [namesApart] at hs
      refine gives_bind fun _ => (gives_bracketed (h.list _ _ _ hs) _).bind fun items hitems => ?_
      exact gives_pure (.list hitems)
    · next owner closed fields =>
      rw [namesApart, Bool.and_eq_true] at hs
      have hitems := h.items (depth - 1) owner fields.length 0 fields hs.2
      exact gives_bind fun _ => (gives_bracketed hitems _).bind fun members hmembers =>
        gives_pure (.record hmembers)
    · next owner closed fields =>
      rw [namesApart, Bool.and_eq_true, decide_eq_true_eq] at hs
      have hnothing : Suits fields [] := by
        intro name presence shape v _ hlookup
        cases hlookup
      have hfields := h.fields (depth - 1) closed fields true [] hs.1 hs.2 hnothing
      exact gives_bind fun _ => (gives_bracketed hfields _).bind fun members hmembers =>
        gives_pure (.record hmembers)
    · exact gives_wrongNext _

theorem Sound.list_succ (h : Sound fuel) (depth : Nat) {s : Schema} (first : Bool)
    (hs : namesApart s = true) :
    Gives (fun items => ∀ v ∈ items, Describes s v) (readListWith (fuel + 1) depth s first) := by
  rw [readListWith]
  refine gives_bind fun more => ?_
  split
  · refine (h.value depth s hs).bind fun v hv => (h.list depth s false hs).bind fun rest hrest => ?_
    exact gives_pure (List.forall_mem_cons.2 ⟨hv, hrest⟩)
  · exact gives_pure (by simp)

theorem Sound.items_succ (h : Sound fuel) (depth : Nat) (owner : String) (total index : Nat)
    (hapart : fieldsApart fields = true) :
    Gives (DescribesFields fields) (readItemsWith (fuel + 1) depth owner total index fields) := by
  rw [readItemsWith.eq_def]
  cases fields with
  | nil => exact gives_pure .nil
  | cons f rest =>
    obtain ⟨name, presence, s⟩ := f
    rw [fieldsApart, Bool.and_eq_true] at hapart
    refine gives_bind fun more => ?_
    split
    · refine (h.value _ _ hapart.1).bind fun v hv => ?_
      refine (h.items _ _ _ _ _ hapart.2).bind fun members hmembers => ?_
      exact gives_pure (.given hv hmembers)
    · cases presence with
      | fallback v =>
        refine (h.items _ _ _ _ _ hapart.2).bind fun members hmembers => ?_
        exact gives_pure (.missing hmembers)
      | required => exact gives_stopData _

theorem Sound.fields_succ (h : Sound fuel) (depth : Nat) (closed first : Bool)
    {given : List (String × Value)} (hnodup : (fields.map (·.1)).Nodup)
    (hapart : fieldsApart fields = true) (hgiven : Suits fields given) :
    Gives (DescribesFields fields) (readFieldsWith (fuel + 1) depth closed fields first given) := by
  rw [readFieldsWith]
  refine gives_bind fun more => ?_
  split
  · refine gives_bind fun name => ?_
    split
    · next presence s hfield =>
      split
      · exact gives_stopData _
      · refine gives_bind fun _ => (h.value _ _ ?_).bind fun v hv => ?_
        · exact namesApart_of_mem hapart (Value.mem_of_lookup hfield)
        · exact h.fields _ _ _ _ _ hnodup hapart (hgiven.cons hnodup hfield hv)
    · split
      · exact gives_stopData _
      · exact gives_bind fun _ => gives_bind fun _ => h.fields _ _ _ _ _ hnodup hapart hgiven
  · exact gives_completed hgiven

theorem sound (fuel : Nat) : Sound fuel := by
  induction fuel with
  | zero => exact sound_zero
  | succ fuel ih =>
    refine ⟨fun depth s hs => ?_, fun depth s first hs => ?_,
      fun depth owner total index fields hapart => ?_,
      fun depth closed fields first given hnodup hapart hgiven => ?_⟩
    · exact ih.value_succ depth hs
    · exact ih.list_succ depth first hs
    · exact ih.items_succ depth owner total index hapart
    · exact ih.fields_succ depth closed first hnodup hapart hgiven

/-- **What is read through a schema, the schema describes.** -/
theorem describes_read {s : Schema} (hs : namesApart s = true) {text : String} {v : Value}
    (h : s.read text = .ok v) : Describes s v := by
  unfold read readText at h
  dsimp only at h
  split at h
  · next v' hv =>
    cases h
    refine (((sound _).value depthLimit s hs).bind fun v hv => ?_).run' hv
    exact gives_bind fun _ => gives_pure hv
  · cases h

end Scribe.Json.Schema
