import Scribe.Json.Schema
import Scribe.Proofs.Json.Sorted

/-!
# Records read from objects

A schema is *flat* if it takes a text or anything, so that its value is taken as it stands. An open
record of flat fields reads from an object exactly those members that it has fields for:
`toOption_decode_object` computes the result field by field, whatever other members there are and in
whatever order they come.
-/

namespace Scribe.Json.Schema

theorem toOption_bind {ε α β : Type} (x : Except ε α) (f : α → Except ε β) :
    (x >>= f).toOption = x.toOption.bind fun a => (f a).toOption := by
  cases x <;> rfl

theorem toOption_mapM {ε α β : Type} (f : α → Except ε β) (xs : List α) :
    (xs.mapM f).toOption = xs.mapM fun x => (f x).toOption := by
  induction xs with
  | nil => rfl
  | cons x rest ih =>
    rw [List.mapM_cons, List.mapM_cons, toOption_bind]
    refine congrArg _ (funext fun y => ?_)
    rw [toOption_bind, ih]
    rfl

variable {w : Wording} {fuel : Nat}

/-- A schema that takes a value as it stands: a text, or anything. -/
def flat : Schema → Bool
  | .text _ => true
  | .anything => true
  | _ => false

/-- The values that a flat schema takes. -/
def admits : Schema → Value → Bool
  | .anything, _ => true
  | .text _, .string _ => true
  | _, _ => false

theorem toOption_ofValue {s : Schema} (hflat : s.flat = true) (v : Value) :
    (ofValue w (fuel + 1) s v).toOption = if s.admits v then some v else none := by
  cases s with
  | anything => rw [ofValue]; rfl
  | text e => cases v <;> simp [ofValue, admits, Except.toOption]
  | _ => cases hflat

/-! ### The members of an object -/

/-- A field of a record: its name, what stands for it if it is missing, and what it takes. -/
abbrev Field := String × Presence × Schema

variable {fields : List Field} {members : List (String × Value)}

/-- A member that the record has a field for. -/
def known (fields : List Field) (m : String × Value) : Bool := (fields.lookup m.1).isSome

/-- A member that its field takes, if the record has one for it. -/
def fits (fields : List Field) (m : String × Value) : Bool :=
  (fields.lookup m.1).all fun f => f.2.admits m.2

/-- The members for which there are fields are read in the order of the object. -/
theorem toOption_fromMembers (hflat : ∀ f ∈ fields, f.2.2.flat = true)
    (hfuel : members.length < fuel) :
    (fromMembers w fuel false fields members).toOption =
      if members.all (fits fields) then some (members.filter (known fields)) else none := by
  induction members generalizing fuel with
  | nil =>
    obtain ⟨fuel, rfl⟩ := Nat.exists_eq_add_one_of_ne_zero (Nat.ne_of_gt hfuel)
    simp [fromMembers, Except.toOption]
  | cons m rest ih =>
    obtain ⟨name, v⟩ := m
    -- A step for the member, and one for its value.
    obtain ⟨fuel, rfl⟩ : ∃ k, fuel = k + 2 := ⟨fuel - 2, by simp at hfuel; omega⟩
    have hrest : (fromMembers w (fuel + 1) false fields rest).toOption = _ :=
      ih (by simpa using hfuel)
    rw [fromMembers, List.all_cons, List.filter_cons]
    cases hfield : fields.lookup name with
    | none =>
      have hknown : known fields (name, v) = false := by rw [known, hfield]; rfl
      have hfits : fits fields (name, v) = true := by rw [fits, hfield]; rfl
      rw [hknown, hfits]
      exact hrest
    | some f =>
      obtain ⟨presence, s⟩ := f
      have hs : s.flat = true := hflat _ (Value.mem_of_lookup hfield)
      have hknown : known fields (name, v) = true := by rw [known, hfield]; rfl
      have hfits : fits fields (name, v) = s.admits v := by rw [fits, hfield]; rfl
      rw [hknown, hfits]
      change (ofValue w (fuel + 1) s v >>= fun got => fromMembers w (fuel + 1) false fields rest >>=
        fun more => pure ((name, got) :: more)).toOption = _
      rw [toOption_bind, toOption_ofValue hs]
      cases s.admits v with
      | false => rfl
      | true =>
        change (fromMembers w (fuel + 1) false fields rest >>=
          fun more => pure ((name, v) :: more)).toOption = _
        rw [toOption_bind, hrest, Bool.true_and]
        cases rest.all (fits fields) <;> rfl

theorem length_le_stepsOfMembers (members : List (String × Value)) :
    members.length ≤ stepsOfMembers members := by
  induction members with
  | nil => exact Nat.zero_le _
  | cons m rest ih =>
    obtain ⟨name, v⟩ := m
    rw [stepsOfMembers, List.length_cons]
    omega

/-! ### Field by field -/

/-- What a record holds under the name of a field, if the object has it or need not have it. -/
def field? (members : List (String × Value)) (f : Field) : Option (String × Value) :=
  match members.lookup f.1, f.2.1 with
  | some v, _ => if f.2.2.admits v then some (f.1, v) else none
  | none, .fallback v => some (f.1, v)
  | none, .required => none

theorem field?_required_text (members : List (String × Value)) (name e : String) :
    field? members (name, .required, .text e) =
      ((members.lookup name).bind (·.string?)).map fun t => (name, .string t) := by
  rw [field?]
  cases members.lookup name with
  | none => rfl
  | some v => cases v <;> rfl

theorem field?_anything (members : List (String × Value)) (name : String) (v : Value) :
    field? members (name, .fallback v, .anything) =
      some (name, (members.lookup name).getD v) := by
  rw [field?]
  cases members.lookup name <;> rfl

theorem lookup_filter_known {name : String} (h : (fields.lookup name).isSome = true) :
    (members.filter (known fields)).lookup name = members.lookup name := by
  induction members with
  | nil => rfl
  | cons m rest ih =>
    obtain ⟨other, v⟩ := m
    rw [List.filter_cons, Value.lookup_member]
    by_cases hname : name = other
    · subst hname
      rw [if_pos (show known fields (name, v) = true from h), Value.lookup_member, if_pos rfl,
        if_pos rfl]
    · rw [if_neg hname]
      split
      · rw [Value.lookup_member, if_neg hname, ih]
      · exact ih

/-- Where all members fit, a field takes its member, or what stands for it if there is none. -/
theorem field?_of_fits (hflat : ∀ f ∈ fields, f.2.2.flat = true)
    (hfields : (fields.map (·.1)).Nodup) (hfits : members.all (fits fields) = true)
    {f : Field} (hf : f ∈ fields) :
    field? members f =
      (match (members.filter (known fields)).lookup f.1 with
        | some v => .ok (f.1, v)
        | none => (absent f.1 f.2.1 f.2.2).map ((f.1, ·)) :
          Except String (String × Value)).toOption := by
  obtain ⟨name, presence, s⟩ := f
  have hfield : fields.lookup name = some (presence, s) := Value.lookup_of_mem hfields hf
  have hknown : (fields.lookup name).isSome = true := by rw [hfield]; rfl
  rw [lookup_filter_known hknown, field?]
  cases hlookup : members.lookup name with
  | some v =>
    have hv : fits fields (name, v) = true :=
      List.all_eq_true.1 hfits _ (Value.mem_of_lookup hlookup)
    rw [fits, hfield] at hv
    exact if_pos hv
  | none =>
    cases presence with
    | fallback v => cases s <;> rfl
    | required =>
      -- Only an optional schema could be missing all the same, and that is not flat.
      cases s with
      | optional => exact absurd (hflat _ hf) Bool.false_ne_true
      | _ => rfl

theorem mapM_congr {α β : Type} {f g : α → Option β} {xs : List α} (h : ∀ x ∈ xs, f x = g x) :
    xs.mapM f = xs.mapM g := by
  induction xs with
  | nil => rfl
  | cons x rest ih =>
    rw [List.forall_mem_cons] at h
    rw [List.mapM_cons, List.mapM_cons, h.1, ih h.2]

theorem mapM_eq_none {α β : Type} {f : α → Option β} {xs : List α} {x : α} (hx : x ∈ xs)
    (h : f x = none) : xs.mapM f = none := by
  induction xs with
  | nil => cases hx
  | cons y rest ih =>
    rw [List.mapM_cons]
    rcases List.mem_cons.1 hx with rfl | hx
    · rw [h]
      rfl
    · rw [ih hx]
      cases f y <;> rfl

/-- An open record of flat fields holds what the object has under their names; other members do not
matter. No name stands twice, in the record or in the object. -/
theorem toOption_decode_object (owner : String) (hflat : ∀ f ∈ fields, f.2.2.flat = true)
    (hfields : (fields.map (·.1)).Nodup) (hmembers : Value.Ascending members) :
    (decode (.record owner false fields) (.object members)).toOption =
      (fields.mapM (field? members)).map .object := by
  have hfuel : members.length < steps (.object members) + (record owner false fields).size := by
    have := length_le_stepsOfMembers members
    rw [steps]
    omega
  rw [decode, decodeWith, ofValue, toOption_bind, toOption_fromMembers hflat hfuel]
  cases hfits : members.all (fits fields) with
  | true =>
    change (fields.mapM _ >>= fun got => pure (Value.object got) : Except String Value).toOption = _
    rw [toOption_bind, toOption_mapM, mapM_congr fun f hf => field?_of_fits hflat hfields hfits hf,
      Option.map_eq_bind]
    rfl
  | false =>
    -- The member that does not fit stands under the name of a field.
    obtain ⟨⟨name, v⟩, hm, hv⟩ := List.all_eq_false.1 hfits
    rw [fits] at hv
    cases hfield : fields.lookup name with
    | none => exact absurd (by rw [hfield]; rfl) hv
    | some f =>
      have hf : (name, f) ∈ fields := Value.mem_of_lookup hfield
      have hnone : field? members (name, f) = none := by
        rw [hfield] at hv
        rw [field?, Value.lookup_of_mem hmembers.nodup hm]
        exact if_neg hv
      rw [mapM_eq_none hf hnone]
      rfl

end Scribe.Json.Schema
