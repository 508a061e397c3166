import Scribe.Json.Reader
import Scribe.Proofs.Json.Token

/-!
# Sorted values

`Value.sorted` orders the members of every object by name and keeps the last of a name. A lookup in
a sorted object therefore finds the last member of a name (`get?_sorted`). A value is *ordered* if
all its objects already stand like this; then sorting changes nothing (`Ordered.sorted_eq`), and
every value that is read from a text is ordered (`ordered_parse`).
-/

namespace Scribe.Json

namespace Value

/-! ### Members of a sorted object -/

theorem lookup_member (name other : String) (v : Value) (members : List (String × Value)) :
    ((other, v) :: members).lookup name = if name = other then some v else members.lookup name := by
  rw [List.lookup_cons]
  by_cases h : name = other
  · rw [beq_iff_eq.2 h, if_pos h]
  · rw [beq_eq_false_iff_ne.2 h, if_neg h]

/-- What a lookup finds stands under the name. -/
theorem mem_of_lookup {β : Type} {entries : List (String × β)} {name : String} {b : β}
    (h : entries.lookup name = some b) : (name, b) ∈ entries := by
  obtain ⟨front, back, rfl, -⟩ := List.lookup_eq_some_iff.1 h
  exact List.mem_append_right _ List.mem_cons_self

/-- Among distinct names a lookup finds what stands under the name. -/
theorem lookup_of_mem {β : Type} {entries : List (String × β)} (h : (entries.map (·.1)).Nodup)
    {name : String} {b : β} (hmem : (name, b) ∈ entries) : entries.lookup name = some b := by
  obtain ⟨front, back, rfl⟩ := List.append_of_mem hmem
  refine List.lookup_eq_some_iff.2 ⟨front, back, rfl, fun p hp => bne_iff_ne.2 ?_⟩
  rw [List.map_append, List.nodup_append] at h
  exact (h.2.2 p.1 (List.mem_map_of_mem hp) name List.mem_cons_self).symm

theorem lookup_insertMember (name other : String) (v : Value) (members : List (String × Value)) :
    (insertMember other v members).lookup name =
      if name = other then some v else members.lookup name := by
  induction members with
  | nil => rw [insertMember, lookup_member]
  | cons m rest ih =>
    obtain ⟨next, w⟩ := m
    rw [insertMember]
    split
    · rw [lookup_member]
    · split
      · next hsame =>
        rw [hsame, lookup_member, lookup_member]
        split <;> rfl
      · next hother =>
        rw [lookup_member, lookup_member, ih]
        by_cases hnext : name = next
        · have hne : ¬ name = other := fun h => hother (h.symm.trans hnext)
          rw [if_pos hnext, if_neg hne, if_pos hnext]
        · rw [if_neg hnext, if_neg hnext]

/-- Of the members of one name the last is kept, and of the ones from before only other names. -/
theorem lookup_sortedMembers (name : String) (members done : List (String × Value)) :
    (sortedMembers members done).lookup name =
      ((members.reverse.lookup name).map sorted).or (done.lookup name) := by
  induction members generalizing done with
  | nil => rw [sortedMembers, List.reverse_nil, List.lookup_nil, Option.map_none, Option.none_or]
  | cons m rest ih =>
    obtain ⟨other, v⟩ := m
    rw [sortedMembers, ih, lookup_insertMember, List.reverse_cons, List.lookup_append,
      Option.map_or, Option.or_assoc, lookup_member, List.lookup_nil]
    split <;> rfl

/-- A sorted object holds each of its members, sorted itself. -/
theorem get?_sorted (name : String) (members : List (String × Value)) :
    (Value.object members).sorted.get? name = (members.reverse.lookup name).map sorted := by
  rw [sorted, get?, lookup_sortedMembers, List.lookup_nil, Option.or_none]

theorem sorted_singleton (name : String) (v : Value) :
    (Value.object [(name, v)]).sorted = .object [(name, v.sorted)] := rfl

theorem sortedItems_eq_map (items : List Value) : sortedItems items = items.map sorted := by
  induction items with
  | nil => rfl
  | cons v rest ih => rw [sortedItems, ih, List.map_cons]

/-! ### Ordered values -/

/-- Members that stand in the order of their names, each name once. -/
def Ascending (members : List (String × Value)) : Prop := (members.map (·.1)).Pairwise (· < ·)

theorem Ascending.nodup {members : List (String × Value)} (h : Ascending members) :
    (members.map (·.1)).Nodup := h.imp String.ne_of_lt

/-- A value in which the members of every object ascend. -/
inductive Ordered : Value → Prop where
  | null : Ordered .null
  | bool (b : Bool) : Ordered (.bool b)
  | number (n : Number) : Ordered (.number n)
  | string (s : String) : Ordered (.string s)
  | array {items : List Value} : (∀ v ∈ items, Ordered v) → Ordered (.array items)
  | object {members : List (String × Value)} : Ascending members →
      (∀ m ∈ members, Ordered m.2) → Ordered (.object members)

theorem mem_insertMember {name : String} {v : Value} {members : List (String × Value)}
    {m : String × Value} (h : m ∈ insertMember name v members) : m = (name, v) ∨ m ∈ members := by
  induction members with
  | nil => exact .inl (List.mem_singleton.1 h)
  | cons next rest ih =>
    obtain ⟨other, u⟩ := next
    rw [insertMember] at h
    split at h
    · exact List.mem_cons.1 h
    · split at h
      · rcases List.mem_cons.1 h with h | h
        · exact .inl h
        · exact .inr (List.mem_cons_of_mem _ h)
      · rcases List.mem_cons.1 h with h | h
        · exact .inr (h ▸ List.mem_cons_self)
        · exact (ih h).imp_right (List.mem_cons_of_mem _)

theorem ascending_cons {name : String} {v : Value} {members : List (String × Value)} :
    Ascending ((name, v) :: members) ↔ (∀ m ∈ members, name < m.1) ∧ Ascending members := by
  rw [Ascending, List.map_cons, List.pairwise_cons, List.forall_mem_map]
  rfl

/-- A member is put where the names go on ascending. -/
theorem Ascending.insertMember {members : List (String × Value)} (h : Ascending members)
    (name : String) (v : Value) : Ascending (insertMember name v members) := by
  induction members with
  | nil => exact List.pairwise_singleton _ _
  | cons next rest ih =>
    obtain ⟨other, u⟩ := next
    obtain ⟨hfirst, hrest⟩ := ascending_cons.1 h
    rw [Value.insertMember]
    split
    · next hlt =>
      refine ascending_cons.2 ⟨fun m hm => ?_, h⟩
      rcases List.mem_cons.1 hm with rfl | hm
      · exact hlt
      · exact String.lt_trans hlt (hfirst m hm)
    · next hle =>
      split
      · next hsame =>
        subst hsame
        exact ascending_cons.2 ⟨hfirst, hrest⟩
      · next hne =>
        refine ascending_cons.2 ⟨fun m hm => ?_, ih hrest⟩
        rcases mem_insertMember hm with rfl | hm
        · exact Std.lt_of_le_of_ne (String.not_lt.1 hle) (Ne.symm hne)
        · exact hfirst m hm

/-- A member whose name is behind all others is put at the end. -/
theorem insertMember_append {members : List (String × Value)} {name : String}
    (h : ∀ m ∈ members, m.1 < name) (v : Value) :
    insertMember name v members = members ++ [(name, v)] := by
  induction members with
  | nil => rfl
  | cons next rest ih =>
    obtain ⟨other, u⟩ := next
    have hlt : other < name := h _ List.mem_cons_self
    rw [insertMember, if_neg (String.lt_asymm hlt), if_neg (String.ne_of_lt hlt).symm,
      ih fun m hm => h m (List.mem_cons_of_mem _ hm)]
    rfl

/-- Ascending members whose values are sorted come out as they are, behind those before them. -/
theorem sortedMembers_eq_append {members done : List (String × Value)}
    (h : Ascending (done ++ members)) (hsorted : ∀ m ∈ members, m.2.sorted = m.2) :
    sortedMembers members done = done ++ members := by
  induction members generalizing done with
  | nil => rw [sortedMembers, List.append_nil]
  | cons m rest ih =>
    obtain ⟨name, v⟩ := m
    have hbefore : ∀ m ∈ done, m.1 < name := by
      intro m hm
      rw [Ascending, List.map_append, List.pairwise_append] at h
      exact h.2.2 _ (List.mem_map_of_mem hm) _ List.mem_cons_self
    have hv : v.sorted = v := hsorted (name, v) List.mem_cons_self
    rw [sortedMembers, hv, insertMember_append hbefore, ih]
    · rw [List.append_assoc]
      rfl
    · rwa [List.append_assoc]
    · exact fun m hm => hsorted m (List.mem_cons_of_mem _ hm)

/-- An ordered value is sorted already. -/
theorem Ordered.sorted_eq {v : Value} (h : v.Ordered) : v.sorted = v := by
  induction h with
  | null | bool | number | string => rfl
  | array _ ih =>
    rw [sorted, sortedItems_eq_map]
    exact congrArg _ ((List.map_congr_left (g := id) ih).trans (List.map_id _))
  | object hascending _ ih =>
    rw [sorted]
    exact congrArg _ (sortedMembers_eq_append hascending ih)

/-- A member of an ordered object is ordered. -/
theorem Ordered.get? {v u : Value} (h : v.Ordered) {name : String} (hu : v.get? name = some u) :
    u.Ordered := by
  cases h with
  | object _ hmembers => exact hmembers (name, u) (mem_of_lookup hu)
  | _ => cases hu

theorem Ordered.getD_null {v : Value} (h : v.Ordered) {name : String} :
    ((v.get? name).getD .null).Ordered := by
  cases hget : v.get? name with
  | none => exact .null
  | some u => exact h.get? hget

end Value

/-! ### What is read is ordered -/

open Value

/-- Readers of values, of items and of members, all with the fuel that the induction is on: the
members that have been read ascend, and the next one is put in its place. -/
theorem gives_ordered (fuel : Nat) :
    (∀ depth, Gives Ordered (readValue fuel depth)) ∧
      (∀ depth first, Gives (fun items => ∀ v ∈ items, Ordered v) (readItems fuel depth first)) ∧
      ∀ depth first done, Ascending done → (∀ m ∈ done, Ordered m.2) →
        Gives (fun members => Ascending members ∧ ∀ m ∈ members, Ordered m.2)
          (readMembers fuel depth first done) := by
  induction fuel with
  | zero =>
    refine ⟨fun _ => gives_stopHere _, fun _ _ => gives_stopHere _, fun _ _ _ _ _ => gives_stopHere _⟩
  | succ fuel ih =>
    obtain ⟨hvalue, hitems, hmembers⟩ := ih
    refine ⟨fun depth => ?_, fun depth first => ?_, fun depth first done hascending hordered => ?_⟩
    · rw [readValue]
      refine gives_bind fun next => ?_
      split
      · exact gives_stopHere _
      · exact gives_bind fun _ => gives_bind fun _ => gives_pure .null
      · exact gives_bind fun _ => gives_bind fun _ => gives_pure (.bool true)
      · exact gives_bind fun _ => gives_bind fun _ => gives_pure (.bool false)
      · exact gives_bind fun _ => gives_bind fun n => gives_pure (.number n)
      · exact gives_bind fun _ => gives_bind fun s => gives_pure (.string s)
      · exact gives_bind fun _ => (hitems _ _).bind fun items h =>
          gives_bind fun _ => gives_pure (.array h)
      · exact gives_bind fun _ => (hmembers _ _ [] List.Pairwise.nil (by simp)).bind fun members h =>
          gives_bind fun _ => gives_pure (.object h.1 h.2)
      · split
        · exact gives_bind fun n => gives_pure (.number n)
        · exact gives_stopAtNext _
    · rw [readItems]
      refine gives_bind fun more => ?_
      split
      · refine (hvalue _).bind fun v hv => (hitems _ _).bind fun rest hrest => gives_pure ?_
        exact List.forall_mem_cons.2 ⟨hv, hrest⟩
      · exact gives_pure (by simp)
    · rw [readMembers]
      refine gives_bind fun more => ?_
      split
      · refine gives_bind fun name => gives_bind fun _ => (hvalue _).bind fun v hv => ?_
        refine hmembers _ _ _ (hascending.insertMember name v) fun m hm => ?_
        rcases mem_insertMember hm with rfl | hm
        · exact hv
        · exact hordered m hm
      · exact gives_pure ⟨hascending, hordered⟩

/-- **A value that is read from a text is ordered.** -/
theorem ordered_parse {text : String} {v : Value} (h : Value.parse text = .ok v) : v.Ordered := by
  have hvalue : ∀ fuel, Gives Ordered (readValue fuel depthLimit) := fun fuel =>
    (gives_ordered fuel).1 depthLimit
  exact ((hvalue _).bind fun v hv => gives_bind fun _ => gives_pure hv).run' h

end Scribe.Json
