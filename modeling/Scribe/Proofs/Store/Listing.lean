import Mathlib.Data.List.Nodup
import Scribe.Store.Memory

/-!
# The order of a listing

The documents of a folder are listed by the texts of their times, the greatest first, and where two
are equal in the order of the store (`pairwise_listed`).

The store shows its clock as the seconds of a time, with two digits at least. Texts of digits that are
equally long stand in the order of their values, so among times of one length the order is that of
the clock (`clock_lt_of_timestamp_lt`). A time of another length stands where its spelling puts it:
`99` comes behind `100`.
-/

namespace Scribe.Store.Memory

/-! ### Texts that differ in the middle -/

variable {p q x y : List Char}

theorem lt_of_append_lt_append_left (h : p ++ x < p ++ y) : x < y := by
  induction p with
  | nil => exact h
  | cons c p ih =>
    rcases List.cons_lt_cons_iff.1 h with hc | ⟨-, hrest⟩
    · exact absurd hc (Char.lt_irrefl c)
    · exact ih hrest

/-- What equally long texts have behind them does not count. -/
theorem lt_of_append_lt_append_right (hlength : x.length = y.length) (h : x ++ q < y ++ q) :
    x < y := by
  induction x generalizing y with
  | nil =>
    rw [List.eq_nil_of_length_eq_zero hlength.symm] at h
    exact absurd h (List.lt_irrefl q)
  | cons c x ih =>
    cases y with
    | nil => cases hlength
    | cons d y =>
      rw [List.cons_lt_cons_iff]
      rcases List.cons_lt_cons_iff.1 h with hc | ⟨hc, hrest⟩
      · exact .inl hc
      · exact .inr ⟨hc, ih (Nat.succ.inj hlength) hrest⟩

/-! ### Texts of digits -/

/-- The text has decimal digits only. -/
def Digits (cs : List Char) : Prop := ∀ c ∈ cs, '0'.toNat ≤ c.toNat ∧ c.toNat ≤ '9'.toNat

theorem digits_toDigits (n : Nat) : Digits (Nat.toDigits 10 n) := by
  intro c hc
  have hdigit := Nat.isDigit_of_mem_toDigits (by decide) (by decide) hc
  simpa [Char.isDigit, UInt32.le_iff_toNat_le] using hdigit

/-- The value of equally long texts of digits keeps the order of what stands in front of them. -/
theorem ofDigitChars_lt_of_lt (hx : Digits x) (hy : Digits y) (hlength : x.length = y.length)
    {a b : Nat} (h : a < b) : Nat.ofDigitChars 10 x a < Nat.ofDigitChars 10 y b := by
  induction x generalizing y a b with
  | nil =>
    rw [List.eq_nil_of_length_eq_zero hlength.symm]
    exact h
  | cons c x ih =>
    cases y with
    | nil => cases hlength
    | cons d y =>
      obtain ⟨hc, hx'⟩ := List.forall_mem_cons.1 hx
      obtain ⟨hd, hy'⟩ := List.forall_mem_cons.1 hy
      have hrest : x.length = y.length := Nat.succ.inj hlength
      rw [Nat.ofDigitChars_cons, Nat.ofDigitChars_cons]
      refine ih hx' hy' hrest ?_
      change 48 ≤ _ ∧ _ ≤ 57 at hc
      change 10 * a + (_ - 48) < 10 * b + (_ - 48)
      omega

/-- The order of equally long texts of digits is that of their values. -/
theorem ofDigitChars_lt (hx : Digits x) (hy : Digits y) (hlength : x.length = y.length)
    (h : x < y) (a : Nat) : Nat.ofDigitChars 10 x a < Nat.ofDigitChars 10 y a := by
  induction x generalizing y a with
  | nil =>
    rw [List.eq_nil_of_length_eq_zero hlength.symm] at h
    exact absurd h (List.lt_irrefl [])
  | cons c x ih =>
    cases y with
    | nil => cases hlength
    | cons d y =>
      obtain ⟨hc, hx'⟩ := List.forall_mem_cons.1 hx
      obtain ⟨hd, hy'⟩ := List.forall_mem_cons.1 hy
      have hrest : x.length = y.length := Nat.succ.inj hlength
      rw [Nat.ofDigitChars_cons, Nat.ofDigitChars_cons]
      rcases List.cons_lt_cons_iff.1 h with hlt | ⟨rfl, hlt⟩
      · refine ofDigitChars_lt_of_lt hx' hy' hrest ?_
        have hvalue : c.toNat < d.toNat := UInt32.lt_iff_toNat_lt.1 hlt
        omega
      · exact ih hx' hy' hrest hlt _

/-! ### Times -/

/-- The seconds of a time. -/
def seconds (n : Nat) : String := if (toString n).length < 2 then "0" ++ toString n else toString n

theorem timestamp_eq (m : Memory) :
    m.timestamp = "2026-01-01T00:00:" ++ seconds m.clock.toNat ++ ".000Z" := rfl

theorem digits_seconds (n : Nat) : Digits (seconds n).toList := by
  rw [seconds, Nat.toString_eq_repr]
  split
  · rw [String.toList_append, Nat.toList_repr]
    exact List.forall_mem_cons.2 ⟨by decide, digits_toDigits n⟩
  · rw [Nat.toList_repr]
    exact digits_toDigits n

theorem ofDigitChars_seconds (n : Nat) : Nat.ofDigitChars 10 (seconds n).toList 0 = n := by
  have hvalue : Nat.ofDigitChars 10 (Nat.toDigits 10 n) 0 = n := Nat.ofDigitChars_ten_toDigits
  rw [seconds, Nat.toString_eq_repr]
  split
  · rw [String.toList_append, Nat.toList_repr, Nat.ofDigitChars_append]
    exact hvalue
  · rw [Nat.toList_repr]
    exact hvalue

variable {m m' : Memory}

/-- No two readings of the clock are shown alike. -/
theorem clock_eq_of_timestamp_eq (h : m.timestamp = m'.timestamp) : m.clock = m'.clock := by
  rw [timestamp_eq, timestamp_eq, String.append_left_inj, String.append_right_inj] at h
  rw [← UInt32.toNat_inj, ← ofDigitChars_seconds m.clock.toNat, h, ofDigitChars_seconds]

/-- **Among times of one length the order is that of the clock.** -/
theorem clock_lt_of_timestamp_lt (hlength : m.timestamp.length = m'.timestamp.length)
    (h : m.timestamp < m'.timestamp) : m.clock < m'.clock := by
  rw [timestamp_eq, timestamp_eq] at hlength h
  simp only [String.length_append, Nat.add_left_inj, Nat.add_right_inj] at hlength
  rw [← String.length_toList, ← String.length_toList] at hlength
  rw [String.lt_iff, String.toList_append, String.toList_append, String.toList_append,
    String.toList_append, List.append_assoc, List.append_assoc] at h
  have hseconds := lt_of_append_lt_append_right hlength (lt_of_append_lt_append_left h)
  have hvalue := ofDigitChars_lt (digits_seconds _) (digits_seconds _) hlength hseconds 0
  rw [ofDigitChars_seconds, ofDigitChars_seconds] at hvalue
  exact UInt32.lt_iff_toNat_lt.2 hvalue

/-- The times of a clock below 100 are equally long. -/
theorem length_timestamp (h : m.clock.toNat < 100) : m.timestamp.length = 24 := by
  have hseconds : ∀ n < 100, (seconds n).length = 2 := by decide +kernel
  rw [timestamp_eq, String.length_append, String.length_append, hseconds _ h]
  rfl

/-! ### Sorting keeps the order of equals -/

section Sorting

variable {α : Type} {le : α → α → Bool} {l : List α} {a b : α}

/-- Of two elements of a list one comes behind the other. -/
theorem pair_sublist_or (ha : a ∈ l) (hb : b ∈ l) (hne : a ≠ b) :
    [a, b].Sublist l ∨ [b, a].Sublist l := by
  obtain ⟨front, back, rfl⟩ := List.append_of_mem ha
  rcases List.mem_append.1 hb with hfront | hback
  · right
    exact (List.singleton_sublist.2 hfront).append
      (List.singleton_sublist.2 List.mem_cons_self)
  · left
    have hback : b ∈ back := (List.mem_cons.1 hback).resolve_left hne.symm
    exact ((List.singleton_sublist.2 hback).cons_cons a).trans (List.sublist_append_right front _)

/-- Of two different elements not each comes behind the other, if no element is there twice. -/
theorem not_pair_sublist (hl : l.Nodup) (h : [a, b].Sublist l) : ¬ [b, a].Sublist l := by
  induction l with
  | nil => cases h
  | cons c l ih =>
    obtain ⟨hc, hl⟩ := List.nodup_cons.1 hl
    intro h'
    cases h with
    | cons _ h =>
      cases h' with
      | cons _ h' => exact ih hl h h'
      | cons_cons _ h' => exact hc (h.subset (List.mem_cons_of_mem _ List.mem_cons_self))
    | cons_cons _ h =>
      cases h' with
      | cons _ h' => exact hc (h'.subset (List.mem_cons_of_mem _ List.mem_cons_self))
      | cons_cons _ h' => exact hc (List.singleton_sublist.1 h)

/-- A sorted list is in order, and equals in it are in the order that they had. -/
theorem pairwise_mergeSort_stable (trans : ∀ a b c, le a b = true → le b c = true → le a c = true)
    (total : ∀ a b, (le a b || le b a) = true) (hl : l.Nodup) :
    (l.mergeSort le).Pairwise fun a b => le a b = true ∧ (le b a = true → [a, b].Sublist l) := by
  have hperm := List.mergeSort_perm l le
  rw [List.pairwise_iff_forall_sublist]
  intro a b hab
  refine ⟨List.pairwise_iff_forall_sublist.1 (List.pairwise_mergeSort trans total l) hab,
    fun hba => ?_⟩
  have hsorted : (l.mergeSort le).Nodup := hperm.nodup_iff.2 hl
  have hne : a ≠ b := by
    rintro rfl
    exact not_pair_sublist hsorted hab hab
  have ha : a ∈ l := hperm.mem_iff.1 (hab.subset List.mem_cons_self)
  have hb : b ∈ l := hperm.mem_iff.1 (hab.subset (List.mem_cons_of_mem _ List.mem_cons_self))
  refine (pair_sublist_or ha hb hne).resolve_right fun hreversed => ?_
  exact not_pair_sublist hsorted hab (List.pair_sublist_mergeSort trans total hba hreversed)

end Sorting

/-! ### Listings -/

/-- The documents of a folder in the order of its listing. -/
def listed (m : Memory) (parent : String) : List StoredDocument :=
  (m.documents.filter (·.parent == parent)).mergeSort fun a b => b.modifiedTime ≤ a.modifiedTime

theorem listing_eq_map (m : Memory) (parent : String) :
    m.listing parent = (m.listed parent).map summary := by
  symm
  apply List.map_mergeSort
  intros
  rfl

theorem listed_perm (m : Memory) (parent : String) :
    (m.listed parent).Perm (m.documents.filter (·.parent == parent)) := List.mergeSort_perm _ _

/-- **Listings are sorted by the texts of the times**, and documents of one time stand in the order
of the store. -/
theorem pairwise_listed (hm : m.documents.Nodup) (parent : String) :
    (m.listed parent).Pairwise fun a b => b.modifiedTime < a.modifiedTime ∨
      a.modifiedTime = b.modifiedTime ∧ [a, b].Sublist m.documents := by
  have htrans : ∀ a b c : StoredDocument, decide (b.modifiedTime ≤ a.modifiedTime) = true →
      decide (c.modifiedTime ≤ b.modifiedTime) = true →
        decide (c.modifiedTime ≤ a.modifiedTime) = true := by
    simp only [decide_eq_true_eq]
    exact fun a b c hab hbc => String.le_trans hbc hab
  have htotal : ∀ a b : StoredDocument, (decide (b.modifiedTime ≤ a.modifiedTime) ||
      decide (a.modifiedTime ≤ b.modifiedTime)) = true := by
    simp only [Bool.or_eq_true, decide_eq_true_eq]
    exact fun a b => String.le_total _ _
  have hsorted := pairwise_mergeSort_stable htrans htotal (hm.filter (·.parent == parent))
  refine hsorted.imp fun {a b} hab => ?_
  simp only [decide_eq_true_eq] at hab
  obtain ⟨hle, hstable⟩ := hab
  by_cases hlt : b.modifiedTime < a.modifiedTime
  · exact .inl hlt
  · have hge : a.modifiedTime ≤ b.modifiedTime := String.not_lt.1 hlt
    exact .inr ⟨String.le_antisymm hge hle, (hstable hge).trans List.filter_sublist⟩

end Scribe.Store.Memory
