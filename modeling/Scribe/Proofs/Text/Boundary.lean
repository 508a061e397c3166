import Scribe.Proofs.Text.Utf16
import Scribe.Text.Utf8

/-!
# Character boundaries

A position of a text is a boundary of its characters: its start, its end, or between two of them. It
has a number of bytes and a number of UTF-16 units in front of it, and the two grow together
(`lt_iff_unitsBefore_lt`), so that a position is known by either. `byteAfter?` goes from the units
to the bytes, and finds a byte exactly where the text can be cut (`byteAfter?_eq_splitUnits?`).
-/

namespace Scribe.Text

/-! ### Bytes -/

theorem byteCount_cons (c : Char) (cs : List Char) :
    byteCount (c :: cs) = c.utf8Size + byteCount cs := by
  have hfold : ∀ (cs : List Char) (n : Nat),
      cs.foldl (fun n c => n + c.utf8Size) n = n + byteCount cs := by
    intro cs
    induction cs with
    | nil => intro n; rfl
    | cons c cs ih =>
      intro n
      rw [byteCount, List.foldl_cons, List.foldl_cons, ih, ih (0 + _), Nat.zero_add, Nat.add_assoc]
  rw [byteCount, List.foldl_cons, hfold, Nat.zero_add]

theorem byteCount_append (a b : List Char) : byteCount (a ++ b) = byteCount a + byteCount b := by
  induction a with
  | nil => exact (Nat.zero_add _).symm
  | cons c a ih => rw [List.cons_append, byteCount_cons, byteCount_cons, ih, Nat.add_assoc]

theorem byteCount_toList (s : String) : byteCount s.toList = s.utf8ByteSize := by
  have hlist : ∀ cs : List Char, byteCount cs = (String.ofList cs).utf8ByteSize := by
    intro cs
    induction cs with
    | nil => rfl
    | cons c cs ih =>
      rw [byteCount_cons, ih, String.ofList_cons, String.utf8ByteSize_append,
        String.utf8ByteSize_singleton]
  rw [hlist, String.ofList_toList]

/-- A text is cut behind the bytes of its first part. -/
theorem splitAtByte_append (a b : List Char) : splitAtByte (byteCount a) (a ++ b) = (a, b) := by
  induction a with
  | nil => cases b <;> rfl
  | cons c a ih =>
    obtain ⟨n, hn⟩ := Nat.exists_eq_add_one_of_ne_zero (Nat.ne_of_gt c.utf8Size_pos)
    have hsucc : byteCount (c :: a) = (n + byteCount a) + 1 := by
      rw [byteCount_cons, hn]
      omega
    have hrest : n + byteCount a + 1 - c.utf8Size = byteCount a := by omega
    rw [hsucc, List.cons_append, splitAtByte, hrest, ih]

/-! ### The scan for a byte -/

/-- The scan stops at the boundary behind the units that are left to pass. -/
theorem byteAfter?_eq_some_iff {target byte passed i : Nat} {cs : List Char} :
    byteAfter? target byte passed cs = some i ↔
      ∃ front back, cs = front ++ back ∧ passed + unitCount front = target ∧
        byte + byteCount front = i := by
  induction cs generalizing byte passed with
  | nil =>
    rw [byteAfter?]
    constructor
    · intro h
      split at h
      · next hpassed => exact ⟨[], [], rfl, hpassed, Option.some.inj h⟩
      · cases h
    · rintro ⟨front, back, hnil, hunits, hbytes⟩
      obtain ⟨rfl, rfl⟩ := List.append_eq_nil_iff.1 hnil.symm
      rw [if_pos (show passed = target from hunits)]
      exact congrArg some hbytes
  | cons c cs ih =>
    rw [byteAfter?]
    constructor
    · intro h
      split at h
      · next hpassed => exact ⟨[], c :: cs, rfl, hpassed, Option.some.inj h⟩
      · obtain ⟨front, back, rfl, hunits, hbytes⟩ := ih.1 h
        refine ⟨c :: front, back, rfl, ?_, ?_⟩
        · rw [unitCount, ← Nat.add_assoc, hunits]
        · rw [byteCount_cons, ← Nat.add_assoc, hbytes]
    · rintro ⟨front, back, hsplit, hunits, hbytes⟩
      cases front with
      | nil =>
        rw [if_pos (show passed = target from hunits)]
        exact congrArg some hbytes
      | cons d front =>
        obtain ⟨rfl, rfl⟩ := List.cons_eq_cons.1 hsplit
        rw [unitCount] at hunits
        have hpos := unitsOf_pos c
        rw [if_neg (by omega)]
        refine ih.2 ⟨front, back, rfl, ?_, ?_⟩
        · rw [Nat.add_assoc, hunits]
        · rw [Nat.add_assoc, ← byteCount_cons, hbytes]

/-- The scan finds the byte of the cut behind `n` units. -/
theorem byteAfter?_eq_splitUnits? (n : Nat) (cs : List Char) :
    byteAfter? n 0 0 cs = (splitUnits? n cs).map fun p => byteCount p.1 := by
  apply Option.ext
  intro i
  rw [byteAfter?_eq_some_iff, Option.map_eq_some_iff]
  constructor
  · rintro ⟨front, back, hcs, hunits, hbytes⟩
    rw [Nat.zero_add] at hunits hbytes
    exact ⟨(front, back), splitUnits?_eq_some_iff.2 ⟨hcs, hunits⟩, hbytes⟩
  · rintro ⟨⟨front, back⟩, hsplit, hbytes⟩
    obtain ⟨hcs, hunits⟩ := splitUnits?_eq_some_iff.1 hsplit
    exact ⟨front, back, hcs, (Nat.zero_add _).trans hunits, (Nat.zero_add _).trans hbytes⟩

/-! ### Positions -/

/-- The number of UTF-16 units in front of a position. -/
def unitsBefore {text : String} (p : text.Pos) : Nat := units (text.sliceTo p).copy

variable {text : String} {p q : text.Pos}

theorem unitsBefore_of_splits {front back : String} (h : p.Splits front back) :
    unitsBefore p = units front := by
  rw [unitsBefore, p.splits.eq_left h]

/-- A text has a position behind each of its beginnings. -/
theorem exists_splits {front back : String} (h : text = front ++ back) :
    ∃ p : text.Pos, p.Splits front back := by
  have hvalid : front.rawEndPos.IsValid text :=
    String.Pos.Raw.isValid_iff_exists_append.2 ⟨front, back, h, rfl⟩
  exact ⟨text.pos front.rawEndPos hvalid, h, rfl⟩

/-- Of two positions, the later one has a character more in front of it, and so more bytes and more
units. -/
theorem lt_iff_unitsBefore_lt : p < q ↔ unitsBefore p < unitsBefore q := by
  obtain ⟨front, back, hp⟩ : ∃ front back, p.Splits front back := ⟨_, _, p.splits⟩
  obtain ⟨front', back', hq⟩ : ∃ front back, q.Splits front back := ⟨_, _, q.splits⟩
  rw [unitsBefore_of_splits hp, unitsBefore_of_splits hq, String.Pos.lt_iff,
    hp.offset_eq_rawEndPos, hq.offset_eq_rawEndPos]
  change front.utf8ByteSize < front'.utf8ByteSize ↔ _
  rw [← byteCount_toList, ← byteCount_toList, units, units]
  have hsame : front.toList ++ back.toList = front'.toList ++ back'.toList := by
    rw [← String.toList_append, ← String.toList_append, ← hp.eq_append, ← hq.eq_append]
  have hzero : ∀ cs : List Char, byteCount cs = 0 ↔ unitCount cs = 0 := by
    intro cs
    rw [unitCount_eq_zero]
    cases cs with
    | nil => exact ⟨fun _ => rfl, fun _ => rfl⟩
    | cons c cs =>
      have hc := c.utf8Size_pos
      simp only [byteCount_cons, reduceCtorEq, iff_false]
      omega
  rcases List.append_eq_append_iff.1 hsame with ⟨rest, hfront, -⟩ | ⟨rest, hfront, -⟩
  · have hrest := hzero rest
    rw [hfront, byteCount_append, unitCount_append]
    omega
  · rw [hfront, byteCount_append, unitCount_append]
    omega

/-- A position is known by the units in front of it. -/
theorem eq_of_unitsBefore_eq (h : unitsBefore p = unitsBefore q) : p = q := by
  rcases Std.lt_trichotomy p q with hlt | heq | hgt
  · exact absurd (lt_iff_unitsBefore_lt.1 hlt) (by omega)
  · exact heq
  · exact absurd (lt_iff_unitsBefore_lt.1 hgt) (by omega)

end Scribe.Text
