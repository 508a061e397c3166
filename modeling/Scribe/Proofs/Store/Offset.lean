import Scribe.Edit.Compiled
import Scribe.Proofs.Text.Boundary
import Scribe.Store.Memory

/-!
# Offsets into a body

A request names places of a body by offsets, which count UTF-16 units from 1, and the body is cut at
bytes. The translation is exact (`byteOffset_translates`): an offset stands for the position with as
many units in front of it, later offsets for later positions, and it is refused exactly if the body
is too short or the offset would divide a surrogate pair. A cut at an offset is then a cut behind a
number of units (`cutBody_add_bodyStart`).
-/

namespace Scribe.Store.Memory

open Text Edit

/-- The fault of a cut behind `k` units where the body has none. -/
def outsideBody (k : Nat) : Fault :=
  refused ("offset " ++ toString (k + bodyStart) ++ " is outside the body")

/-- The offset behind `k` units stands for the byte of the cut behind them. -/
theorem byteOffset_add_bodyStart (body : List Char) (k : Nat) :
    byteOffset body (k + bodyStart) =
      match splitUnits? k body with
      | some (front, _) => .ok (byteCount front)
      | none => .error (outsideBody k) := by
  have hne : k + bodyStart ≠ 0 := Nat.succ_ne_zero k
  rw [byteOffset, if_neg hne, bodyStart, Nat.add_sub_cancel, byteAfter?_eq_splitUnits?]
  cases splitUnits? k body <;> rfl

/-- The offset behind `k` units is the cut behind them. -/
theorem cutBody_add_bodyStart (body : List Char) (k : Nat) :
    cutBody body (k + bodyStart) =
      match splitUnits? k body with
      | some p => .ok p
      | none => .error (outsideBody k) := by
  rw [cutBody, byteOffset_add_bodyStart]
  cases hcut : splitUnits? k body with
  | none => rfl
  | some p =>
    obtain ⟨front, back⟩ := p
    obtain ⟨rfl, -⟩ := splitUnits?_eq_some_iff.1 hcut
    exact congrArg Except.ok (splitAtByte_append front back)

/-- A body starts at its first offset. -/
theorem cutBody_bodyStart (body : List Char) : cutBody body bodyStart = .ok ([], body) := by
  rw [← Nat.zero_add bodyStart, cutBody_add_bodyStart]
  cases body <;> rfl

/-! ### The translation -/

/-- An offset stands for the position with as many units in front of it. -/
theorem byteOffset_eq_ok_iff {body : String} {offset i : Nat} :
    byteOffset body.toList offset = .ok i ↔
      ∃ p : body.Pos, p.offset.byteIdx = i ∧ unitsBefore p + bodyStart = offset := by
  cases offset with
  | zero =>
    constructor
    · intro h
      cases h
    · rintro ⟨p, -, hzero⟩
      exact absurd hzero (Nat.succ_ne_zero _)
  | succ k =>
    rw [← bodyStart, byteOffset_add_bodyStart]
    constructor
    · intro h
      cases hcut : splitUnits? k body.toList with
      | none =>
        rw [hcut] at h
        cases h
      | some cut =>
        obtain ⟨front, back⟩ := cut
        rw [hcut] at h
        obtain ⟨hbody, hfront⟩ := splitUnits?_eq_some_iff.1 hcut
        have hsplit : body = .ofList front ++ .ofList back := by
          rw [← String.ofList_append, ← hbody, String.ofList_toList]
        obtain ⟨p, hp⟩ := exists_splits hsplit
        refine ⟨p, ?_, ?_⟩
        · rw [hp.offset_eq_rawEndPos, ← Except.ok.inj h]
          change (String.ofList front).utf8ByteSize = _
          rw [← byteCount_toList, String.toList_ofList]
        · rw [unitsBefore_of_splits hp, units, String.toList_ofList, hfront]
    · rintro ⟨p, hbyte, hunits⟩
      obtain ⟨front, back, hp⟩ : ∃ front back, p.Splits front back := ⟨_, _, p.splits⟩
      have hcut : splitUnits? k body.toList = some (front.toList, back.toList) := by
        refine splitUnits?_eq_some_iff.2 ⟨?_, ?_⟩
        · rw [← String.toList_append, ← hp.eq_append]
        · rw [unitsBefore_of_splits hp] at hunits
          exact Nat.add_right_cancel hunits
      rw [hcut, ← hbyte, hp.offset_eq_rawEndPos]
      exact congrArg Except.ok (byteCount_toList front)

/-- **Offsets are translated exactly.** The offset behind `n` units of a body is accepted with a byte
exactly if the byte is a character boundary, the start and the end of the body among them, with `n`
units in front of it. There is at most one such boundary, and later offsets stand for later bytes.
The offset is refused exactly if the body has fewer than `n` units, or its `n`-th unit is the second
half of a surrogate pair. -/
theorem byteOffset_translates (body : String) :
    (∀ n i, byteOffset body.toList (n + bodyStart) = .ok i ↔
        ∃ p : body.Pos, p.offset.byteIdx = i ∧ unitsBefore p = n) ∧
      (∀ p q : body.Pos, unitsBefore p = unitsBefore q → p = q) ∧
      (∀ offset offset' i i', byteOffset body.toList offset = .ok i →
        byteOffset body.toList offset' = .ok i' → (offset < offset' ↔ i < i')) ∧
      ∀ n f, byteOffset body.toList (n + bodyStart) = .error f ↔
        f = outsideBody n ∧
          ((utf16 body.toList).length < n ∨ insidePair (utf16 body.toList) n = true) := by
  refine ⟨fun n i => ?_, fun p q h => eq_of_unitsBefore_eq h, ?_, fun n f => ?_⟩
  · rw [byteOffset_eq_ok_iff]
    simp only [Nat.add_right_cancel_iff]
  · intro offset offset' i i' h h'
    obtain ⟨p, rfl, rfl⟩ := byteOffset_eq_ok_iff.1 h
    obtain ⟨q, rfl, rfl⟩ := byteOffset_eq_ok_iff.1 h'
    rw [Nat.add_lt_add_iff_right, ← lt_iff_unitsBefore_lt, String.Pos.lt_iff]
    exact Iff.rfl
  · rw [byteOffset_add_bodyStart, ← splitUnits?_eq_none_iff]
    cases splitUnits? n body.toList with
    | none =>
      constructor
      · intro h
        exact ⟨(Except.error.inj h).symm, rfl⟩
      · rintro ⟨rfl, -⟩
        rfl
    | some cut =>
      constructor
      · intro h
        cases h
      · rintro ⟨-, h⟩
        cases h

/-- The two units of a pair are two offsets; the second is refused, and the pair is four bytes. -/
example : (byteOffset "a😀".toList 2, byteOffset "a😀".toList 3, byteOffset "a😀".toList 4) =
    (.ok 1, .error (outsideBody 2), .ok 5) := rfl

end Scribe.Store.Memory
