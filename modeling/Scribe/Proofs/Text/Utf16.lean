import Scribe.Text.Units

/-!
# UTF-16 code units

`units` only counts; here are the code units themselves. `utf16` writes a text out as them, and the
two agree (`length_utf16`). A cut after `n` units is then a matter of the code units alone:

    splitUnits? n cs = some (a, b) ↔ cs = a ++ b ∧ unitCount a = n

and there is such a cut exactly when the text has `n` units and the `n`-th is not the second half of
a surrogate pair (`splitUnits?_eq_none_iff`).
-/

namespace Scribe.Text

/-- The code units of a character: itself, or a surrogate pair. -/
def codeUnits (c : Char) : List Nat :=
  if c.toNat < 0x10000 then [c.toNat]
  else [0xD800 + (c.toNat - 0x10000) / 0x400, 0xDC00 + (c.toNat - 0x10000) % 0x400]

/-- A list of characters as UTF-16 code units. -/
def utf16 (cs : List Char) : List Nat := cs.flatMap codeUnits

/-- Whether a code unit is the second half of a surrogate pair. -/
def isLowSurrogate (u : Nat) : Bool := 0xDC00 ≤ u && u < 0xE000

/-- Whether the code unit behind the first `n` ones is the second half of a surrogate pair. -/
def insidePair (us : List Nat) (n : Nat) : Bool := us[n]?.any isLowSurrogate

/-- Split a list of characters after exactly `n` units; fails where no character boundary lies. -/
def splitUnits? : Nat → List Char → Option (List Char × List Char)
  | 0, cs => some ([], cs)
  | _ + 1, [] => none
  | n + 1, c :: cs =>
    if unitsOf c ≤ n + 1 then
      (splitUnits? (n + 1 - unitsOf c) cs).map fun p => (c :: p.1, p.2)
    else none

/-! ### Code units and their number -/

@[simp] theorem utf16_nil : utf16 [] = [] := rfl

@[simp] theorem utf16_cons (c : Char) (cs : List Char) :
    utf16 (c :: cs) = codeUnits c ++ utf16 cs := rfl

@[simp] theorem utf16_append (a b : List Char) : utf16 (a ++ b) = utf16 a ++ utf16 b :=
  List.flatMap_append

theorem length_codeUnits (c : Char) : (codeUnits c).length = unitsOf c := by
  unfold codeUnits unitsOf
  split <;> rfl

/-- `unitCount` counts the code units. -/
theorem length_utf16 (cs : List Char) : (utf16 cs).length = unitCount cs := by
  induction cs with
  | nil => rfl
  | cons c cs ih => rw [utf16_cons, List.length_append, length_codeUnits, ih, unitCount]

theorem units_append (s t : String) : units (s ++ t) = units s + units t := by
  rw [units, String.toList_append, unitCount_append, units, units]

theorem unitsOf_pos (c : Char) : 0 < unitsOf c := by
  unfold unitsOf
  split <;> decide

/-- Only the empty text has no units. -/
theorem unitCount_eq_zero {cs : List Char} : unitCount cs = 0 ↔ cs = [] := by
  cases cs with
  | nil => exact ⟨fun _ => rfl, fun _ => rfl⟩
  | cons c cs =>
    have hc := unitsOf_pos c
    simp only [unitCount, reduceCtorEq, iff_false]
    omega

theorem unitCount_le_of_sublist {a b : List Char} (h : List.Sublist a b) :
    unitCount a ≤ unitCount b := by
  induction h with
  | slnil => exact Nat.le_refl _
  | cons c _ ih => exact Nat.le_trans ih (Nat.le_add_left ..)
  | cons_cons c _ ih => exact Nat.add_le_add_left ih _

/-- Only a character of four bytes has two units. -/
theorem unitsOf_le_utf8Size (c : Char) : unitsOf c ≤ c.utf8Size := by
  have hpos := c.utf8Size_pos
  unfold unitsOf
  split
  · exact hpos
  · next hlarge =>
    have hone : c.utf8Size ≠ 1 := by
      intro h
      have hle := UInt32.le_iff_toNat_le.1 (Char.utf8Size_eq_one_iff.1 h)
      exact hlarge (Nat.lt_of_le_of_lt hle (by decide))
    omega

/-- A text has at most as many units as bytes. -/
theorem units_le_utf8ByteSize (s : String) : units s ≤ s.utf8ByteSize := by
  have hlist : ∀ cs : List Char, unitCount cs ≤ (String.ofList cs).utf8ByteSize := by
    intro cs
    induction cs with
    | nil => exact Nat.le_refl _
    | cons c cs ih =>
      rw [String.ofList_cons, String.utf8ByteSize_append, String.utf8ByteSize_singleton]
      exact Nat.add_le_add (unitsOf_le_utf8Size c) ih
  have h := hlist s.toList
  rwa [String.ofList_toList] at h

/-! ### Surrogate pairs -/

/-- The code points between U+D7FF and U+E000 are no characters, so a character of one unit is not
half of a pair. -/
theorem isLowSurrogate_toNat (c : Char) : isLowSurrogate c.toNat = false := by
  have h : c.toNat < 0xD800 ∨ 0xDFFF < c.toNat ∧ c.toNat < 0x110000 := c.valid
  simp only [isLowSurrogate, Bool.and_eq_false_iff, decide_eq_false_iff_not]
  omega

/-- A pair is a first half and a second half. -/
theorem codeUnits_pair {c : Char} (h : ¬ c.toNat < 0x10000) :
    ∃ hi lo, codeUnits c = [hi, lo] ∧ isLowSurrogate hi = false ∧ isLowSurrogate lo = true := by
  have hc : c.toNat < 0xD800 ∨ 0xDFFF < c.toNat ∧ c.toNat < 0x110000 := c.valid
  refine ⟨_, _, if_neg h, ?_, ?_⟩
  · simp only [isLowSurrogate, Bool.and_eq_false_iff, decide_eq_false_iff_not]
    omega
  · simp only [isLowSurrogate, Bool.and_eq_true, decide_eq_true_eq]
    omega

/-- A text does not start inside a pair. -/
theorem insidePair_zero (cs : List Char) : insidePair (utf16 cs) 0 = false := by
  cases cs with
  | nil => rfl
  | cons c cs =>
    by_cases hc : c.toNat < 0x10000
    · simp [insidePair, codeUnits, hc, isLowSurrogate_toNat]
    · obtain ⟨hi, lo, hu, hhi, -⟩ := codeUnits_pair hc
      simp [insidePair, hu, hhi]

/-- Behind a whole character, what counts are the units behind it. -/
theorem insidePair_append (us vs : List Nat) (n : Nat) :
    insidePair (us ++ vs) (us.length + n) = insidePair vs n := by
  simp [insidePair, List.getElem?_append_right]

/-! ### Cuts -/

/-- A text is cut behind the units of its first part. -/
theorem splitUnits?_append (a b : List Char) : splitUnits? (unitCount a) (a ++ b) = some (a, b) := by
  induction a with
  | nil => cases b <;> rfl
  | cons c a ih =>
    have hpos : unitsOf c + unitCount a ≠ 0 := by
      have hc := unitsOf_pos c
      omega
    obtain ⟨n, hn⟩ := Nat.exists_eq_succ_of_ne_zero hpos
    rw [unitCount, hn, List.cons_append, splitUnits?, ← Nat.succ_eq_add_one, ← hn,
      if_pos (Nat.le_add_right ..), Nat.add_sub_cancel_left, ih]
    rfl

/-- Nothing is lost at a cut, and the units in front of it are those that were asked for. -/
theorem eq_append_of_splitUnits? {n : Nat} {cs a b : List Char}
    (h : splitUnits? n cs = some (a, b)) : cs = a ++ b ∧ unitCount a = n := by
  induction cs generalizing n a with
  | nil =>
    cases n with
    | zero =>
      cases h
      exact ⟨rfl, rfl⟩
    | succ n => cases h
  | cons c cs ih =>
    cases n with
    | zero =>
      cases h
      exact ⟨rfl, rfl⟩
    | succ n =>
      rw [splitUnits?] at h
      split at h
      · next hle =>
        obtain ⟨⟨a', b'⟩, hrest, heq⟩ := Option.map_eq_some_iff.1 h
        cases heq
        obtain ⟨rfl, hcount⟩ := ih hrest
        refine ⟨rfl, ?_⟩
        rw [unitCount, hcount]
        exact Nat.add_sub_cancel' hle
      · cases h

/-- A cut is at a character boundary and has `n` units in front of it; there is at most one such
boundary. -/
theorem splitUnits?_eq_some_iff {n : Nat} {cs a b : List Char} :
    splitUnits? n cs = some (a, b) ↔ cs = a ++ b ∧ unitCount a = n := by
  constructor
  · exact eq_append_of_splitUnits?
  · rintro ⟨rfl, rfl⟩
    exact splitUnits?_append a b

/-- There is no cut after `n` units when the text is shorter or the cut would divide a pair. -/
theorem splitUnits?_eq_none_iff {n : Nat} {cs : List Char} :
    splitUnits? n cs = none ↔ (utf16 cs).length < n ∨ insidePair (utf16 cs) n = true := by
  induction cs generalizing n with
  | nil => cases n <;> simp [splitUnits?, insidePair]
  | cons c cs ih =>
    cases n with
    | zero => simp only [splitUnits?, insidePair_zero]; simp
    | succ n =>
      have hlen := length_codeUnits c
      simp only [splitUnits?, utf16_cons, List.length_append, hlen]
      split
      · next hle =>
        have hpair : insidePair (codeUnits c ++ utf16 cs) (n + 1) =
            insidePair (utf16 cs) (n + 1 - unitsOf c) := by
          have h := insidePair_append (codeUnits c) (utf16 cs) (n + 1 - unitsOf c)
          rwa [hlen, Nat.add_sub_cancel' hle] at h
        have hshort : (utf16 cs).length < n + 1 - unitsOf c ↔
            unitsOf c + (utf16 cs).length < n + 1 := by omega
        rw [Option.map_eq_none_iff, ih, hpair, hshort]
      · next hgt =>
        -- Only the first half of a pair fits in one unit.
        have hc : ¬ c.toNat < 0x10000 := fun h => by simp [unitsOf, h] at hgt
        have hn : n = 0 := by simp [unitsOf, hc] at hgt; omega
        obtain ⟨hi, lo, hu, -, hlo⟩ := codeUnits_pair hc
        subst hn
        simp [insidePair, hu, hlo]

end Scribe.Text
