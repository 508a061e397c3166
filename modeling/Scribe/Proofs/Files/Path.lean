import Scribe.Files.Path

/-!
# The way up

The parent of a path is shorter than the path (`length_parent?_lt`), so that going from parent to
parent comes to an end. A path is as long as its parts with the slashes between them, and what
`dropIdle` and `parent?` do is to take parts away from its end.
-/

namespace Scribe.Files.Path

/-- The room that parts take up, each with a slash behind it. -/
def room : List String → Nat
  | [] => 0
  | part :: rest => part.length + 1 + room rest

theorem room_append (front back : List String) : room (front ++ back) = room front + room back := by
  induction front with
  | nil => exact (Nat.zero_add _).symm
  | cons part front ih =>
    rw [List.cons_append, room, room, ih]
    omega

theorem room_reverse (parts : List String) : room parts.reverse = room parts := by
  induction parts with
  | nil => rfl
  | cons part rest ih =>
    rw [List.reverse_cons, room_append, ih, room, Nat.add_comm]
    rfl

theorem room_le_of_suffix {back parts : List String} (h : back <:+ parts) :
    room back ≤ room parts := by
  obtain ⟨front, rfl⟩ := h
  rw [room_append]
  exact Nat.le_add_left _ _

theorem length_intercalate {parts : List String} (h : parts ≠ []) :
    ("/".intercalate parts).length + 1 = room parts := by
  induction parts with
  | nil => exact absurd rfl h
  | cons part rest ih =>
    cases rest with
    | nil => rw [String.intercalate_singleton]; rfl
    | cons next rest =>
      have hrest := ih (List.cons_ne_nil next rest)
      have hslash : "/".length = 1 := by decide
      rw [String.intercalate_cons_cons, String.length_append, String.length_append, room,
        ← hrest]
      omega

theorem length_intercalate_le (parts : List String) :
    ("/".intercalate parts).length ≤ room parts := by
  cases parts with
  | nil => exact Nat.le_refl 0
  | cons part rest =>
    rw [← length_intercalate (List.cons_ne_nil part rest)]
    exact Nat.le_succ _

theorem intercalate_parts (p : Path) : "/".intercalate (parts p) = p := by
  have hparts : (parts p).map String.toList = p.toList.splitOn '/' := by
    simp [parts]
  rw [← String.toList_inj, String.toList_intercalate, hparts]
  exact List.intercalate_splitOn '/'

theorem room_parts (p : Path) : room (parts p) = p.length + 1 := by
  have hparts : parts p ≠ [] := by
    unfold parts
    rw [ne_eq, List.map_eq_nil_iff]
    exact List.splitOn_ne_nil '/' p.toList
  rw [← length_intercalate hparts, intercalate_parts]

theorem dropIdle_suffix (rooted : Bool) (parts : List String) :
    dropIdle rooted parts <:+ parts := by
  induction parts with
  | nil => exact List.suffix_refl _
  | cons part before ih =>
    rw [dropIdle]
    split
    · exact List.suffix_refl _
    · exact ih.trans (List.suffix_cons part before)

/-- What is left ends with a part that is not empty, unless only the root is left. -/
theorem length_pos_of_dropIdle {rooted : Bool} {parts : List String} {part : String}
    {before : List String} (h : dropIdle rooted parts = part :: before) :
    0 < part.length ∨ before = [] ∧ rooted = true := by
  induction parts with
  | nil => cases h
  | cons next rest ih =>
    rw [dropIdle] at h
    split at h
    · next hkept =>
      cases h
      by_cases hempty : part = ""
      · subst hempty
        simpa [counts] using hkept
      · exact .inl (Nat.pos_of_ne_zero fun hlength => hempty (String.length_eq_zero_iff.1 hlength))
    · exact ih h

theorem length_parent?_lt {p q : Path} (h : parent? p = some q) : q.length < p.length := by
  have hroom : room (dropIdle p.isAbsolute (parts p).reverse) ≤ p.length + 1 := by
    rw [← room_parts p, ← room_reverse (parts p)]
    exact room_le_of_suffix (dropIdle_suffix _ _)
  unfold parent? at h
  split at h
  · cases h
  · next part hleft =>
    rw [hleft, room] at hroom
    split at h
    · cases h
    · next hrelative =>
      cases h
      rcases length_pos_of_dropIdle hleft with hpos | ⟨-, hrooted⟩
      · change 0 < p.length
        omega
      · exact absurd hrooted hrelative
  · next part before hnonempty hleft =>
    -- The last component goes with the slash in front of it, and the root is one character.
    rw [hleft, room] at hroom
    have hpos : 0 < part.length := by
      rcases length_pos_of_dropIdle hleft with hpos | ⟨hbefore, -⟩
      · exact hpos
      · exact absurd hbefore hnonempty
    have hbefore := room_le_of_suffix (dropIdle_suffix p.isAbsolute before)
    split at h
    · next hroot =>
      cases h
      rw [hroot] at hbefore
      change 1 ≤ _ at hbefore
      change 1 < p.length
      omega
    · next left hother =>
      cases h
      have hlength := length_intercalate_le (dropIdle p.isAbsolute before).reverse
      rw [room_reverse] at hlength
      omega

end Scribe.Files.Path
