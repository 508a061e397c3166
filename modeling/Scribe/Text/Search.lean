/-!
# Searching in a text

`breakOn` cuts a list of characters at the leftmost occurrence of a pattern, and `replaceAll`
replaces every occurrence from left to right. The length facts let a scan that goes on behind an
occurrence recurse on the length of what is left.
-/

namespace Scribe.Text

/-- What is left of `cs` behind the pattern, if `cs` starts with it. -/
def dropPattern? : List Char → List Char → Option (List Char)
  | [], cs => some cs
  | _ :: _, [] => none
  | p :: ps, c :: cs => if p = c then dropPattern? ps cs else none

/-- The characters before the leftmost occurrence of the pattern, and those behind it. -/
def breakOn (pattern : List Char) : List Char → Option (List Char × List Char)
  | [] => if pattern = [] then some ([], []) else none
  | c :: cs =>
    match dropPattern? pattern (c :: cs) with
    | some rest => some ([], rest)
    | none => (breakOn pattern cs).map fun p => (c :: p.1, p.2)

/-- Whether the pattern occurs in a text. -/
def contains (pattern text : String) : Bool := (breakOn pattern.toList text.toList).isSome

theorem dropPattern?_eq_some {p cs rest : List Char} (h : dropPattern? p cs = some rest) :
    cs = p ++ rest := by
  induction p generalizing cs with
  | nil => simp_all [dropPattern?]
  | cons a p ih =>
    cases cs with
    | nil => simp [dropPattern?] at h
    | cons c cs =>
      simp only [dropPattern?] at h
      split at h
      · next hc => simp [hc, ih h]
      · simp at h

/-- Nothing but the pattern is lost at the cut. -/
theorem breakOn_eq_some {p cs a b : List Char} (h : breakOn p cs = some (a, b)) :
    cs = a ++ p ++ b := by
  induction cs generalizing a with
  | nil =>
    simp only [breakOn] at h
    split at h <;> simp_all
  | cons c cs ih =>
    simp only [breakOn] at h
    split at h
    · next rest hr =>
      simp only [Option.some.injEq, Prod.mk.injEq] at h
      obtain ⟨rfl, rfl⟩ := h
      simpa using dropPattern?_eq_some hr
    · obtain ⟨q, hq, he⟩ := Option.map_eq_some_iff.1 h
      simp only [Prod.mk.injEq] at he
      obtain ⟨rfl, rfl⟩ := he
      simp [ih hq]

/-- What lies behind an occurrence is no longer than the text. -/
theorem length_breakOn_le {p cs a b : List Char} (h : breakOn p cs = some (a, b)) :
    b.length ≤ cs.length := by
  rw [breakOn_eq_some h]; simp; omega

/-- Replace every occurrence of a non-empty pattern, from left to right. -/
def replaceAll (pattern by' : List Char) (cs : List Char) : List Char :=
  if _hp : pattern = [] then cs
  else
    match _h : breakOn pattern cs with
    | none => cs
    | some (before, rest) => before ++ by' ++ replaceAll pattern by' rest
termination_by cs.length
decreasing_by
  have := breakOn_eq_some _h
  have : 0 < pattern.length := List.length_pos_iff.2 _hp
  simp_all; omega

end Scribe.Text
