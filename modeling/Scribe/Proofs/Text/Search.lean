import Mathlib.Data.List.Infix
import Scribe.Text.Search

/-!
# Leftmost occurrences

A pattern occurs leftmost behind a text if it occurs nowhere earlier, not even in part on that text:
the text with the pattern behind it holds the pattern only at its end. `breakOn` finds the leftmost
occurrence (`breakOn_eq_some_iff`), and finds nothing only where there is none
(`breakOn_eq_none_iff`). Where the pattern is a single character, all occurrences are replaced
character by character (`replaceAll_singleton`).
-/

namespace Scribe.Text

variable {p cs front back : List Char}

/-- The pattern occurs in the text with the pattern behind it only at the end. -/
def OnlyAtEnd (p cs : List Char) : Prop := ∀ front back, cs ++ p = front ++ p ++ back → back = []

theorem dropPattern?_append (p rest : List Char) : dropPattern? p (p ++ rest) = some rest := by
  induction p with
  | nil => rfl
  | cons c p ih => rw [List.cons_append, dropPattern?, if_pos rfl, ih]

theorem dropPattern?_eq_some_iff {rest : List Char} :
    dropPattern? p cs = some rest ↔ cs = p ++ rest := by
  constructor
  · exact dropPattern?_eq_some
  · rintro rfl
    exact dropPattern?_append p rest

theorem dropPattern?_eq_none_iff : dropPattern? p cs = none ↔ ¬ p <+: cs := by
  constructor
  · rintro hnone ⟨rest, rfl⟩
    rw [dropPattern?_append] at hnone
    cases hnone
  · intro h
    cases hrest : dropPattern? p cs with
    | none => rfl
    | some rest => exact absurd ⟨rest, (dropPattern?_eq_some hrest).symm⟩ h

/-! ### Occurrences at the end -/

theorem onlyAtEnd_nil (p : List Char) : OnlyAtEnd p [] := by
  intro front back h
  have hlength := congrArg List.length h
  simp only [List.length_append, List.length_nil] at hlength
  exact List.eq_nil_of_length_eq_zero (by omega)

/-- A pattern that does not start the text occurs where it does behind the first character. -/
theorem onlyAtEnd_cons {c : Char} (hp : ¬ p <+: c :: cs ++ p) :
    OnlyAtEnd p (c :: cs) ↔ OnlyAtEnd p cs := by
  constructor
  · intro h front back heq
    exact h (c :: front) back (by rw [List.cons_append, heq]; rfl)
  · intro h front back heq
    cases front with
    | nil => exact absurd ⟨back, heq.symm⟩ hp
    | cons d front => exact h front back (List.tail_eq_of_cons_eq heq)

/-- A text that starts with the pattern holds it at its end only if it is the pattern itself. -/
theorem OnlyAtEnd.eq_nil (h : OnlyAtEnd p cs) (hp : p <+: cs ++ p) : cs = [] := by
  obtain ⟨back, hback⟩ := hp
  have hnil : back = [] := h [] back hback.symm
  rw [hnil, List.append_nil] at hback
  exact List.self_eq_append_left.1 hback

/-- A single character occurs only at the end if the text does not hold it. -/
theorem onlyAtEnd_singleton {c : Char} : OnlyAtEnd [c] cs ↔ c ∉ cs := by
  constructor
  · intro h hc
    obtain ⟨front, back, rfl⟩ := List.append_of_mem hc
    have hnil := h front (back ++ [c]) (by simp)
    simp at hnil
  · intro hc front back heq
    rcases List.eq_nil_or_concat' back with rfl | ⟨back', d, rfl⟩
    · rfl
    · rw [← List.append_assoc, List.append_singleton_inj] at heq
      rw [heq.1] at hc
      simp at hc

/-! ### The cut -/

/-- **The cut is at the leftmost occurrence.** -/
theorem breakOn_eq_some_iff (hp : p ≠ []) :
    breakOn p cs = some (front, back) ↔ cs = front ++ p ++ back ∧ OnlyAtEnd p front := by
  induction cs generalizing front with
  | nil =>
    rw [breakOn, if_neg hp]
    simp [hp]
  | cons c cs ih =>
    rw [breakOn]
    split
    · next rest hrest =>
      rw [dropPattern?_eq_some_iff] at hrest
      constructor
      · intro h
        cases h
        exact ⟨hrest, onlyAtEnd_nil p⟩
      · rintro ⟨hcut, hfront⟩
        have hfirst : p <+: c :: cs := ⟨rest, hrest.symm⟩
        have hsecond : front ++ p <+: c :: cs := ⟨back, hcut.symm⟩
        have hagain := List.prefix_of_prefix_length_le hfirst hsecond (by simp)
        have hnil := hfront.eq_nil hagain
        subst hnil
        rw [hrest, List.nil_append, List.append_cancel_left_eq] at hcut
        rw [hcut]
    · next hnone =>
      -- The pattern does not start the text, so the first character belongs to the front.
      have hstart := dropPattern?_eq_none_iff.1 hnone
      have hbehind : ∀ {front}, cs = front ++ p ++ back → ¬ p <+: c :: front ++ p := by
        intro front hcut hagain
        rw [hcut] at hstart
        exact hstart (hagain.trans (List.prefix_append (c :: front ++ p) back))
      constructor
      · intro h
        obtain ⟨⟨front', back'⟩, hcut, heq⟩ := Option.map_eq_some_iff.1 h
        cases heq
        obtain ⟨hcut, hfront⟩ := ih.1 hcut
        refine ⟨by rw [hcut]; rfl, (onlyAtEnd_cons (hbehind hcut)).2 hfront⟩
      · rintro ⟨hcut, hfront⟩
        cases front with
        | nil => exact absurd ⟨back, hcut.symm⟩ hstart
        | cons d front =>
          obtain ⟨rfl, hrest⟩ := List.cons.inj hcut
          rw [ih.2 ⟨hrest, (onlyAtEnd_cons (hbehind hrest)).1 hfront⟩, Option.map_some]

/-- There is no cut exactly where the pattern does not occur. -/
theorem breakOn_eq_none_iff (hp : p ≠ []) : breakOn p cs = none ↔ ¬ p <:+: cs := by
  induction cs with
  | nil =>
    rw [breakOn, if_neg hp]
    simp [hp]
  | cons c cs ih =>
    rw [breakOn, List.infix_cons_iff]
    split
    · next rest hrest =>
      rw [dropPattern?_eq_some_iff] at hrest
      have hstart : p <+: c :: cs := ⟨rest, hrest.symm⟩
      simp [hstart]
    · next hnone =>
      rw [Option.map_eq_none_iff, ih, not_or, and_iff_right (dropPattern?_eq_none_iff.1 hnone)]

/-- A text is cut in one way only at the leftmost occurrence of a character. -/
theorem append_cons_inj_of_notMem {c : Char} {ds rest rest' : List Char} (hcs : c ∉ cs)
    (hds : c ∉ ds) (h : cs ++ c :: rest = ds ++ c :: rest') : cs = ds ∧ rest = rest' := by
  have hp : [c] ≠ [] := List.cons_ne_nil c []
  have hcut : breakOn [c] (cs ++ c :: rest) = some (cs, rest) :=
    (breakOn_eq_some_iff hp).2 ⟨by simp, onlyAtEnd_singleton.2 hcs⟩
  have hcut' : breakOn [c] (ds ++ c :: rest') = some (ds, rest') :=
    (breakOn_eq_some_iff hp).2 ⟨by simp, onlyAtEnd_singleton.2 hds⟩
  rw [h, hcut'] at hcut
  cases hcut
  exact ⟨rfl, rfl⟩

/-! ### Replacements -/

/-- A text without the character stays as it is. -/
theorem flatMap_replace_of_notMem {c : Char} (by' : List Char) (h : c ∉ cs) :
    (cs.flatMap fun d => if d = c then by' else [d]) = cs := by
  induction cs with
  | nil => rfl
  | cons d cs ih =>
    rw [List.mem_cons, not_or] at h
    rw [List.flatMap_cons, if_neg (Ne.symm h.1), ih h.2]
    rfl

/-- The occurrences of a character are replaced one by one. -/
theorem replaceAll_singleton (c : Char) (by' cs : List Char) :
    replaceAll [c] by' cs = cs.flatMap fun d => if d = c then by' else [d] := by
  have hp : [c] ≠ [] := List.cons_ne_nil c []
  fun_induction replaceAll [c] by' cs with
  | case1 cs hnil => exact absurd hnil hp
  | case2 cs _ hnone =>
    -- There is no occurrence, so nothing changes.
    rw [breakOn_eq_none_iff hp, List.singleton_infix_iff] at hnone
    exact (flatMap_replace_of_notMem by' hnone).symm
  | case3 cs _ before rest hcut ih =>
    obtain ⟨hcs, hbefore⟩ := (breakOn_eq_some_iff hp).1 hcut
    rw [onlyAtEnd_singleton] at hbefore
    rw [hcs, List.flatMap_append, List.flatMap_append, flatMap_replace_of_notMem by' hbefore, ih,
      List.flatMap_singleton, if_pos rfl]

end Scribe.Text
