import Mathlib.Data.List.DropRight
import Scribe.Text.Blank

/-!
# What trimming leaves

A text is pared to a core when characters of one kind are taken from its start and those of another
kind from its end, as many as there are (`Pared`). Where every character of the first kind is of the
second kind too, there is one core, the one that is found by dropping from both ends
(`dropWhileEnd_dropWhile_eq_iff`). Trimming is the case in which both kinds are the blanks
(`trim_eq_iff`).
-/

namespace Scribe.Text

variable {p q : Char → Bool} {cs core tail : List Char}

/-! ### Dropping from the ends -/

theorem dropWhile_of_head? (h : ∀ c ∈ cs.head?, p c = false) : cs.dropWhile p = cs := by
  cases cs with
  | nil => rfl
  | cons c cs => rw [List.dropWhile_cons_of_neg (by rw [h c rfl]; exact Bool.false_ne_true)]

theorem dropWhileEnd_eq_nil_iff : dropWhileEnd p cs = [] ↔ ∀ c ∈ cs, p c = true :=
  List.rdropWhile_eq_nil_iff

/-- Dropping from the end goes no further than a character that stays. -/
theorem dropWhileEnd_append (hlast : ∀ c ∈ core.getLast?, p c = false) :
    dropWhileEnd p (core ++ tail) = core ++ dropWhileEnd p tail := by
  rw [dropWhileEnd, dropWhileEnd, List.reverse_append, List.dropWhile_append]
  split
  · next hall =>
    rw [List.isEmpty_iff] at hall
    rw [hall, dropWhile_of_head? (by rwa [List.head?_reverse]), List.reverse_reverse,
      List.reverse_nil, List.append_nil]
  · rw [List.reverse_append, List.reverse_reverse]

/-! ### Cores -/

/-- A core is left of a text when all characters of a kind are taken from the start of the text, and
all of another kind from its end. -/
structure Pared (p q : Char → Bool) (cs core : List Char) : Prop where
  cut : ∃ front back, cs = front ++ core ++ back ∧ (∀ c ∈ front, p c = true) ∧
    ∀ c ∈ back, q c = true
  head : ∀ c ∈ core.head?, p c = false
  last : ∀ c ∈ core.getLast?, q c = false

theorem pared_dropWhileEnd_dropWhile (p q : Char → Bool) (cs : List Char) :
    Pared p q cs (dropWhileEnd q (cs.dropWhile p)) := by
  have hback : dropWhileEnd q (cs.dropWhile p) ++ (cs.dropWhile p).rtakeWhile q =
      cs.dropWhile p := List.rdropWhile_append_rtakeWhile
  refine ⟨⟨cs.takeWhile p, (cs.dropWhile p).rtakeWhile q, ?_, ?_, ?_⟩, ?_, ?_⟩
  · rw [List.append_assoc, hback, List.takeWhile_append_dropWhile]
  · exact fun c hc => List.mem_takeWhile_imp hc
  · exact fun c hc => List.mem_rtakeWhile_imp hc
  · intro c hc
    -- The core starts with the character at which the first step has stopped.
    have hhead := List.head?_dropWhile_not p cs
    have hne : dropWhileEnd q (cs.dropWhile p) ≠ [] := by
      intro hnil
      rw [hnil] at hc
      cases hc
    rw [← hback, List.head?_append_of_ne_nil _ hne, hc] at hhead
    exact hhead
  · intro c hc
    obtain ⟨hne, rfl⟩ := List.mem_getLast?_eq_getLast hc
    exact Bool.not_eq_true _ ▸ List.rdropWhile_last_not q (cs.dropWhile p) hne

/-- **There is one core**, and it is found by dropping from both ends. -/
theorem dropWhileEnd_dropWhile_eq_iff (hpq : ∀ c, p c = true → q c = true) :
    dropWhileEnd q (cs.dropWhile p) = core ↔ Pared p q cs core := by
  constructor
  · rintro rfl
    exact pared_dropWhileEnd_dropWhile p q cs
  · rintro ⟨⟨front, back, rfl, hfront, hback⟩, hhead, hlast⟩
    by_cases hcore : core = []
    · subst hcore
      rw [dropWhileEnd_eq_nil_iff]
      intro c hc
      have hmem := (List.dropWhile_suffix p).subset hc
      rw [List.append_nil, List.mem_append] at hmem
      exact hmem.elim (fun hc => hpq c (hfront c hc)) (hback c)
    · have hstart : (front ++ core ++ back).dropWhile p = core ++ back := by
        rw [List.append_assoc, List.dropWhile_append_of_pos hfront, dropWhile_of_head?]
        rwa [List.head?_append_of_ne_nil _ hcore]
      rw [hstart, dropWhileEnd_append hlast, dropWhileEnd_eq_nil_iff.2 hback,
        List.append_nil]

/-! ### Trimming -/

/-- Trimming takes all blanks from both ends of a text. -/
theorem trim_eq_iff {s t : String} : trim s = t ↔ Pared isBlank isBlank s.toList t.toList := by
  rw [← dropWhileEnd_dropWhile_eq_iff (fun _ h => h), trim, ← String.toList_inj,
    String.toList_ofList]

/-- Nothing is left of a text by trimming exactly if the text is blank. -/
theorem isEmpty_trim (s : String) : (trim s).isEmpty = allBlank s := by
  rw [Bool.eq_iff_iff, String.isEmpty_iff, trim_eq_iff, allBlank, List.all_eq_true,
    String.toList_empty]
  constructor
  · rintro ⟨⟨front, back, hs, hfront, hback⟩, -, -⟩ c hc
    rw [hs, List.append_nil, List.mem_append] at hc
    exact hc.elim (hfront c) (hback c)
  · intro hall
    exact ⟨⟨s.toList, [], by simp, hall, by simp⟩, by simp, by simp⟩

/-- Nothing more is trimmed from a text that has been trimmed. -/
theorem trim_trim (s : String) : trim (trim s) = trim s := by
  have hpared := trim_eq_iff.1 (Eq.refl (trim s))
  exact trim_eq_iff.2 ⟨⟨[], [], by simp, by simp, by simp⟩, hpared.head, hpared.last⟩

/-- Trimming takes the blanks in front of a text that is not blank at its ends, and nothing else. -/
theorem toList_trim {s : String} {front core tail : List Char}
    (hs : s.toList = front ++ core ++ tail) (hfront : front.all isBlank = true) (hcore : core ≠ [])
    (hfirst : ∀ c ∈ core.head?, isBlank c = false)
    (hlast : ∀ c ∈ core.getLast?, isBlank c = false) :
    (trim s).toList = core ++ dropWhileEnd isBlank tail := by
  have hstart : s.toList.dropWhile isBlank = core ++ tail := by
    have hhead : ∀ c ∈ (core ++ tail).head?, isBlank c = false := by
      rwa [List.head?_append_of_ne_nil _ hcore]
    rw [hs, List.append_assoc, List.dropWhile_append_of_pos (List.all_eq_true.1 hfront),
      dropWhile_of_head? hhead]
  rw [trim, String.toList_ofList, hstart, dropWhileEnd_append hlast]

end Scribe.Text
