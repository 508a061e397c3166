import Mathlib.Data.List.TakeWhile
import Scribe.Markdown.Line

/-!
# How a text falls into lines

Everything about `linesOf` follows from what it does at the first break: in front of the break is
the first line, behind it, or behind the line feed that goes with it, come the others
(`linesOf_append_cons`). Texts that are written line by line, each ended by a line feed, fall into
the lines that they were written from (`linesOf_flatMap`).
-/

namespace Scribe.Markdown

open Text

/-- A line: a run of characters without a line break. -/
def Unbroken (l : List Char) : Prop := ∀ c ∈ l, isLineBreak c = false

theorem Unbroken.sublist {l l' : List Char} (h : Unbroken l) (hsub : List.Sublist l' l) :
    Unbroken l' :=
  fun c hc => h c (hsub.subset hc)

/-! ### The equations of `linesOf` -/

theorem linesOf_nil : linesOf [] = [] := by
  rw [linesOf, dif_pos rfl]

/-- The first line ends at the first break. -/
theorem linesOf_append_cons {l : List Char} (hl : Unbroken l) {c : Char}
    (hc : isLineBreak c = true) (rest : List Char) :
    linesOf (l ++ c :: rest) = l :: linesOf (afterBreak (c :: rest)) := by
  have hall : ∀ a ∈ l, (!isLineBreak a) = true := fun a ha => by rw [hl a ha]; rfl
  rw [linesOf, dif_neg (by simp), List.takeWhile_append_of_pos hall,
    List.dropWhile_append_of_pos hall, List.takeWhile_cons, List.dropWhile_cons, hc]
  simp

/-- Behind a break that is not a carriage return, the text goes on with the next character. -/
theorem afterBreak_cons {c : Char} (hc : c ≠ '\r') (rest : List Char) :
    afterBreak (c :: rest) = rest := by
  unfold afterBreak
  split
  · next h => cases h; exact absurd rfl hc
  · next h => cases h; rfl
  · next h => cases h

/-! ### Lines of texts -/

/-- No line holds a break. -/
theorem unbroken_of_mem_linesOf {cs l : List Char} (h : l ∈ linesOf cs) : Unbroken l := by
  fun_induction linesOf cs with
  | case1 => cases h
  | case2 cs hne rest ih =>
    rcases List.mem_cons.1 h with rfl | h
    · intro c hc
      simpa using List.mem_takeWhile_imp hc
    · exact ih h

/-- Lines that are each ended by a line feed are read back. -/
theorem linesOf_flatMap {ls : List (List Char)} (h : ∀ l ∈ ls, Unbroken l) :
    linesOf (ls.flatMap (· ++ ['\n'])) = ls := by
  induction ls with
  | nil => exact linesOf_nil
  | cons l ls ih =>
    have hl : Unbroken l := h l List.mem_cons_self
    have hls : ∀ l' ∈ ls, Unbroken l' := fun l' hl' => h l' (List.mem_cons_of_mem _ hl')
    rw [List.flatMap_cons, List.append_assoc, List.singleton_append,
      linesOf_append_cons hl (by decide), afterBreak_cons (by decide), ih hls]

/-! ### The marker of a line -/

/-- The first marker that classifies a line is the first one that the line starts with. -/
theorem findSome?_classify? (ms : List LineMarker) (line : List Char) :
    ms.findSome? (·.classify? line) = (ms.find? (·.text.isPrefixOf line)).map
      fun m => ⟨m.style, m.listItem, line.drop m.text.length⟩ := by
  induction ms with
  | nil => rfl
  | cons m ms ih =>
    rw [List.findSome?_cons, List.find?_cons, LineMarker.classify?]
    cases m.text.isPrefixOf line with
    | true => rfl
    | false => exact ih

/-- The role of a line is that of a marker that it starts with, and the marker is all that is taken
off the line, or it is that of body text, and no marker starts the line. -/
theorem classify_cases {line : List Char} (h : line.all isBlank = false) :
    (∃ m ∈ markers, ∃ rest, line = m.text ++ rest ∧ classify line = ⟨m.style, m.listItem, rest⟩) ∨
      ((∀ m ∈ markers, ¬ m.text <+: line) ∧ classify line = ⟨.body, false, line⟩) := by
  unfold classify
  rw [findSome?_classify?]
  cases hm : markers.find? (·.text.isPrefixOf line) with
  | some m =>
    have hpre := List.find?_some hm
    obtain ⟨rest, rfl⟩ := List.isPrefixOf_iff_prefix.1 hpre
    refine .inl ⟨m, List.mem_of_find?_eq_some hm, rest, rfl, ?_⟩
    simp
  | none =>
    refine .inr ⟨?_, by simp [h]⟩
    intro m hmem hpre
    exact List.find?_eq_none.1 hm m hmem (List.isPrefixOf_iff_prefix.2 hpre)

end Scribe.Markdown
