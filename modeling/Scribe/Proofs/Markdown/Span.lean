import Scribe.Markdown.Span

/-!
# What the spans keep of a line

A text is *stripped* out of a line (`Stripped`) when it is the line less some of its stars and
backticks. The relation is closed under appending, and every step of the scanner is of this kind: a
plain run keeps all of its characters, a delimiter loses its two markers and nothing else.
-/

namespace Scribe.Markdown

open Text

/-- The text is the line less some of its stars and backticks. -/
structure Stripped (text line : List Char) : Prop where
  /-- Nothing is added and nothing changes its place. -/
  sublist : List.Sublist text line
  /-- No other character is lost. -/
  filter_eq : text.filter isPlain = line.filter isPlain

namespace Stripped

theorem refl (line : List Char) : Stripped line line := ⟨List.Sublist.refl _, rfl⟩

theorem append {text text' line line' : List Char} (h : Stripped text line)
    (h' : Stripped text' line') : Stripped (text ++ text') (line ++ line') := by
  refine ⟨h.sublist.append h'.sublist, ?_⟩
  rw [List.filter_append, List.filter_append, h.filter_eq, h'.filter_eq]

/-- A marker may be lost in front of a stripped text. -/
theorem marker_append (d : Delimiter) {text line : List Char} (h : Stripped text line) :
    Stripped text (d.marker ++ line) := by
  have hmarker : Stripped [] d.marker := ⟨List.nil_sublist _, by cases d <;> rfl⟩
  exact hmarker.append h

end Stripped

/-! ### The scanner -/

/-- A detected delimiter stands at the start of the text. -/
theorem marker_append_of_detect? {cs : List Char} {d : Delimiter}
    (h : Delimiter.detect? cs = some d) : d.marker ++ cs.drop d.marker.length = cs := by
  unfold Delimiter.detect? at h
  split at h
  · cases h; rfl
  · cases h; rfl
  · cases h; rfl
  · cases h

theorem toList_text_span (d : Delimiter) (cs : List Char) : (d.span cs).text.toList = cs := by
  cases d <;> exact String.toList_ofList

/-- The characters of spans, one after the other. -/
def spansText (ss : List Span) : List Char := ss.flatMap (·.text.toList)

theorem spansText_nil : spansText [] = [] := rfl

theorem spansText_cons (s : Span) (ss : List Span) :
    spansText (s :: ss) = s.text.toList ++ spansText ss := List.flatMap_cons

/-- **The spans of a line strip it.** -/
theorem stripped_spansOf (cs : List Char) : Stripped (spansText (spansOf cs)) cs := by
  fun_induction spansOf cs with
  | case1 => exact .refl []
  | case2 c rest hd ih =>
    -- A plain run and what stands behind it are the line.
    have hrun := (Stripped.refl ((c :: rest).takeWhile isPlain)).append ih
    rw [List.takeWhile_append_dropWhile] at hrun
    rw [spansText_cons, Span.plain, String.toList_ofList]
    exact hrun
  | case3 c rest d hd hb =>
    -- Nothing closes the opening marker, so the rest of the line is one span.
    have hopen := (Stripped.refl ((c :: rest).drop d.marker.length)).marker_append d
    rw [marker_append_of_detect? hd] at hopen
    rw [spansText_cons, toList_text_span, spansText_nil, List.append_nil]
    exact hopen
  | case4 c rest d hd inner behind hb ih =>
    -- Both markers are lost, the text between them is kept.
    have hbehind := (Stripped.refl inner).append (ih.marker_append d)
    have hopen := hbehind.marker_append d
    rw [← List.append_assoc inner, ← breakOn_eq_some hb, marker_append_of_detect? hd] at hopen
    rw [spansText_cons, toList_text_span]
    exact hopen

end Scribe.Markdown
