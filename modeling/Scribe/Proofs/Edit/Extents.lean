import Scribe.Edit.Compiled
import Scribe.Proofs.Text.Utf16

/-!
# Where formattings lie

The formattings of blocks that stand from an offset on lie behind that offset and end where the
blocks end, and none of them is empty. So the formattings of a compiled text lie in the text
(`extent_compileBlocks`), whatever stands behind it in the body.
-/

namespace Scribe.Edit

open Text Markdown

/-- An extent that holds a unit, and lies between two offsets. -/
structure Extent.Within (e : Extent) (low high : Nat) : Prop where
  low_le : low ≤ e.start
  lt : e.start < e.stop
  le_high : e.stop ≤ high

theorem Extent.Within.mono {e : Extent} {low high low' high' : Nat} (h : e.Within low high)
    (hlow : low' ≤ low) (hhigh : high ≤ high') : e.Within low' high' :=
  ⟨Nat.le_trans hlow h.low_le, h.lt, Nat.le_trans h.le_high hhigh⟩

/-- The emphases of spans are those of the first one and of the spans behind it. -/
theorem emphases_cons (offset : Nat) (s : Span) (ss : List Span) :
    emphases offset (s :: ss) = emphases offset [s] ++ emphases (offset + units s.text) ss := by
  simp only [emphases, List.append_nil]

/-- The emphases of spans lie in the text of the spans. -/
theorem extent_emphases {offset : Nat} {ss : List Span} {f : Formatting}
    (h : f ∈ emphases offset ss) :
    f.extent.Within offset (offset + units (String.join (ss.map (·.text)))) := by
  induction ss generalizing offset with
  | nil => simp [emphases] at h
  | cons s ss ih =>
    rw [List.map_cons, String.join_cons, units_append]
    rcases List.mem_append.1 h with h | h
    · -- the emphasis of the first span
      split at h
      · simp only [Extent.ofLength?, List.mem_map, Option.mem_toList,
          Option.ite_none_right_eq_some, Option.some.injEq] at h
        obtain ⟨e, ⟨hlen, rfl⟩, rfl⟩ := h
        exact ⟨Nat.le_refl _, Nat.lt_add_of_pos_right hlen, by simp only [Formatting.extent]; omega⟩
      · simp at h
    · exact (ih h).mono (Nat.le_add_right ..) (by omega)

/-- The formattings of a block lie in the text of the block. -/
theorem extent_formattingsOf {offset : Nat} {b : Block} {f : Formatting}
    (h : f ∈ formattingsOf offset b) : f.extent.Within offset (offset + units b.rendered) := by
  have hpos : units b.text < units b.rendered := by
    rw [Block.rendered, units_append]
    exact Nat.lt_add_of_pos_right (by decide)
  have hwhole : Extent.Within ⟨offset, offset + units b.rendered⟩ offset
      (offset + units b.rendered) := ⟨Nat.le_refl _, by simp only; omega, Nat.le_refl _⟩
  simp only [formattingsOf, List.mem_append] at h
  rcases h with (h | h) | h
  · split at h
    · simp at h
    · rw [List.mem_singleton.1 h]; exact hwhole
  · split at h
    · rw [List.mem_singleton.1 h]; exact hwhole
    · simp at h
  · exact (extent_emphases h).mono (Nat.le_refl _) (Nat.add_le_add_left (Nat.le_of_lt hpos) _)

/-- The formattings of blocks lie in the text of the blocks. -/
theorem extent_formattingsFrom {offset : Nat} {blocks : List Block} {f : Formatting}
    (h : f ∈ formattingsFrom offset blocks) :
    f.extent.Within offset (offset + units (String.join (blocks.map (·.rendered)))) := by
  induction blocks generalizing offset with
  | nil => simp [formattingsFrom] at h
  | cons b rest ih =>
    rw [List.map_cons, String.join_cons, units_append]
    rcases List.mem_append.1 h with h | h
    · exact (extent_formattingsOf h).mono (Nat.le_refl _) (by omega)
    · exact (ih h).mono (Nat.le_add_right ..) (by omega)

/-- The formattings of a compiled text lie in the text. -/
theorem extent_compileBlocks {blocks : List Block} {f : Formatting}
    (h : f ∈ (compileBlocks blocks).formattings) :
    f.extent.Within bodyStart (compileBlocks blocks).endOffset :=
  extent_formattingsFrom h

end Scribe.Edit
