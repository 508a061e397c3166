import Mathlib.Data.List.Forall2
import Scribe.Edit.Compiled
import Scribe.Proofs.Markdown.Line
import Scribe.Proofs.Markdown.Span

/-!
# What compiling keeps of a text

`Kept` relates a line of Markdown to the line that it becomes in the compiled text: a blank line
becomes empty, any other line loses its marker and some of its stars and backticks, and nothing
else. Since no line gains a break on the way, the compiled text falls back into the lines that it
was made of, and the relation holds line by line (`compile_keeps_lines`).
-/

namespace Scribe.Markdown

open Text

/-- What a line becomes in the compiled text. -/
inductive Kept (source : List Char) : List Char → Prop where
  /-- A blank line becomes empty. -/
  | blank (h : source.all isBlank = true) : Kept source []
  /-- A line loses the marker that gives it its role, and is stripped behind it. -/
  | marked {m : LineMarker} {rest out : List Char} (h : source.all isBlank = false)
      (hm : m ∈ markers) (hsource : source = m.text ++ rest)
      (hrole : classify source = ⟨m.style, m.listItem, rest⟩) (hout : Stripped out rest) :
      Kept source out
  /-- A line without a marker is stripped. -/
  | unmarked {out : List Char} (h : source.all isBlank = false)
      (hrole : ∀ m ∈ markers, ¬ m.text <+: source) (hout : Stripped out source) : Kept source out

/-- Nothing is added to a line. -/
theorem Kept.sublist {source out : List Char} (h : Kept source out) : List.Sublist out source := by
  cases h with
  | blank => exact List.nil_sublist _
  | marked _ _ hsource _ hout =>
    rw [hsource]
    exact hout.sublist.trans (List.sublist_append_right ..)
  | unmarked _ _ hout => exact hout.sublist

/-! ### One line -/

/-- The text of the block of a line: nothing of a blank line, else the spans behind its marker. -/
theorem toList_text_ofLine (line : List Char) :
    (Block.ofLine line).text.toList =
      if line.all isBlank then [] else spansText (spansOf (classify line).content) := by
  rw [Block.text, String.toList_join, List.flatMap_map, Block.ofLine]
  split
  · rfl
  · rfl

theorem kept_ofLine (line : List Char) : Kept line (Block.ofLine line).text.toList := by
  rw [toList_text_ofLine]
  cases h : line.all isBlank with
  | true => exact .blank h
  | false =>
    have hstripped := stripped_spansOf (classify line).content
    rcases classify_cases h with ⟨m, hm, rest, hsource, hrole⟩ | ⟨hnone, hrole⟩
    · rw [hrole] at hstripped ⊢
      exact .marked h hm hsource hrole hstripped
    · rw [hrole] at hstripped ⊢
      exact .unmarked h hnone hstripped

/-! ### The whole text -/

/-- The lines of the compiled text, in the order of the lines of the source. -/
def keptLines (markdown : String) : List (List Char) :=
  (linesOf markdown.toList).map fun line => (Block.ofLine line).text.toList

theorem forall₂_keptLines (markdown : String) :
    List.Forall₂ Kept (linesOf markdown.toList) (keptLines markdown) :=
  List.forall₂_map_right_iff.2 (List.forall₂_same.2 fun line _ => kept_ofLine line)

theorem unbroken_keptLines {markdown : String} : ∀ l ∈ keptLines markdown, Unbroken l := by
  intro l hl
  obtain ⟨line, hline, rfl⟩ := List.mem_map.1 hl
  exact (unbroken_of_mem_linesOf hline).sublist (kept_ofLine line).sublist

/-- The compiled text is its lines, each ended by a line feed. -/
theorem toList_text_compile (markdown : String) :
    (Edit.compile markdown).text.toList = (keptLines markdown).flatMap (· ++ ['\n']) := by
  rw [Edit.compile, Edit.compileBlocks, String.toList_join, parseBlocks, keptLines]
  simp only [List.flatMap_map, Block.rendered, String.toList_append]
  rfl

/-- The text of compiled blocks is empty or ends with the line feed of the last block. -/
theorem text_compileBlocks_end (blocks : List Block) :
    (Edit.compileBlocks blocks).text = "" ∨
      ∃ body, (Edit.compileBlocks blocks).text = body ++ "\n" := by
  rcases List.eq_nil_or_concat' blocks with rfl | ⟨before, last, rfl⟩
  · exact .inl rfl
  · refine .inr ⟨(Edit.compileBlocks before).text ++ last.text, ?_⟩
    simp only [Edit.compileBlocks, List.map_append, List.map_cons, List.map_nil,
      String.join_append, String.join_cons, String.join_nil, String.append_empty, Block.rendered,
      String.append_assoc]

/-- **Compiling keeps a text line by line.** Every line of the source becomes one line of the
compiled text, in the same order, and what a line becomes is `Kept` of it alone. The compiled text
is empty or ends in a line feed, and holds no other line break. -/
theorem compile_keeps_lines (markdown : String) :
    List.Forall₂ (fun source out => Kept source.toList out.toList) (splitLines markdown)
        (splitLines (Edit.compile markdown).text) ∧
      ((Edit.compile markdown).text = "" ∨ ∃ body, (Edit.compile markdown).text = body ++ "\n") ∧
      ∀ c ∈ (Edit.compile markdown).text.toList, isLineBreak c = true → c = '\n' := by
  refine ⟨?_, ?_, ?_⟩
  · rw [splitLines, splitLines, toList_text_compile, linesOf_flatMap unbroken_keptLines]
    simp only [List.forall₂_map_left_iff, List.forall₂_map_right_iff, String.toList_ofList]
    exact forall₂_keptLines markdown
  · exact text_compileBlocks_end (parseBlocks markdown)
  · intro c hc hbreak
    rw [toList_text_compile] at hc
    obtain ⟨l, hl, hc⟩ := List.mem_flatMap.1 hc
    rcases List.mem_append.1 hc with hc | hc
    · rw [unbroken_keptLines l hl c hc] at hbreak
      cases hbreak
    · exact List.mem_singleton.1 hc

end Scribe.Markdown
