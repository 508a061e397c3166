import Scribe.Proofs.Edit.Extents
import Scribe.Proofs.Markdown.Conservation

/-!
# The geometry of formattings

A compiled text is a row of paragraphs, one for each block, and its formattings lie in it in one of
two ways (`Formatting.Placed`). A style or a bullet covers exactly one paragraph with the line feed
that ends it; an emphasis covers a run of characters of one line. The order of the formattings comes
down to one relation between an earlier and a later one (`Formatting.Before`): the later starts
behind the end of the earlier, or it is an emphasis in the paragraph that the earlier formats.

Not every list of blocks is so well placed. A block that is a heading and a list item at once
formats its paragraph twice, and a span may hold a line feed. The blocks of a Markdown text are of
no such kind (`Block.Regular`), since a marker gives a style or a bullet and no line holds a break.
-/

namespace Scribe.Markdown

/-! ### Regular blocks -/

/-- A block of which every formatting has a place of its own: a style or a bullet but not both, no
line feed, and spans that are bold or italic but not both. -/
structure Block.Regular (b : Block) : Prop where
  style_or_bullet : b.style = .body ∨ b.listItem = false
  no_lineFeed : '\n' ∉ b.text.toList
  one_flag : ∀ s ∈ b.spans, s.isEmphasized = true → s.bold ≠ s.italicOrCode

/-- No marker gives both a style and a bullet. -/
theorem classify_style_or_bullet (line : List Char) :
    (classify line).style = .body ∨ (classify line).listItem = false := by
  have hmarkers : ∀ m ∈ markers, m.style = .body ∨ m.listItem = false := by decide
  unfold classify
  rw [findSome?_classify?]
  cases hm : markers.find? (·.text.isPrefixOf line) with
  | some m => exact hmarkers m (List.mem_of_find?_eq_some hm)
  | none => exact .inl rfl

/-- A delimiter sets one flag, and a plain run none. -/
theorem one_flag_of_mem_spansOf {cs : List Char} {s : Span} (h : s ∈ spansOf cs)
    (he : s.isEmphasized = true) : s.bold ≠ s.italicOrCode := by
  have hspan : ∀ (d : Delimiter) (text : List Char),
      (d.span text).bold ≠ (d.span text).italicOrCode := by
    intro d text
    cases d <;> simp [Delimiter.span]
  fun_induction spansOf cs with
  | case1 => cases h
  | case2 c rest _ ih =>
    rcases List.mem_cons.1 h with rfl | h
    · cases he
    · exact ih h
  | case3 c rest d _ _ =>
    rw [List.mem_singleton.1 h]
    exact hspan d _
  | case4 c rest d _ inner behind _ ih =>
    rcases List.mem_cons.1 h with rfl | h
    · exact hspan d inner
    · exact ih h

/-- The block of a line is regular. -/
theorem regular_ofLine {line : List Char} (h : Unbroken line) : (Block.ofLine line).Regular where
  style_or_bullet := classify_style_or_bullet line
  no_lineFeed := by
    intro hmem
    have hbreak := h.sublist (kept_ofLine line).sublist '\n' hmem
    cases hbreak
  one_flag := by
    intro s hs he
    rw [Block.ofLine] at hs
    simp only at hs
    split at hs
    · rw [List.mem_singleton.1 hs] at he
      cases he
    · exact one_flag_of_mem_spansOf hs he

/-- The blocks of a text are regular. -/
theorem regular_of_mem_parseBlocks {markdown : String} {b : Block} (h : b ∈ parseBlocks markdown) :
    b.Regular := by
  obtain ⟨line, hline, rfl⟩ := List.mem_map.1 h
  exact regular_ofLine (unbroken_of_mem_linesOf hline)

end Scribe.Markdown

namespace Scribe.Edit

open Text Markdown

/-! ### Extents of characters -/

/-- The extent of the characters `cs` that stand behind `front`. -/
def Extent.ofChars (front cs : List Char) : Extent :=
  ⟨bodyStart + unitCount front, bodyStart + unitCount front + unitCount cs⟩

/-- A paragraph starts at the start of a text and behind every line feed. -/
def StartsParagraph (front : List Char) : Prop := front = [] ∨ ∃ cs, front = cs ++ ['\n']

/-- An extent is exactly one paragraph of a text, up to and with the next line feed. -/
def Extent.IsParagraph (e : Extent) (text : List Char) : Prop :=
  ∃ front line back, text = front ++ (line ++ ['\n']) ++ back ∧ StartsParagraph front ∧
    '\n' ∉ line ∧ e = .ofChars front (line ++ ['\n'])

/-- Whether an offset falls between the two halves of a surrogate pair of a text. -/
def dividesPair (text : String) (offset : Nat) : Bool :=
  insidePair (utf16 text.toList) (offset - bodyStart)

/-- The code unit of a text at an offset. -/
def unitAt? (text : String) (offset : Nat) : Option Nat :=
  (utf16 text.toList)[offset - bodyStart]?

/-- There is no pair around the end of a run of characters. -/
theorem dividesPair_append {text : String} {front back : List Char}
    (h : text.toList = front ++ back) : dividesPair text (bodyStart + unitCount front) = false := by
  have hcut := insidePair_append (utf16 front) (utf16 back) 0
  rw [Nat.add_zero, length_utf16, insidePair_zero, ← utf16_append, ← h] at hcut
  rw [dividesPair, Nat.add_sub_cancel_left, hcut]

/-- Only the line feed has its code unit: the halves of a pair lie above it. -/
theorem ne_lineFeed_of_mem_utf16 {cs : List Char} (h : '\n' ∉ cs) {u : Nat} (hu : u ∈ utf16 cs) :
    u ≠ '\n'.toNat := by
  obtain ⟨c, hc, hu⟩ := List.mem_flatMap.1 hu
  have hpos : '\n'.toNat = 10 := rfl
  unfold codeUnits at hu
  split at hu
  · intro heq
    have hchar : c = '\n' := Char.toNat_inj.1 ((List.mem_singleton.1 hu).symm.trans heq)
    exact h (hchar ▸ hc)
  · simp only [List.mem_cons, List.not_mem_nil, or_false] at hu
    omega

/-- The code units of a run of characters stand at the offsets of its extent. -/
theorem unitAt?_ofChars {text : String} {front cs back : List Char}
    (h : text.toList = front ++ cs ++ back) {n : Nat} (hstart : (Extent.ofChars front cs).start ≤ n)
    (hstop : n < (Extent.ofChars front cs).stop) : ∃ u ∈ utf16 cs, unitAt? text n = some u := by
  simp only [Extent.ofChars] at hstart hstop
  have hlen : n - bodyStart - (utf16 front).length < (utf16 cs).length := by
    rw [length_utf16, length_utf16]
    omega
  refine ⟨(utf16 cs)[n - bodyStart - (utf16 front).length], List.getElem_mem hlen, ?_⟩
  have hfront : (utf16 front).length ≤ n - bodyStart := by
    rw [length_utf16]
    omega
  rw [unitAt?, h, utf16_append, utf16_append, List.append_assoc, List.getElem?_append_right hfront,
    List.getElem?_append_left hlen, List.getElem?_eq_getElem hlen]

/-! ### Which characters a formatting covers -/

/-- Whether a formatting is one of whole paragraphs. -/
def Formatting.isWhole : Formatting → Bool
  | .paragraph .. | .bullet _ => true
  | .emphasis .. => false

/-- The emphases of spans belong to emphasized spans that are not empty. -/
theorem exists_of_mem_emphases {offset : Nat} {ss : List Span} {f : Formatting}
    (h : f ∈ emphases offset ss) :
    ∃ before s after, ss = before ++ s :: after ∧ s.isEmphasized = true ∧ 0 < units s.text ∧
      f = .emphasis ⟨offset + unitCount (spansText before),
        offset + unitCount (spansText before) + units s.text⟩ s.bold s.italicOrCode := by
  induction ss generalizing offset with
  | nil => cases h
  | cons s ss ih =>
    rcases List.mem_append.1 h with h | h
    · -- the emphasis of the first span
      split at h
      · next he =>
        simp only [Extent.ofLength?, List.mem_map, Option.mem_toList,
          Option.ite_none_right_eq_some, Option.some.injEq] at h
        obtain ⟨e, ⟨hlen, rfl⟩, rfl⟩ := h
        exact ⟨[], s, ss, rfl, he, hlen, rfl⟩
      · cases h
    · obtain ⟨before, t, after, rfl, he, hlen, rfl⟩ := ih h
      refine ⟨s :: before, t, after, rfl, he, hlen, ?_⟩
      rw [spansText_cons, unitCount_append, ← Nat.add_assoc, units]

theorem isWhole_of_mem_emphases {offset : Nat} {ss : List Span} {f : Formatting}
    (h : f ∈ emphases offset ss) : f.isWhole = false := by
  obtain ⟨_, _, _, _, _, _, rfl⟩ := exists_of_mem_emphases h
  rfl

/-- The formattings of blocks belong to one block each, which starts behind the text of the blocks
before it. -/
theorem exists_of_mem_formattingsFrom {offset : Nat} {blocks : List Block} {f : Formatting}
    (h : f ∈ formattingsFrom offset blocks) :
    ∃ before b after, blocks = before ++ b :: after ∧
      f ∈ formattingsOf (offset + units (compileBlocks before).text) b := by
  induction blocks generalizing offset with
  | nil => cases h
  | cons b rest ih =>
    rcases List.mem_append.1 h with h | h
    · exact ⟨[], b, rest, rfl, h⟩
    · obtain ⟨before, c, after, rfl, hc⟩ := ih h
      refine ⟨b :: before, c, after, rfl, ?_⟩
      rwa [compileBlocks, List.map_cons, String.join_cons, units_append, ← Nat.add_assoc]

/-- Where a formatting lies in a text. -/
inductive Formatting.Placed (text : List Char) : Formatting → Prop where
  /-- A style or a bullet covers a paragraph. -/
  | whole {f : Formatting} (hwhole : f.isWhole = true) (h : f.extent.IsParagraph text) :
      Placed text f
  /-- An emphasis covers some characters of the line of a paragraph. -/
  | run {front left part right back : List Char} {bold italicOrCode : Bool}
      (htext : text = front ++ (left ++ part ++ right ++ ['\n']) ++ back)
      (hfront : StartsParagraph front) (hline : '\n' ∉ left ++ part ++ right) (hpart : part ≠ [])
      (hflag : bold ≠ italicOrCode) :
      Placed text (.emphasis (.ofChars (front ++ left) part) bold italicOrCode)

/-- The whole extent of a regular block is a paragraph. -/
theorem isParagraph_rendered {front : List Char} (hfront : StartsParagraph front) {b : Block}
    (hb : b.Regular) (back : List Char) :
    (Extent.ofChars front b.rendered.toList).IsParagraph (front ++ b.rendered.toList ++ back) := by
  have hrendered : b.rendered.toList = b.text.toList ++ ['\n'] := String.toList_append
  rw [hrendered]
  exact ⟨front, b.text.toList, back, rfl, hfront, hb.no_lineFeed, rfl⟩

/-- The formattings of a regular block lie in its paragraph. -/
theorem placed_of_mem_formattingsOf {front : List Char} (hfront : StartsParagraph front) {b : Block}
    (hb : b.Regular) (back : List Char) {f : Formatting}
    (h : f ∈ formattingsOf (bodyStart + unitCount front) b) :
    f.Placed (front ++ b.rendered.toList ++ back) := by
  have hparagraph := isParagraph_rendered hfront hb back
  simp only [formattingsOf, List.mem_append] at h
  rcases h with (h | h) | h
  · -- the style
    split at h
    · cases h
    · rw [List.mem_singleton.1 h]
      exact .whole rfl hparagraph
  · -- the bullet
    split at h
    · rw [List.mem_singleton.1 h]
      exact .whole rfl hparagraph
    · cases h
  · -- an emphasis, of the span `s`
    obtain ⟨before, s, after, hspans, he, hlen, rfl⟩ := exists_of_mem_emphases h
    have htext : b.text.toList = spansText before ++ s.text.toList ++ spansText after := by
      rw [Block.text, String.toList_join, List.flatMap_map, hspans, List.append_assoc]
      exact List.flatMap_append
    have hrendered : b.rendered.toList =
        spansText before ++ s.text.toList ++ spansText after ++ ['\n'] := by
      rw [← htext]
      exact String.toList_append
    have hextent : Extent.ofChars (front ++ spansText before) s.text.toList =
        ⟨bodyStart + unitCount front + unitCount (spansText before),
          bodyStart + unitCount front + unitCount (spansText before) + units s.text⟩ := by
      rw [Extent.ofChars, unitCount_append, ← Nat.add_assoc, units]
    rw [← hextent, hrendered]
    refine .run rfl hfront ?_ ?_ ?_
    · rw [← htext]
      exact hb.no_lineFeed
    · rintro hnil
      rw [units, hnil] at hlen
      exact Nat.lt_irrefl 0 hlen
    · exact hb.one_flag s (hspans ▸ List.mem_append_cons_self) he

/-- The text of blocks ends where a paragraph starts. -/
theorem startsParagraph_compileBlocks (blocks : List Block) :
    StartsParagraph (compileBlocks blocks).text.toList := by
  rcases text_compileBlocks_end blocks with h | ⟨body, h⟩
  · exact .inl (String.toList_eq_nil_iff.2 h)
  · exact .inr ⟨body.toList, by rw [h]; exact String.toList_append⟩

/-- The formattings of regular blocks all have a place in the text. -/
theorem placed_compileBlocks {blocks : List Block} (hregular : ∀ b ∈ blocks, b.Regular)
    {f : Formatting} (h : f ∈ (compileBlocks blocks).formattings) :
    f.Placed (compileBlocks blocks).text.toList := by
  obtain ⟨before, b, after, rfl, hf⟩ := exists_of_mem_formattingsFrom h
  have htext : (compileBlocks (before ++ b :: after)).text.toList =
      (compileBlocks before).text.toList ++ b.rendered.toList ++
        (compileBlocks after).text.toList := by
    simp only [compileBlocks, List.map_append, List.map_cons, String.join_append, String.join_cons,
      String.toList_append, List.append_assoc]
  rw [htext]
  exact placed_of_mem_formattingsOf (startsParagraph_compileBlocks before)
    (hregular b List.mem_append_cons_self) _ hf

/-- What is placed covers a run of characters, so it divides none. -/
theorem Formatting.Placed.exists_ofChars {text : List Char} {f : Formatting} (h : f.Placed text) :
    ∃ front cs back, text = front ++ cs ++ back ∧ f.extent = .ofChars front cs := by
  cases h with
  | whole _ h =>
    obtain ⟨front, line, back, htext, -, -, he⟩ := h
    exact ⟨front, _, back, htext, he⟩
  | @run front left part right back _ _ htext =>
    refine ⟨front ++ left, part, right ++ ['\n'] ++ back, ?_, rfl⟩
    rw [htext]
    simp only [List.append_assoc]

/-! ### The order of formattings -/

/-- How an earlier formatting lies to a later one: in front of it, or around it if the later one is
an emphasis and the earlier one is not. -/
def Formatting.Before (f g : Formatting) : Prop :=
  f.extent.stop ≤ g.extent.start ∨
    f.isWhole = true ∧ g.isWhole = false ∧ f.extent.start ≤ g.extent.start

/-- Only an emphasis may lie in the extent of an earlier formatting, and of no other emphasis. -/
theorem Formatting.Before.stop_le {f g : Formatting} (h : f.Before g)
    (hkind : f.isWhole = false ∨ g.isWhole = true) : f.extent.stop ≤ g.extent.start := by
  rcases h with h | ⟨hf, hg, -⟩
  · exact h
  · rw [hf, hg] at hkind
    simp at hkind

/-- The emphases of spans stand one behind the other. -/
theorem pairwise_emphases (offset : Nat) (ss : List Span) :
    (emphases offset ss).Pairwise fun f g => f.extent.stop ≤ g.extent.start := by
  induction ss generalizing offset with
  | nil => exact .nil
  | cons s ss ih =>
    rw [emphases_cons]
    refine List.pairwise_append.2 ⟨?_, ih _, fun f hf g hg => ?_⟩
    · -- One span has at most one emphasis.
      simp only [emphases, Extent.ofLength?, List.append_nil]
      split
      · split
        · exact List.pairwise_singleton ..
        · exact .nil
      · exact .nil
    · have hstop := (extent_emphases hf).le_high
      have hstart := (extent_emphases hg).low_le
      rw [List.map_singleton, String.join_cons, String.join_nil, String.append_empty] at hstop
      exact Nat.le_trans hstop hstart

/-- The style or the bullet of a regular block stands first, and its emphases follow. -/
theorem pairwise_formattingsOf (offset : Nat) {b : Block} (hb : b.Regular) :
    (formattingsOf offset b).Pairwise Formatting.Before := by
  have hemphases : (emphases offset b.spans).Pairwise Formatting.Before :=
    (pairwise_emphases offset b.spans).imp .inl
  have hcons : ∀ f : Formatting, f.isWhole = true → f.extent.start = offset →
      (f :: emphases offset b.spans).Pairwise Formatting.Before := by
    -- The block starts where `f` does, and no emphasis lies in front of it.
    intro f hwhole hstart
    refine List.pairwise_cons.2 ⟨fun g hg => .inr ⟨hwhole, isWhole_of_mem_emphases hg, ?_⟩,
      hemphases⟩
    rw [hstart]
    exact (extent_emphases hg).low_le
  -- A style and a bullet are not both there, so at most one formatting precedes the emphases.
  simp only [formattingsOf]
  rcases hb.style_or_bullet with hstyle | hbullet
  · rw [if_pos hstyle, List.nil_append]
    split
    · exact hcons _ rfl rfl
    · exact hemphases
  · simp only [hbullet, Bool.false_eq_true, if_false, List.append_nil]
    split
    · exact hemphases
    · exact hcons _ rfl rfl

/-- The formattings of a block stand in front of those of the blocks behind it. -/
theorem pairwise_formattingsFrom (offset : Nat) {blocks : List Block}
    (hregular : ∀ b ∈ blocks, b.Regular) :
    (formattingsFrom offset blocks).Pairwise Formatting.Before := by
  induction blocks generalizing offset with
  | nil => exact .nil
  | cons b rest ih =>
    refine List.pairwise_append.2 ⟨pairwise_formattingsOf offset (hregular b List.mem_cons_self),
      ih _ fun c hc => hregular c (List.mem_cons_of_mem _ hc), fun f hf g hg => .inl ?_⟩
    exact Nat.le_trans (extent_formattingsOf hf).le_high (extent_formattingsFrom hg).low_le

/-! ### The geometry of compiled texts -/

/-- The formattings of a compiled text are well placed in it. -/
structure Compiled.WellPlaced (c : Compiled) : Prop where
  /-- No extent is empty, and all lie in the text. -/
  within : ∀ f ∈ c.formattings, f.extent.Within bodyStart (bodyStart + units c.text)
  /-- No extent starts or ends inside a surrogate pair. -/
  divides_no_pair : ∀ f ∈ c.formattings,
    dividesPair c.text f.extent.start = false ∧ dividesPair c.text f.extent.stop = false
  /-- The starts do not go back. -/
  ordered : c.formattings.Pairwise fun f g => f.extent.start ≤ g.extent.start
  /-- A style or a bullet covers exactly one paragraph. -/
  whole_paragraph : ∀ f ∈ c.formattings, f.isWhole = true → f.extent.IsParagraph c.text.toList
  /-- Styles and bullets stand one behind the other, at most one for a paragraph. -/
  wholes_disjoint : (c.formattings.filter (·.isWhole)).Pairwise fun f g =>
    f.extent.stop ≤ g.extent.start
  /-- An emphasis lies in the line of one paragraph. -/
  emphasis_in_paragraph : ∀ f ∈ c.formattings, f.isWhole = false →
    ∃ p : Extent, p.IsParagraph c.text.toList ∧ p.start ≤ f.extent.start ∧ f.extent.stop < p.stop
  /-- An emphasis covers no line feed. -/
  emphasis_no_lineFeed : ∀ f ∈ c.formattings, f.isWhole = false → ∀ n,
    f.extent.start ≤ n → n < f.extent.stop → unitAt? c.text n ≠ some '\n'.toNat
  /-- An emphasis is not followed by the style or the bullet of its own paragraph: what follows
  formats a paragraph behind it. -/
  emphasis_after_whole : c.formattings.Pairwise fun f g =>
    f.isWhole = false → g.isWhole = true → f.extent.stop ≤ g.extent.start
  /-- An emphasis sets one flag. -/
  emphasis_one_flag : ∀ e bold italicOrCode, .emphasis e bold italicOrCode ∈ c.formattings →
    bold ≠ italicOrCode
  /-- Emphases stand one behind the other. -/
  emphases_disjoint : (c.formattings.filter (!·.isWhole)).Pairwise fun f g =>
    f.extent.stop ≤ g.extent.start

/-- The formattings of regular blocks are well placed. -/
theorem wellPlaced_compileBlocks {blocks : List Block} (hregular : ∀ b ∈ blocks, b.Regular) :
    (compileBlocks blocks).WellPlaced := by
  have hplaced : ∀ f ∈ (compileBlocks blocks).formattings,
      f.Placed (compileBlocks blocks).text.toList := fun f hf => placed_compileBlocks hregular hf
  have hbefore : (compileBlocks blocks).formattings.Pairwise Formatting.Before :=
    pairwise_formattingsFrom bodyStart hregular
  have hwithin : ∀ f ∈ (compileBlocks blocks).formattings,
      f.extent.Within bodyStart (bodyStart + units (compileBlocks blocks).text) :=
    fun f hf => extent_compileBlocks hf
  -- Each field is read off from where a formatting lies or from how two of them lie to each other.
  constructor
  case within => exact hwithin
  case divides_no_pair =>
    intro f hf
    obtain ⟨front, cs, back, htext, he⟩ := (hplaced f hf).exists_ofChars
    have hstop : (Extent.ofChars front cs).stop = bodyStart + unitCount (front ++ cs) := by
      rw [Extent.ofChars, unitCount_append, ← Nat.add_assoc]
    rw [he, hstop]
    exact ⟨dividesPair_append (htext.trans (List.append_assoc ..)), dividesPair_append htext⟩
  case ordered =>
    refine hbefore.imp_of_mem fun hf _ h => ?_
    rcases h with h | ⟨-, -, h⟩
    · exact Nat.le_trans (Nat.le_of_lt (hwithin _ hf).lt) h
    · exact h
  case whole_paragraph =>
    intro f hf hwhole
    cases hplaced f hf with
    | whole _ h => exact h
    | run => cases hwhole
  case wholes_disjoint =>
    refine (hbefore.filter _).imp_of_mem fun _ hg h => h.stop_le (.inr ?_)
    exact (List.mem_filter.1 hg).2
  case emphasis_in_paragraph =>
    intro f hf hwhole
    cases hplaced f hf with
    | whole h => rw [h] at hwhole; cases hwhole
    | @run front left part right back _ _ htext hfront hline =>
      refine ⟨_, ⟨front, left ++ part ++ right, back, htext, hfront, hline, rfl⟩, ?_, ?_⟩
      · simp only [Formatting.extent, Extent.ofChars, unitCount_append]
        omega
      · have hfeed : unitCount ['\n'] = 1 := rfl
        simp only [Formatting.extent, Extent.ofChars, unitCount_append, hfeed]
        omega
  case emphasis_no_lineFeed =>
    intro f hf hwhole n hstart hstop heq
    cases hplaced f hf with
    | whole h => rw [h] at hwhole; cases hwhole
    | @run front left part right back _ _ htext _ hline =>
      have hpart : '\n' ∉ part := fun h =>
        hline (List.mem_append_left _ (List.mem_append_right _ h))
      have hrun : (compileBlocks blocks).text.toList =
          (front ++ left) ++ part ++ (right ++ ['\n'] ++ back) := by
        rw [htext]
        simp only [List.append_assoc]
      obtain ⟨u, hu, hunit⟩ := unitAt?_ofChars hrun hstart hstop
      rw [hunit, Option.some.injEq] at heq
      exact ne_lineFeed_of_mem_utf16 hpart hu heq
  case emphasis_after_whole => exact hbefore.imp fun h _ hwhole => h.stop_le (.inr hwhole)
  case emphasis_one_flag =>
    intro e bold italicOrCode hf
    cases hplaced _ hf with
    | whole h => cases h
    | run _ _ _ _ hflag => exact hflag
  case emphases_disjoint =>
    refine (hbefore.filter _).imp_of_mem fun hf _ h => h.stop_le (.inl ?_)
    simpa using (List.mem_filter.1 hf).2

/-- **The formattings of a Markdown text are well placed.** -/
theorem wellPlaced_compile (markdown : String) : (compile markdown).WellPlaced :=
  wellPlaced_compileBlocks fun _ hb => regular_of_mem_parseBlocks hb

end Scribe.Edit
