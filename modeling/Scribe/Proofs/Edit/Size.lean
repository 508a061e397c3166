import Mathlib.Algebra.Order.BigOperators.Group.List
import Mathlib.Algebra.Order.Ring.Nat
import Scribe.Proofs.Edit.Extents
import Scribe.Proofs.Edit.Plan
import Scribe.Proofs.Markdown.Break
import Scribe.Proofs.Markdown.Conservation

/-!
# The size of what is sent

The limit is checked on the Markdown and not on what is made of it. It bounds that as well
(`compile_within_content`): a compiled text has at most one unit more than its Markdown, and two
units of Markdown pay for every formatting. Each line pays for its own: it loses a marker of two
units or more for a style or a bullet, and a delimiter for an emphasis, which is made only if the
span has a unit too. The one unit that may be added is the line feed of a last line that is open.

What the offsets need is said by `compileWithin?`, which compiles as long as no sum exceeds a bound.
All sums are at most the end of the text, so every bound from there on is enough.
-/

namespace Scribe.Markdown

open Text

/-! ### Units of lines -/

/-- A break takes a unit at least. -/
theorem unitCount_afterBreak_lt {c : Char} (hc : isLineBreak c = true) (rest : List Char) :
    unitCount (afterBreak (c :: rest)) < unitCount (c :: rest) := by
  obtain ⟨front, d, hfront, -⟩ := exists_append_afterBreak hc rest
  have hpos := unitsOf_pos d
  have hunits := congrArg unitCount hfront
  rw [unitCount_append, unitCount.eq_2 d] at hunits
  omega

/-- The breaks of a text have room for a unit for each of its lines, but the last one if that is
open. -/
theorem sum_unitCount_linesOf_le {k : Nat} (hk : k ≤ 1) (cs : List Char) :
    ((linesOf cs).map (unitCount · + k)).sum ≤ unitCount cs + if EndsLine cs then 0 else k := by
  induction cs using lines_induction with
  | nil => simp [linesOf_nil]
  | last l hne hl =>
    have hopen : ¬ EndsLine l := by
      intro hends
      have hlast := hends _ (List.getLast_mem_getLast? hne)
      rw [hl _ (List.getLast_mem hne)] at hlast
      cases hlast
    rw [linesOf_unbroken hne hl, if_neg hopen, List.map_singleton, List.sum_singleton]
  | cons l c rest hl hc ih =>
    have hbreak := unitCount_afterBreak_lt hc rest
    rw [linesOf_append_cons hl hc, List.map_cons, List.sum_cons, unitCount_append]
    simp only [endsLine_append_cons hc l rest]
    omega

/-! ### Lines without a role -/

/-- A blank line starts with no marker, and nothing is left of it. -/
theorem classify_of_blank {line : List Char} (h : line.all isBlank = true) :
    classify line = ⟨.body, false, []⟩ := by
  have hmarkers : ∀ m ∈ markers, m.text.all isBlank = false := by decide
  unfold classify
  rw [findSome?_classify?]
  cases hm : markers.find? (·.text.isPrefixOf line) with
  | none => simp [h]
  | some m =>
    have hmatch := List.find?_some hm
    obtain ⟨rest, rfl⟩ := List.isPrefixOf_iff_prefix.1 hmatch
    rw [List.all_append, hmarkers m (List.mem_of_find?_eq_some hm), Bool.false_and] at h
    cases h

end Scribe.Markdown

namespace Scribe.Edit

open Text Markdown

/-! ### The text -/

/-- A line keeps at most its own units. -/
theorem unitCount_keptLine_le (line : List Char) :
    unitCount (Block.ofLine line).text.toList ≤ unitCount line :=
  unitCount_le_of_sublist (kept_ofLine line).sublist

/-- The units of a compiled text: those that its lines keep, and a line feed for each. -/
theorem units_compile (markdown : String) :
    units (compile markdown).text = ((keptLines markdown).map (unitCount · + 1)).sum := by
  rw [units, toList_text_compile]
  induction keptLines markdown with
  | nil => rfl
  | cons l ls ih =>
    rw [List.flatMap_cons, unitCount_append, unitCount_append, ih, List.map_cons, List.sum_cons]
    rfl

/-- A compiled text has room in its Markdown, but for the line feed of a line that is open. -/
theorem units_compile_le (markdown : String) :
    units (compile markdown).text ≤
      units markdown + if EndsLine markdown.toList then 0 else 1 := by
  refine Nat.le_trans ?_ (sum_unitCount_linesOf_le (Nat.le_refl 1) markdown.toList)
  rw [units_compile, keptLines, List.map_map]
  exact List.sum_le_sum fun line _ => Nat.succ_le_succ (unitCount_keptLine_le line)

/-! ### The formattings -/

/-- A span pays for its emphasis with a delimiter and a unit of its text. -/
theorem two_mul_length_emphases_singleton (offset : Nat) (s : Span) :
    2 * (emphases offset [s]).length ≤ 1 + units s.text := by
  simp only [emphases, Extent.ofLength?, List.append_nil]
  split
  · split
    · next hpos =>
      simp only [Option.toList_some, List.map_singleton, List.length_singleton]
      omega
    · exact Nat.zero_le _
  · exact Nat.zero_le _

theorem two_mul_length_emphases_cons (offset : Nat) (s : Span) (ss : List Span) :
    2 * (emphases offset (s :: ss)).length ≤
      1 + units s.text + 2 * (emphases (offset + units s.text) ss).length := by
  have hfirst := two_mul_length_emphases_singleton offset s
  rw [emphases_cons, List.length_append]
  omega

/-- Every emphasis of a line has two units of the line. -/
theorem two_mul_length_emphases_spansOf_le (offset : Nat) (cs : List Char) :
    2 * (emphases offset (spansOf cs)).length ≤ unitCount cs := by
  have hmarker : ∀ d : Delimiter, 0 < unitCount d.marker := by
    intro d
    cases d <;> decide
  fun_induction spansOf cs generalizing offset with
  | case1 => exact Nat.zero_le _
  | case2 c rest hd ih =>
    -- A plain run has no emphasis.
    have hlater := ih (offset + units (Span.plain (.ofList ((c :: rest).takeWhile isPlain))).text)
    have hcut : unitCount ((c :: rest).takeWhile isPlain) +
        unitCount ((c :: rest).dropWhile isPlain) = unitCount (c :: rest) := by
      rw [← unitCount_append, List.takeWhile_append_dropWhile]
    rw [emphases_cons, List.length_append]
    show 2 * (0 + _) ≤ _
    omega
  | case3 c rest d hd hb =>
    have hspan := two_mul_length_emphases_singleton offset
      (d.span ((c :: rest).drop d.marker.length))
    have hcut := congrArg unitCount (marker_append_of_detect? hd)
    have hpos := hmarker d
    rw [units, toList_text_span] at hspan
    rw [unitCount_append] at hcut
    omega
  | case4 c rest d hd inner behind hb ih =>
    have hspan := two_mul_length_emphases_cons offset (d.span inner) (spansOf behind)
    have hlater := ih (offset + units (d.span inner).text)
    have hcut := congrArg unitCount (marker_append_of_detect? hd)
    have hpos := hmarker d
    rw [units, toList_text_span] at hspan hlater
    rw [breakOn_eq_some hb] at hcut
    simp only [unitCount_append] at hcut
    omega

/-- Every formatting of a line has two units of the line. -/
theorem two_mul_length_formattingsOf_ofLine_le (offset : Nat) (line : List Char) :
    2 * (formattingsOf offset (Block.ofLine line)).length ≤ unitCount line := by
  -- A marker has two units, and it gives a style or a bullet.
  have hmarkers : ∀ m ∈ markers,
      2 * ((if m.style = .body then 0 else 1) + (if m.listItem then 1 else 0)) ≤
        unitCount m.text := by decide
  have hlength : (formattingsOf offset (Block.ofLine line)).length =
      (if (classify line).style = .body then 0 else 1) +
        (if (classify line).listItem then 1 else 0) +
          (emphases offset (Block.ofLine line).spans).length := by
    rw [formattingsOf, List.length_append, List.length_append, apply_ite List.length,
      apply_ite List.length]
    rfl
  rw [hlength]
  cases hblank : line.all isBlank with
  | true =>
    rw [classify_of_blank hblank, Block.ofLine, if_pos hblank]
    exact Nat.zero_le _
  | false =>
    have hspans : (Block.ofLine line).spans = spansOf (classify line).content := by
      rw [Block.ofLine, hblank]
      rfl
    have hemphases := two_mul_length_emphases_spansOf_le offset (classify line).content
    rw [hspans]
    rcases classify_cases hblank with ⟨m, hm, rest, hsource, hrole⟩ | ⟨-, hrole⟩
    · have hmarker := hmarkers m hm
      have hcut := congrArg unitCount hsource
      rw [unitCount_append] at hcut
      rw [hrole] at hemphases ⊢
      simp only at hemphases ⊢
      omega
    · rw [hrole] at hemphases ⊢
      simpa using hemphases

/-- Every formatting of a text has two units of its lines. -/
theorem two_mul_length_formattings_le (markdown : String) :
    2 * (compile markdown).formattings.length ≤ units markdown := by
  have hlines : ∀ (ls : List (List Char)) (offset : Nat),
      2 * (formattingsFrom offset (ls.map .ofLine)).length ≤ (ls.map (unitCount · + 0)).sum := by
    intro ls
    induction ls with
    | nil => exact fun _ => Nat.zero_le _
    | cons l ls ih =>
      intro offset
      have hfirst := two_mul_length_formattingsOf_ofLine_le offset l
      have hlater := ih (offset + units (Block.ofLine l).rendered)
      rw [List.map_cons, formattingsFrom, List.length_append, List.map_cons, List.sum_cons]
      omega
  have hsum := sum_unitCount_linesOf_le (Nat.zero_le 1) markdown.toList
  rw [ite_self] at hsum
  exact Nat.le_trans (hlines _ bodyStart) hsum

/-! ### The offsets -/

/-- The sum of two numbers, unless it exceeds a bound. -/
def sumWithin? (bound a b : Nat) : Option Nat := if a + b ≤ bound then some (a + b) else none

/-- The emphases of spans, unless an offset on the way exceeds a bound. -/
def emphasesWithin? (bound : Nat) : Nat → List Span → Option (List Formatting)
  | _, [] => some []
  | offset, s :: rest => do
    let stop ← sumWithin? bound offset (units s.text)
    let later ← emphasesWithin? bound stop rest
    let here := if s.isEmphasized ∧ 0 < units s.text
      then [.emphasis ⟨offset, stop⟩ s.bold s.italicOrCode] else []
    return here ++ later

/-- The formattings of blocks, unless an offset on the way exceeds a bound. -/
def formattingsFromWithin? (bound : Nat) : Nat → List Block → Option (List Formatting)
  | _, [] => some []
  | offset, b :: rest => do
    let stop ← sumWithin? bound offset (units b.rendered)
    let inner ← emphasesWithin? bound offset b.spans
    let later ← formattingsFromWithin? bound stop rest
    let whole : Extent := ⟨offset, stop⟩
    return (if b.style = .body then [] else [.paragraph whole b.style])
      ++ (if b.listItem then [.bullet whole] else []) ++ inner ++ later

/-- Compile a Markdown text with offsets that hold no number above a bound; there is no result if
one of them would have to. -/
def compileWithin? (bound : Nat) (markdown : String) : Option Compiled := do
  let blocks := parseBlocks markdown
  let formattings ← formattingsFromWithin? bound bodyStart blocks
  return ⟨String.join (blocks.map (·.rendered)), formattings⟩

theorem sumWithin?_of_le {bound a b : Nat} (h : a + b ≤ bound) :
    sumWithin? bound a b = some (a + b) := if_pos h

theorem sumWithin?_eq_some {bound a b c : Nat} (h : sumWithin? bound a b = some c) :
    c = a + b ∧ c ≤ bound := by
  obtain ⟨hle, hsum⟩ := Option.ite_none_right_eq_some.1 h
  cases hsum
  exact ⟨rfl, hle⟩

/-- No offset in the text of spans exceeds the end of the text. -/
theorem emphasesWithin?_of_le {bound : Nat} (ss : List Span) {offset : Nat}
    (h : offset + units (String.join (ss.map (·.text))) ≤ bound) :
    emphasesWithin? bound offset ss = some (emphases offset ss) := by
  induction ss generalizing offset with
  | nil => rfl
  | cons s ss ih =>
    rw [List.map_cons, String.join_cons, units_append, ← Nat.add_assoc] at h
    have hhere : emphases offset [s] = if s.isEmphasized ∧ 0 < units s.text
        then [.emphasis ⟨offset, offset + units s.text⟩ s.bold s.italicOrCode] else [] := by
      by_cases hs : s.isEmphasized = true <;> by_cases hlen : 0 < units s.text <;>
        simp [emphases, Extent.ofLength?, hs, hlen]
    rw [emphasesWithin?, sumWithin?_of_le (Nat.le_trans (Nat.le_add_right ..) h), emphases_cons,
      hhere]
    show (emphasesWithin? bound (offset + units s.text) ss >>= _) = _
    rw [ih h]
    rfl

/-- No offset in the text of blocks exceeds the end of the text. -/
theorem formattingsFromWithin?_of_le {bound : Nat} (blocks : List Block) {offset : Nat}
    (h : offset + units (String.join (blocks.map (·.rendered))) ≤ bound) :
    formattingsFromWithin? bound offset blocks = some (formattingsFrom offset blocks) := by
  induction blocks generalizing offset with
  | nil => rfl
  | cons b blocks ih =>
    rw [List.map_cons, String.join_cons, units_append, ← Nat.add_assoc] at h
    have hblock : offset + units b.rendered ≤ bound := Nat.le_trans (Nat.le_add_right ..) h
    have hspans : offset + units (String.join (b.spans.map (·.text))) ≤ bound := by
      rw [Block.rendered, units_append, Block.text] at hblock
      omega
    rw [formattingsFromWithin?, sumWithin?_of_le hblock, emphasesWithin?_of_le b.spans hspans]
    show (formattingsFromWithin? bound (offset + units b.rendered) blocks >>= _) = _
    rw [ih h]
    rfl

/-- The end of the text of blocks is one of the offsets. -/
theorem le_of_formattingsFromWithin? {bound : Nat} (blocks : List Block) {offset : Nat}
    {fs : List Formatting} (hoffset : offset ≤ bound)
    (h : formattingsFromWithin? bound offset blocks = some fs) :
    offset + units (String.join (blocks.map (·.rendered))) ≤ bound := by
  induction blocks generalizing offset fs with
  | nil => exact hoffset
  | cons b blocks ih =>
    obtain ⟨stop, hstop, h⟩ := Option.bind_eq_some_iff.1 h
    obtain ⟨inner, -, h⟩ := Option.bind_eq_some_iff.1 h
    obtain ⟨later, hlater, -⟩ := Option.bind_eq_some_iff.1 h
    obtain ⟨rfl, hle⟩ := sumWithin?_eq_some hstop
    have hend := ih hle hlater
    rw [List.map_cons, String.join_cons, units_append, ← Nat.add_assoc]
    exact hend

/-- A bound has room for the offsets exactly if it has room for the end of the compiled text; then
the text compiles to what it compiles to without a bound. -/
theorem compileWithin?_eq_some_iff {bound : Nat} (hstart : bodyStart ≤ bound) {markdown : String}
    {c : Compiled} :
    compileWithin? bound markdown = some c ↔
      c = compile markdown ∧ (compile markdown).endOffset ≤ bound := by
  constructor
  · intro h
    obtain ⟨fs, hfs, h⟩ := Option.bind_eq_some_iff.1 h
    have hend := le_of_formattingsFromWithin? (parseBlocks markdown) hstart hfs
    rw [formattingsFromWithin?_of_le _ hend] at hfs
    cases hfs
    cases h
    exact ⟨rfl, hend⟩
  · rintro ⟨rfl, hend⟩
    have hblocks := formattingsFromWithin?_of_le (parseBlocks markdown) hend
    rw [compileWithin?, hblocks]
    rfl

example : (compile "*b*").endOffset = 3 ∧ compileWithin? 2 "*b*" = none := by decide +kernel

/-! ### All that is sent -/

/-- **The limit on the Markdown bounds what is sent.** A compiled text has at most one unit more
than its Markdown, and only if that is not empty and its last line is open; two units of Markdown
pay for a formatting; and no offset on the way is above the units of the Markdown and two. So the
offsets of a text of less than 2⁶³ bytes are all less than 2⁶⁴, and a plan within the limit inserts
at most one unit more than the limit, with at most half as many requests as the limit has units, and
two. -/
theorem compile_within_content (markdown : String) :
    units (compile markdown).text ≤ units markdown + 1 ∧
      (units (compile markdown).text = units markdown + 1 →
        markdown ≠ "" ∧ ¬ EndsLine markdown.toList) ∧
      2 * (compile markdown).formattings.length ≤ units markdown ∧
      compileWithin? (units markdown + 2) markdown = some (compile markdown) ∧
      (markdown.utf8ByteSize < 2 ^ 63 →
        compileWithin? (2 ^ 64 - 1) markdown = some (compile markdown)) ∧
      ∀ {limit : Nat} {plan : Plan} {k : Nat}, Plan.Made markdown limit plan k →
        (∀ offset text, .insert offset text ∈ plan → units text ≤ limit + 1) ∧
          plan.length ≤ limit / 2 + 2 := by
  have htext := units_compile_le markdown
  have hformattings := two_mul_length_formattings_le markdown
  have hbound : units (compile markdown).text ≤ units markdown + 1 := by
    split at htext <;> omega
  have hend : (compile markdown).endOffset ≤ units markdown + 2 := by
    rw [Compiled.endOffset, bodyStart]
    omega
  have hwithin : ∀ bound, units markdown + 2 ≤ bound →
      compileWithin? bound markdown = some (compile markdown) := by
    intro bound hroom
    have hstart : bodyStart ≤ bound := Nat.le_trans (Nat.le_add_left 1 _) hroom
    exact (compileWithin?_eq_some_iff hstart).2 ⟨rfl, Nat.le_trans hend hroom⟩
  refine ⟨hbound, ?_, hformattings, hwithin _ (Nat.le_refl _), ?_, ?_⟩
  · intro hfull
    have hopen : ¬ EndsLine markdown.toList := by
      intro hends
      rw [if_pos hends] at htext
      omega
    refine ⟨?_, hopen⟩
    rintro rfl
    exact hopen (by decide)
  · intro hsize
    have hunits := units_le_utf8ByteSize markdown
    exact hwithin _ (by omega)
  · intro limit plan k hmade
    have hlimit := hmade.units_le
    refine ⟨?_, ?_⟩
    · intro offset text hmem
      rw [hmade.insert_mem hmem]
      omega
    · have hclearing := Plan.length_clearing_le (k + emptyBodyEnd)
      have hrequests := length_requests_le (compile markdown)
      rw [hmade.eq, List.length_append]
      omega

/-- An open line that is sent whole takes a unit more than the limit on it. -/
theorem compile_within_content_open :
    "a".utf8ByteSize < 2 ^ 63 ∧ units (compile "a").text = units "a" + 1 ∧
      Plan.Made "a" 1 [.delete ⟨1, 3⟩, .insert 1 "a\n"] 2 ∧
      ("a" ≠ "" ∧ ¬ EndsLine "a".toList) ∧
      compileWithin? (2 ^ 64 - 1) "a" = some (compile "a") ∧
      units "a\n" ≤ 1 + 1 ∧ [Request.delete ⟨1, 3⟩, .insert 1 "a\n"].length ≤ 1 / 2 + 2 := by
  have hcompile : (compile "a").requests = [.insert 1 "a\n"] := by decide +kernel
  have hmade : Plan.Made "a" 1 [.delete ⟨1, 3⟩, .insert 1 "a\n"] 2 :=
    .replace (some 4) (Plan.forReplacement_eq_ok_iff.2 ⟨by decide, by rw [hcompile]; rfl⟩)
  have hsize : "a".utf8ByteSize < 2 ^ 63 := by decide
  have hfull : units (compile "a").text = units "a" + 1 := by decide +kernel
  obtain ⟨-, hopen, -, -, hword, hplan⟩ := compile_within_content "a"
  obtain ⟨hinsert, hlength⟩ := hplan hmade
  exact ⟨hsize, hfull, hmade, hopen hfull, hword hsize, hinsert 1 "a\n" (by decide), hlength⟩

end Scribe.Edit
