import Scribe.Edit.Compiled
import Scribe.Proofs.Text.Utf16

/-!
# Replaying an edit

What an edit means is said by replaying it, request by request, on a body whose every UTF-16 unit
carries its formatting. A request that does not fit the body has no meaning, so that a replay also
says that all requests fit.

The compiled form of blocks and the blocks themselves are two descriptions of one body: the blocks
say which formatting each unit *should* carry (`formattedBlock`), and

    replay? (compileBlocks blocks).requests [] = some (blocks.flatMap formattedBlock)

says that the requests bring about exactly that. The proof walks over the blocks, and over the spans
of each, with the finished part of the body in front of the place and the plain part behind it; that
an offset is one more than the length of the finished part is all that the walk keeps.
-/

namespace Scribe.Edit

open Text Markdown

/-! ### Formatted bodies -/

/-- The formatting that one unit carries. -/
structure Format where
  style : ParagraphStyle
  bullet : Bool
  bold : Bool
  italicOrCode : Bool
  deriving DecidableEq, Repr

/-- The formatting of newly inserted text. -/
def Format.plain : Format := ⟨.body, false, false, false⟩

/-- A UTF-16 code unit with its formatting. -/
structure FormattedUnit where
  unit : Nat
  format : Format
  deriving DecidableEq, Repr

/-- A text in one formatting. -/
def written (f : Format) (text : String) : List FormattedUnit :=
  (utf16 text.toList).map fun u => ⟨u, f⟩

/-- The formatting that a block gives to all of its units. -/
def blockFormat (b : Block) : Format := ⟨b.style, b.listItem, false, false⟩

/-- The units of a span of a block, and the formatting that they should have: that of the block, and
the emphasis of the span. -/
def formattedSpan (b : Block) (s : Span) : List FormattedUnit :=
  written ⟨b.style, b.listItem, s.bold, s.italicOrCode⟩ s.text

/-- The units of a block, and the formatting that they should have. The line feed that ends the
block has no emphasis. -/
def formattedBlock (b : Block) : List FormattedUnit :=
  b.spans.flatMap (formattedSpan b) ++ written (blockFormat b) "\n"

/-! ### Replay -/

/-- What a formatting does to the formatting of a unit. An emphasis sets the flags that it names and
leaves the other one as it is. -/
def Formatting.apply : Formatting → Format → Format
  | .paragraph _ style, f => { f with style }
  | .bullet _, f => { f with bullet := true }
  | .emphasis _ bold italicOrCode, f =>
    { f with bold := f.bold || bold, italicOrCode := f.italicOrCode || italicOrCode }

/-- Whether an extent lies in a body of `n` units. -/
def Extent.fits (e : Extent) (n : Nat) : Bool :=
  bodyStart ≤ e.start && e.start ≤ e.stop && e.stop ≤ bodyStart + n

/-- Change the units of an extent. -/
def Extent.change (e : Extent) (f : FormattedUnit → FormattedUnit) (body : List FormattedUnit) :
    List FormattedUnit :=
  body.mapIdx fun i u => if e.start ≤ bodyStart + i ∧ bodyStart + i < e.stop then f u else u

/-- A body after one request, if the request fits it. -/
def Request.replay? : Request → List FormattedUnit → Option (List FormattedUnit)
  | .delete e, body =>
    if e.fits body.length then
      some (body.take (e.start - bodyStart) ++ body.drop (e.stop - bodyStart))
    else none
  | .insert offset text, body =>
    if bodyStart ≤ offset ∧ offset ≤ bodyStart + body.length then
      some (body.take (offset - bodyStart) ++ written .plain text
        ++ body.drop (offset - bodyStart))
    else none
  | .format f, body =>
    if f.extent.fits body.length then
      some (f.extent.change (fun u => { u with format := f.apply u.format }) body)
    else none

/-- A body after the requests of a plan, if they all fit. -/
def replay? (p : List Request) (body : List FormattedUnit) : Option (List FormattedUnit) :=
  p.foldlM (fun body r => r.replay? body) body

@[simp] theorem replay?_nil (body : List FormattedUnit) : replay? [] body = some body := rfl

@[simp] theorem replay?_cons (r : Request) (p : List Request) (body : List FormattedUnit) :
    replay? (r :: p) body = (r.replay? body).bind (replay? p) := rfl

theorem replay?_append (p q : List Request) (body : List FormattedUnit) :
    replay? (p ++ q) body = (replay? p body).bind (replay? q) :=
  List.foldlM_append

/-! ### Written text -/

@[simp] theorem length_written (f : Format) (text : String) :
    (written f text).length = units text := by
  rw [written, List.length_map, length_utf16, units]

theorem written_append (f : Format) (s t : String) :
    written f (s ++ t) = written f s ++ written f t := by
  simp [written]

theorem written_join (f : Format) (ts : List String) :
    written f (String.join ts) = ts.flatMap (written f) := by
  induction ts with
  | nil => rfl
  | cons t ts ih => rw [String.join_cons, written_append, ih, List.flatMap_cons]

/-- Formatting a written text writes it in the new formatting. -/
theorem map_written (g : Formatting) (f : Format) (text : String) :
    (written f text).map (fun u => { u with format := g.apply u.format }) =
      written (g.apply f) text := by
  simp [written]

/-! ### Formatting a part of a body -/

/-- A change of the extent of the middle part changes that part and nothing else. -/
theorem Extent.change_append (f : FormattedUnit → FormattedUnit)
    (before here behind : List FormattedUnit) {e : Extent}
    (hstart : e.start = bodyStart + before.length) (hstop : e.stop = e.start + here.length) :
    e.change f (before ++ here ++ behind) = before ++ here.map f ++ behind := by
  apply List.ext_getElem
  · simp [Extent.change]
  · intro i h _
    simp only [Extent.change, List.length_mapIdx, List.length_append] at h
    simp only [Extent.change, List.getElem_mapIdx, List.getElem_append, List.length_append,
      List.length_map]
    by_cases hb : i < before.length
    · -- in front of the part
      rw [if_neg (by omega), dif_pos (by omega), dif_pos hb, dif_pos (by omega), dif_pos hb]
    · by_cases hh : i < before.length + here.length
      · -- in the part
        rw [if_pos (by omega), dif_pos hh, dif_neg hb, dif_pos hh, dif_neg hb, List.getElem_map]
      · -- behind the part
        rw [if_neg (by omega), dif_neg hh, dif_neg hh]

/-- A formatting of the whole of a written part of a body rewrites that part. -/
theorem replay?_format (g : Formatting) (f : Format) (text : String)
    (before behind : List FormattedUnit) (hstart : g.extent.start = bodyStart + before.length)
    (hstop : g.extent.stop = g.extent.start + units text) :
    replay? ([g].map .format) (before ++ written f text ++ behind) =
      some (before ++ written (g.apply f) text ++ behind) := by
  have hlen : g.extent.stop = g.extent.start + (written f text).length := by
    rw [hstop, length_written]
  have hfits : g.extent.fits (before ++ written f text ++ behind).length = true := by
    simp only [Extent.fits, List.length_append, Bool.and_eq_true, decide_eq_true_eq]
    omega
  rw [List.map_singleton, replay?_cons, Request.replay?, if_pos hfits,
    Extent.change_append _ _ _ _ hstart hlen, map_written]
  rfl

/-! ### The walk over spans and blocks

In each of these lemmas `before` is the finished part of the body, so that the place to go on from
is the offset `bodyStart + before.length`. -/

/-- The formatting of one span gives the span its emphasis. A span without emphasis needs none, and
neither does an empty one, which has no unit to carry it. -/
theorem replay?_span (b : Block) (s : Span) (before behind : List FormattedUnit) :
    replay? ((emphases (bodyStart + before.length) [s]).map .format)
        (before ++ written (blockFormat b) s.text ++ behind) =
      some (before ++ formattedSpan b s ++ behind) := by
  by_cases he : s.isEmphasized = true
  · by_cases hu : 0 < units s.text
    · have hemphases : emphases (bodyStart + before.length) [s] = [.emphasis
          ⟨bodyStart + before.length, bodyStart + before.length + units s.text⟩
          s.bold s.italicOrCode] := by
        simp [emphases, he, Extent.ofLength?, hu]
      rw [hemphases, replay?_format _ _ _ _ _ rfl rfl]
      simp [Formatting.apply, blockFormat, formattedSpan]
    · have hempty : ∀ f, written f s.text = [] := fun f =>
        List.length_eq_zero_iff.1 (by rw [length_written]; omega)
      simp [emphases, he, Extent.ofLength?, hu, formattedSpan, hempty]
  · have hf : blockFormat b = ⟨b.style, b.listItem, s.bold, s.italicOrCode⟩ := by
      simp only [Span.isEmphasized, Bool.or_eq_true, not_or, Bool.not_eq_true] at he
      simp [blockFormat, he]
    simp [emphases, he, formattedSpan, hf]

/-- The formattings of spans give each span its emphasis. -/
theorem replay?_emphases (b : Block) (ss : List Span) (before behind : List FormattedUnit) :
    replay? ((emphases (bodyStart + before.length) ss).map .format)
        (before ++ ss.flatMap (fun s => written (blockFormat b) s.text) ++ behind) =
      some (before ++ ss.flatMap (formattedSpan b) ++ behind) := by
  induction ss generalizing before with
  | nil => simp [emphases]
  | cons s ss ih =>
    have hcons : emphases (bodyStart + before.length) (s :: ss) =
        emphases (bodyStart + before.length) [s] ++
          emphases (bodyStart + (before ++ formattedSpan b s).length) ss := by
      simp [emphases, formattedSpan, Nat.add_assoc]
    have hone := replay?_span b s before
      (ss.flatMap (fun s => written (blockFormat b) s.text) ++ behind)
    have hrest := ih (before ++ formattedSpan b s)
    simp only [List.append_assoc] at hone hrest
    simp only [hcons, List.map_append, replay?_append, List.flatMap_cons, List.append_assoc, hone,
      Option.bind_some, hrest]

/-- The spans of a block make up its text, and a line feed ends it. -/
theorem written_rendered (f : Format) (b : Block) :
    written f b.rendered = b.spans.flatMap (fun s => written f s.text) ++ written f "\n" := by
  rw [Block.rendered, Block.text, written_append, written_join, List.flatMap_map]

/-- The formattings of a block bring its units, so far plain, into the formatting that they should
have. -/
theorem replay?_formattingsOf (b : Block) (before behind : List FormattedUnit) :
    replay? ((formattingsOf (bodyStart + before.length) b).map .format)
        (before ++ written .plain b.rendered ++ behind) =
      some (before ++ formattedBlock b ++ behind) := by
  have hstyle : replay? ((if b.style = .body then [] else [Formatting.paragraph
        ⟨bodyStart + before.length, bodyStart + before.length + units b.rendered⟩ b.style]).map
        .format) (before ++ written .plain b.rendered ++ behind) =
      some (before ++ written ⟨b.style, false, false, false⟩ b.rendered ++ behind) := by
    split
    · next hb => rw [hb]; rfl
    · rw [replay?_format _ _ _ _ _ rfl rfl]
      rfl
  have hbullet : replay? ((if b.listItem = true then [Formatting.bullet
        ⟨bodyStart + before.length, bodyStart + before.length + units b.rendered⟩] else []).map
        .format) (before ++ written ⟨b.style, false, false, false⟩ b.rendered ++ behind) =
      some (before ++ written (blockFormat b) b.rendered ++ behind) := by
    split
    · next hb =>
      rw [replay?_format _ _ _ _ _ rfl rfl, blockFormat, hb]
      rfl
    · next hb => simp [blockFormat, hb]
  have hspans := replay?_emphases b b.spans before (written (blockFormat b) "\n" ++ behind)
  simp only [formattingsOf, List.map_append, replay?_append, hstyle, hbullet, Option.bind_some]
  simpa only [written_rendered, formattedBlock, List.append_assoc] using hspans

/-- The formattings of blocks bring the text of the blocks into the formatting that it should
have. -/
theorem replay?_formattingsFrom (blocks : List Block) (before : List FormattedUnit) :
    replay? ((formattingsFrom (bodyStart + before.length) blocks).map .format)
        (before ++ written .plain (String.join (blocks.map (·.rendered)))) =
      some (before ++ blocks.flatMap formattedBlock) := by
  induction blocks generalizing before with
  | nil => simp [formattingsFrom, written]
  | cons b rest ih =>
    have hlen : (formattedBlock b).length = units b.rendered := by
      rw [← length_written .plain, written_rendered]
      simp [formattedBlock, formattedSpan, List.length_flatMap]
    have hblock := replay?_formattingsOf b before
      (written .plain (String.join (rest.map (·.rendered))))
    have hrest := ih (before ++ formattedBlock b)
    simp only [List.length_append, hlen, ← Nat.add_assoc, List.append_assoc] at hblock hrest
    simp only [formattingsFrom, List.map_append, List.map_cons, String.join_cons, written_append,
      replay?_append, hblock, Option.bind_some, hrest, List.flatMap_cons]

/-! ### Compiled blocks -/

/-- Every block leaves at least its line feed. -/
theorem isEmpty_compileBlocks (blocks : List Block) :
    (compileBlocks blocks).isEmpty = true ↔ blocks = [] := by
  rw [Compiled.isEmpty, String.isEmpty_iff, ← String.toList_eq_nil_iff, compileBlocks,
    String.toList_join, List.flatMap_eq_nil_iff]
  constructor
  · intro h
    cases blocks with
    | nil => rfl
    | cons b rest =>
      have hb := h b.rendered (by simp)
      simp [Block.rendered] at hb
  · rintro rfl
    simp

/-- The blocks describe the text that they compile to. -/
theorem unit_formattedBlocks (blocks : List Block) :
    (blocks.flatMap formattedBlock).map (·.unit) = utf16 (compileBlocks blocks).text.toList := by
  have hunit : ∀ f text, (written f text).map (·.unit) = utf16 text.toList := by
    intro f text
    rw [written, List.map_map]
    exact List.map_id _
  have hblock : ∀ b, (formattedBlock b).map (·.unit) = utf16 b.rendered.toList := by
    intro b
    rw [← hunit .plain, written_rendered]
    simp [formattedBlock, formattedSpan, List.map_flatMap, hunit]
  simp only [List.map_flatMap, hblock, compileBlocks, String.toList_join, utf16, List.flatMap_map,
    List.flatMap_assoc]

/-- **An edit means its blocks.** Replayed on an empty body, the requests of compiled blocks give
every unit of the text the style and the bullet of its block and the emphasis of its span, and
nothing else; the line feeds that end the blocks get no emphasis. There are no requests exactly when
there are no blocks. -/
theorem replay?_requests_compileBlocks (blocks : List Block) :
    replay? (compileBlocks blocks).requests [] = some (blocks.flatMap formattedBlock) ∧
      (blocks.flatMap formattedBlock).map (·.unit) = utf16 (compileBlocks blocks).text.toList ∧
      ((compileBlocks blocks).requests = [] ↔ blocks = []) := by
  refine ⟨?_, unit_formattedBlocks blocks, ?_⟩
  · rw [Compiled.requests]
    split
    · next h => rw [(isEmpty_compileBlocks blocks).1 h]; rfl
    · have hinsert : (Request.insert bodyStart (compileBlocks blocks).text).replay? [] =
          some (written .plain (String.join (blocks.map (·.rendered)))) := by
        simp [Request.replay?, compileBlocks]
      rw [replay?_cons, hinsert, Option.bind_some]
      exact replay?_formattingsFrom blocks []
  · rw [← isEmpty_compileBlocks, Compiled.requests]
    split
    · next h => simp [h]
    · next h => simp [h]

end Scribe.Edit
