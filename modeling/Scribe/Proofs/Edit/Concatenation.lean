import Scribe.Edit.Compiled
import Scribe.Proofs.Markdown.Break
import Scribe.Proofs.Text.Utf16

/-!
# Compiling parts of a text

Compiling works line by line and counts offsets from the start, so the compiled form of a text in
two parts is that of the first part with that of the second behind it, whose formattings are shifted
by the length of the first text (`Compiled.append`). This holds of blocks without more ado
(`compileBlocks_append`), and of Markdown where the cut is between two lines.
-/

namespace Scribe.Edit

open Text Markdown

/-! ### Shifted formattings -/

/-- An extent, `n` units further on. -/
def Extent.shift (n : Nat) (e : Extent) : Extent := ⟨e.start + n, e.stop + n⟩

/-- A formatting, `n` units further on. -/
def Formatting.shift (n : Nat) : Formatting → Formatting
  | .paragraph e style => .paragraph (e.shift n) style
  | .bullet e => .bullet (e.shift n)
  | .emphasis e bold italicOrCode => .emphasis (e.shift n) bold italicOrCode

theorem emphases_add (offset n : Nat) (ss : List Span) :
    emphases (offset + n) ss = (emphases offset ss).map (.shift n) := by
  induction ss generalizing offset with
  | nil => rfl
  | cons s ss ih =>
    have hrest : offset + n + units s.text = offset + units s.text + n := Nat.add_right_comm ..
    simp only [emphases, List.map_append, hrest, ih]
    congr 1
    split
    · simp only [Extent.ofLength?]
      split
      · simp only [Option.toList_some, List.map_cons, List.map_nil, Formatting.shift, Extent.shift,
          hrest]
      · rfl
    · rfl

theorem formattingsOf_add (offset n : Nat) (b : Block) :
    formattingsOf (offset + n) b = (formattingsOf offset b).map (.shift n) := by
  have hwhole : (⟨offset + n, offset + n + units b.rendered⟩ : Extent) =
      Extent.shift n ⟨offset, offset + units b.rendered⟩ := by
    rw [Extent.shift, Nat.add_right_comm]
  simp only [formattingsOf, hwhole, emphases_add, List.map_append]
  congr 2
  · split <;> rfl
  · split <;> rfl

/-- Formattings that are counted from further on are shifted. -/
theorem formattingsFrom_add (offset n : Nat) (blocks : List Block) :
    formattingsFrom (offset + n) blocks = (formattingsFrom offset blocks).map (.shift n) := by
  induction blocks generalizing offset with
  | nil => rfl
  | cons b rest ih =>
    simp only [formattingsFrom, List.map_append, formattingsOf_add]
    rw [Nat.add_right_comm, ih]

/-! ### One compiled text behind another -/

/-- The compiled form of a text behind another. -/
def Compiled.append (c d : Compiled) : Compiled :=
  ⟨c.text ++ d.text, c.formattings ++ d.formattings.map (.shift (units c.text))⟩

theorem formattingsFrom_append (offset : Nat) (xs ys : List Block) :
    formattingsFrom offset (xs ++ ys) = formattingsFrom offset xs ++
      formattingsFrom (offset + units (String.join (xs.map (·.rendered)))) ys := by
  induction xs generalizing offset with
  | nil => rfl
  | cons x xs ih =>
    rw [List.cons_append, formattingsFrom, formattingsFrom, ih, List.append_assoc, List.map_cons,
      String.join_cons, units_append, Nat.add_assoc]

/-- Blocks compile one after the other. -/
theorem compileBlocks_append (xs ys : List Block) :
    compileBlocks (xs ++ ys) = (compileBlocks xs).append (compileBlocks ys) := by
  simp only [compileBlocks, Compiled.append, List.map_append, String.join_append,
    formattingsFrom_append, formattingsFrom_add]

/-! ### Markdown in two parts -/

/-- A text whose every break is a line feed. -/
def unified (markdown : String) : String := .ofList (unifyBreaks markdown.toList)

/-- Compiling looks at the lines alone. -/
theorem compile_congr {markdown markdown' : String}
    (h : linesOf markdown.toList = linesOf markdown'.toList) :
    compile markdown = compile markdown' := by
  rw [compile, compile, parseBlocks, parseBlocks, h]

/-- **Compiling respects lines.** A text that is cut between two lines compiles to the text of the
first part and that of the second, and to the formattings of the first part and those of the second,
shifted by the length of the first text. Any break may become a line feed, and a last line that is
open may be closed. -/
theorem compile_respects_lines {a b : String} (ha : EndsLine a.toList)
    (hab : ¬ SplitsReturn a.toList b.toList) {opened : String}
    (hopened : ¬ EndsLine opened.toList) :
    (compile (a ++ b)).text = (compile a).text ++ (compile b).text ∧
      (compile (a ++ b)).formattings = (compile a).formattings ++
        (compile b).formattings.map (.shift (units (compile a).text)) ∧
      (∀ markdown, compile (unified markdown) = compile markdown) ∧
      compile (opened ++ "\n") = compile opened := by
  have happend : compile (a ++ b) = (compile a).append (compile b) := by
    rw [compile, compile, compile, ← compileBlocks_append, parseBlocks, String.toList_append,
      linesOf_append ha hab, List.map_append]
    rfl
  refine ⟨congrArg Compiled.text happend, congrArg Compiled.formattings happend, ?_, ?_⟩
  · intro markdown
    apply compile_congr
    rw [unified, String.toList_ofList, linesOf_unifyBreaks]
  · apply compile_congr
    rw [String.toList_append]
    exact linesOf_append_lineFeed hopened

/-- A heading that ends at a line separator, with an empty line and an emphasis behind it: the
emphasis is the only one of the second part, and it is shifted by the four units of the first. -/
theorem compile_respects_lines_separator :
    EndsLine "# 😀!\u2028".toList ∧ ¬ SplitsReturn "# 😀!\u2028".toList "\n*b*".toList ∧
      ¬ EndsLine "*b*".toList ∧
      (compile ("# 😀!\u2028" ++ "\n*b*")).formattings =
        [.paragraph ⟨1, 5⟩ .heading1, .emphasis ⟨6, 7⟩ false true] ∧
      compile ("*b*" ++ "\n") = compile "*b*" := by
  have ha : EndsLine "# 😀!\u2028".toList := by decide
  have hab : ¬ SplitsReturn "# 😀!\u2028".toList "\n*b*".toList := by
    unfold SplitsReturn
    decide
  have hopened : ¬ EndsLine "*b*".toList := by decide
  obtain ⟨-, hformattings, -, hclosed⟩ := compile_respects_lines ha hab hopened
  refine ⟨ha, hab, hopened, ?_, hclosed⟩
  rw [hformattings]
  decide +kernel

end Scribe.Edit
