import Scribe.Text.Blank

/-!
# Lines

A Markdown text is split at ten line-break characters, where a carriage return with the line feed
behind it is one break, and a break at the very end opens no further line. The role of a line is
decided by its marker alone: the first of `markers` that the line starts with.
-/

namespace Scribe.Markdown

open Scribe.Text

/-! ### Splitting -/

/-- The ten characters that end a line. -/
def lineBreaks : List Char :=
  ['\n', '\r', '\x0b', '\x0c', '\x1c', '\x1d', '\x1e', '\u0085', '\u2028', '\u2029']

/-- Whether a character ends a line. -/
def isLineBreak (c : Char) : Bool := lineBreaks.contains c

/-- What follows the line break at the head: a carriage return takes a line feed with it. -/
def afterBreak : List Char → List Char
  | '\r' :: '\n' :: rest => rest
  | _ :: rest => rest
  | [] => []

theorem length_afterBreak_le (cs : List Char) : (afterBreak cs).length ≤ cs.length - 1 := by
  unfold afterBreak; split <;> simp

/-- The lines of a text, without their breaks. -/
def linesOf (cs : List Char) : List (List Char) :=
  if _h : cs = [] then []
  else
    let rest := cs.dropWhile (!isLineBreak ·)
    cs.takeWhile (!isLineBreak ·) :: linesOf (afterBreak rest)
termination_by cs.length
decreasing_by
  have h1 := length_afterBreak_le (cs.dropWhile (!isLineBreak ·))
  have h2 := (List.dropWhile_suffix (l := cs) (!isLineBreak ·)).length_le
  have h3 : 0 < cs.length := List.length_pos_iff.2 _h
  omega

/-- The lines of a text, without their breaks. -/
def splitLines (s : String) : List String := (linesOf s.toList).map String.ofList

/-! ### Classification -/

/-- The style of a paragraph. -/
inductive ParagraphStyle where
  | heading1
  | heading2
  | heading3
  | body
  deriving DecidableEq, Repr

/-- The written name of a style. -/
def ParagraphStyle.name : ParagraphStyle → String
  | .heading1 => "heading-1"
  | .heading2 => "heading-2"
  | .heading3 => "heading-3"
  | .body => "body"

/-- The opening of a line that decides its role. -/
structure LineMarker where
  text : List Char
  style : ParagraphStyle
  listItem : Bool
  deriving DecidableEq, Repr

/-- The markers, in the order in which they are tried. -/
def markers : List LineMarker :=
  [⟨['#', ' '], .heading1, false⟩,
   ⟨['#', '#', ' '], .heading2, false⟩,
   ⟨['#', '#', '#', ' '], .heading3, false⟩,
   ⟨['-', ' '], .body, true⟩,
   ⟨['*', ' '], .body, true⟩]

/-- The role of a line, and what its marker leaves of it. -/
structure LineClass where
  style : ParagraphStyle
  listItem : Bool
  content : List Char
  deriving DecidableEq, Repr

/-- What a marker makes of a line, if the line starts with it. -/
def LineMarker.classify? (m : LineMarker) (line : List Char) : Option LineClass :=
  if m.text.isPrefixOf line then some ⟨m.style, m.listItem, line.drop m.text.length⟩ else none

/-- The role of a line. Without a marker it is body text, of which a blank line keeps nothing. -/
def classify (line : List Char) : LineClass :=
  match markers.findSome? (·.classify? line) with
  | some role => role
  | none => ⟨.body, false, if line.all isBlank then [] else line⟩

end Scribe.Markdown
