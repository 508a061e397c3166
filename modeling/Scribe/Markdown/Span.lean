import Scribe.Text.Search

/-!
# Inline spans

A line is read from left to right as plain runs and delimited runs. An opening delimiter takes the
text up to the next occurrence of the same marker; without one it takes the rest of the line. Two
stars are tried before one. The text of the spans, one after the other, is the line without the
delimiters.
-/

namespace Scribe.Markdown

open Scribe.Text

/-- A run of text under one emphasis. Italic and code text share a flag. -/
structure Span where
  text : String
  bold : Bool
  italicOrCode : Bool
  deriving DecidableEq, Repr

/-- A span without emphasis. -/
def Span.plain (text : String) : Span := ⟨text, false, false⟩

/-- Whether a span carries an emphasis. -/
def Span.isEmphasized (s : Span) : Bool := s.bold || s.italicOrCode

/-- The delimiters of a span. -/
inductive Delimiter where
  | strong
  | emphasis
  | code
  deriving DecidableEq, Repr

/-- The characters of a delimiter, the same at both ends. -/
def Delimiter.marker : Delimiter → List Char
  | .strong => ['*', '*']
  | .emphasis => ['*']
  | .code => ['`']

theorem Delimiter.length_marker_pos (d : Delimiter) : 0 < d.marker.length := by
  cases d <;> decide

/-- The delimiter that a text starts with. -/
def Delimiter.detect? : List Char → Option Delimiter
  | '*' :: '*' :: _ => some .strong
  | '*' :: _ => some .emphasis
  | '`' :: _ => some .code
  | _ => none

/-- The span that a delimiter makes of the text between its markers. -/
def Delimiter.span (d : Delimiter) (text : List Char) : Span :=
  match d with
  | .strong => ⟨.ofList text, true, false⟩
  | .emphasis | .code => ⟨.ofList text, false, true⟩

/-- Whether a character stands for itself in a line. -/
def isPlain (c : Char) : Bool := c != '*' && c != '`'

theorem detect?_eq_none {c : Char} {cs : List Char} (h : Delimiter.detect? (c :: cs) = none) :
    isPlain c = true := by
  unfold Delimiter.detect? at h
  split at h <;> simp_all [isPlain]

/-- The spans of a line. -/
def spansOf (cs : List Char) : List Span :=
  match cs with
  | [] => []
  | c :: rest =>
    match _hd : Delimiter.detect? (c :: rest) with
    | none =>
      .plain (.ofList ((c :: rest).takeWhile isPlain)) :: spansOf ((c :: rest).dropWhile isPlain)
    | some d =>
      match _hb : breakOn d.marker ((c :: rest).drop d.marker.length) with
      | none => [d.span ((c :: rest).drop d.marker.length)]
      | some (inner, behind) => d.span inner :: spansOf behind
termination_by cs.length
decreasing_by
  · have hc := detect?_eq_none _hd
    have := (List.dropWhile_suffix (l := rest) isPlain).length_le
    simp [hc]; omega
  · have hlength := length_breakOn_le _hb
    have hmarker := d.length_marker_pos
    rw [List.length_drop, List.length_cons] at hlength
    rw [List.length_cons]
    omega

/-- The spans of a line given as a text. -/
def parseSpans (line : String) : List Span := spansOf line.toList

end Scribe.Markdown
