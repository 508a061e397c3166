import Scribe.Text.Blank

/-!
# Written text

Rendering appends to one text, looks at its end, and now and then reworks what was written from some
place on. The text is kept with its last character first, next to its length in bytes, so that a
step costs no more than the characters it touches. `text` is the text itself, and `text_push` and
`text_cutAt` say what an operation does to it.
-/

namespace Scribe.Export

/-- A text under construction: its characters, the last one first, and its length in bytes. -/
structure Written where
  reversed : List Char
  size : Nat

namespace Written

/-- Nothing is written. -/
def empty : Written := ⟨[], 0⟩

/-- The text itself. -/
def text (w : Written) : List Char := w.reversed.reverse

/-- The last character. -/
def last? (w : Written) : Option Char := w.reversed.head?

/-- Append characters. -/
def push (w : Written) : List Char → Written
  | [] => w
  | c :: cs => push ⟨c :: w.reversed, w.size + c.utf8Size⟩ cs

/-- Append a text. -/
def pushText (w : Written) (s : String) : Written := w.push s.toList

/-- Whether the text ends at the start of a line, spaces apart. -/
def atLineStart (w : Written) : Bool :=
  match w.reversed.dropWhile (· == ' ') with
  | [] => true
  | c :: _ => c == '\n'

/-- Take characters off the end down to a length in bytes; `behind` follows them. -/
def cutFrom (start : Nat) : List Char → Nat → List Char → Written × List Char
  | [], size, behind => (⟨[], size⟩, behind)
  | c :: cs, size, behind =>
    if start + c.utf8Size ≤ size then cutFrom start cs (size - c.utf8Size) (c :: behind)
    else (⟨c :: cs, size⟩, behind)

/-- The text cut at an offset in bytes: what was written before it, and the characters since. -/
def cutAt (w : Written) (start : Nat) : Written × List Char := cutFrom start w.reversed w.size []

@[simp] theorem text_empty : empty.text = [] := rfl

@[simp] theorem text_push (w : Written) (cs : List Char) : (w.push cs).text = w.text ++ cs := by
  induction cs generalizing w with
  | nil => simp [push]
  | cons c cs ih => rw [push, ih]; simp [text]

theorem text_cutFrom (start : Nat) (cs : List Char) (size : Nat) (behind : List Char) :
    (cutFrom start cs size behind).1.text ++ (cutFrom start cs size behind).2 =
      cs.reverse ++ behind := by
  induction cs generalizing size behind with
  | nil => rfl
  | cons c cs ih =>
    simp only [cutFrom]
    split
    · simp [ih]
    · rfl

/-- Nothing is lost at a cut. -/
theorem text_cutAt (w : Written) (start : Nat) :
    (w.cutAt start).1.text ++ (w.cutAt start).2 = w.text := by
  simpa [cutAt, text] using text_cutFrom start w.reversed w.size []

end Written

end Scribe.Export
