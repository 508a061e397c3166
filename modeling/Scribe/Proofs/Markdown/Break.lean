import Mathlib.Data.List.Basic
import Scribe.Proofs.Markdown.Line

/-!
# Line breaks and the lines between them

Which characters break a text into its lines does not show in the lines. A text may be cut behind
any break, except between a carriage return and the line feed that goes with it, and its lines are
those of the two parts (`linesOf_append`); every break may become a line feed
(`linesOf_unifyBreaks`); and a text whose last line is open may have it closed
(`linesOf_append_lineFeed`). All three go through a text line by line (`lines_induction`), and each
has to look across only one break.
-/

namespace Scribe.Markdown

/-! ### Line by line -/

/-- A text is empty, or it is one open line, or it is a line, a break and the text behind the
break. -/
theorem lines_induction {motive : List Char → Prop} (nil : motive [])
    (last : ∀ l, l ≠ [] → Unbroken l → motive l)
    (cons : ∀ l c rest, Unbroken l → isLineBreak c = true → motive (afterBreak (c :: rest)) →
      motive (l ++ c :: rest)) (cs : List Char) : motive cs := by
  fun_induction linesOf cs with
  | case1 => exact nil
  | case2 cs hne rest ih =>
    have hcut : cs.takeWhile (!isLineBreak ·) ++ rest = cs := List.takeWhile_append_dropWhile
    have hline : Unbroken (cs.takeWhile (!isLineBreak ·)) := by
      intro c hc
      simpa using List.mem_takeWhile_imp hc
    cases hrest : rest with
    | nil =>
      rw [hrest, List.append_nil] at hcut
      exact last cs hne (hcut ▸ hline)
    | cons c behind =>
      have hbreak : isLineBreak c = true := by
        have hhead := List.head?_dropWhile_not (!isLineBreak ·) cs
        rw [show cs.dropWhile (!isLineBreak ·) = c :: behind from hrest] at hhead
        simpa using hhead
      rw [← hcut, hrest]
      exact cons _ c behind hline hbreak (hrest ▸ ih)

/-- An open line is the only one. -/
theorem linesOf_unbroken {l : List Char} (hne : l ≠ []) (h : Unbroken l) : linesOf l = [l] := by
  have hall : ∀ c ∈ l, (!isLineBreak c) = true := fun c hc => by rw [h c hc]; rfl
  have htake : l.takeWhile (!isLineBreak ·) = l := List.takeWhile_eq_self_iff.2 hall
  have hdrop : l.dropWhile (!isLineBreak ·) = [] := List.dropWhile_eq_nil_iff.2 hall
  rw [linesOf, dif_neg hne, htake, hdrop]
  exact congrArg (l :: ·) linesOf_nil

/-! ### Cutting a text between two lines -/

/-- No line is open at the end of a text: it is empty or ends with a break. -/
def EndsLine (cs : List Char) : Prop := ∀ c ∈ cs.getLast?, isLineBreak c = true

instance (cs : List Char) : Decidable (EndsLine cs) :=
  decidable_of_iff (cs.getLast?.all isLineBreak = true) (Option.all_eq_true _ _)

/-- A carriage return at the end of one text goes with a line feed at the start of the other. -/
def SplitsReturn (a b : List Char) : Prop := '\r' ∈ a.getLast? ∧ '\n' ∈ b.head?

/-- What a break takes ends with a break, also a carriage return with its line feed. -/
theorem exists_append_afterBreak {c : Char} (hc : isLineBreak c = true) (rest : List Char) :
    ∃ front d, c :: rest = front ++ d :: afterBreak (c :: rest) ∧ isLineBreak d = true := by
  unfold afterBreak
  split
  · next rest' heq => exact ⟨['\r'], '\n', heq, rfl⟩
  · next c' rest' _ heq =>
    cases heq
    exact ⟨[], c, rfl, hc⟩
  · next heq => cases heq

/-- What stands behind a break, if that is anything, ends like the whole text. -/
theorem mem_getLast?_of_afterBreak {c : Char} (hc : isLineBreak c = true) {l rest : List Char}
    {d : Char} (h : d ∈ (afterBreak (c :: rest)).getLast?) : d ∈ (l ++ c :: rest).getLast? := by
  obtain ⟨front, e, hfront, -⟩ := exists_append_afterBreak hc rest
  rw [hfront, List.append_cons, ← List.append_assoc]
  exact List.mem_getLast?_append_of_mem_getLast? h

/-- Whether a line is open at the end shows behind any break. -/
theorem endsLine_append_cons {c : Char} (hc : isLineBreak c = true) (l rest : List Char) :
    EndsLine (l ++ c :: rest) ↔ EndsLine (afterBreak (c :: rest)) := by
  constructor
  · intro h d hd
    exact h d (mem_getLast?_of_afterBreak hc hd)
  · intro h d hd
    obtain ⟨front, e, hfront, he⟩ := exists_append_afterBreak hc rest
    rw [hfront, List.getLast?_append, List.getLast?_append, List.getLast?_cons, Option.some_or,
      Option.some_or, Option.mem_some_iff] at hd
    cases hbehind : (afterBreak (c :: rest)).getLast? with
    | none =>
      rw [hbehind, Option.getD_none] at hd
      rwa [← hd]
    | some last =>
      rw [hbehind, Option.getD_some] at hd
      rw [← hd]
      exact h last hbehind

/-- A break takes nothing of what is appended, unless it is a carriage return and a line feed
follows. -/
theorem afterBreak_append {c : Char} {rest b : List Char} (h : ¬ SplitsReturn (c :: rest) b) :
    afterBreak (c :: rest ++ b) = afterBreak (c :: rest) ++ b := by
  by_cases hc : c = '\r'
  · subst hc
    match rest, b with
    | [], [] => rfl
    | [], d :: b =>
      have hd : d ≠ '\n' := by
        rintro rfl
        exact h ⟨rfl, rfl⟩
      simp [afterBreak, hd]
    | d :: rest, b =>
      by_cases hd : d = '\n'
      · subst hd
        rfl
      · simp [afterBreak, hd]
  · rw [List.cons_append, afterBreak_cons hc, afterBreak_cons hc]

/-- **The lines of two texts** are those of the one in front of those of the other. -/
theorem linesOf_append {a b : List Char} (ha : EndsLine a) (hab : ¬ SplitsReturn a b) :
    linesOf (a ++ b) = linesOf a ++ linesOf b := by
  induction a using lines_induction with
  | nil => rw [linesOf_nil, List.nil_append, List.nil_append]
  | last l hne hl =>
    -- An open line at the end is not what was cut behind.
    have hlast := ha _ (List.getLast_mem_getLast? hne)
    rw [hl _ (List.getLast_mem hne)] at hlast
    cases hlast
  | cons l c rest hl hc ih =>
    have hbehind : ¬ SplitsReturn (c :: rest) b := fun h =>
      hab ⟨List.mem_getLast?_append_of_mem_getLast? h.1, h.2⟩
    have hrest := ih ((endsLine_append_cons hc l rest).1 ha)
      fun h => hab ⟨mem_getLast?_of_afterBreak hc h.1, h.2⟩
    rw [List.append_assoc, List.cons_append, linesOf_append_cons hl hc, ← List.cons_append,
      afterBreak_append hbehind, hrest, linesOf_append_cons hl hc, List.cons_append]

/-! ### One break for another -/

/-- A text in which every break is a line feed; a carriage return with its line feed is one
break. -/
def unifyBreaks : List Char → List Char
  | '\r' :: '\n' :: rest => '\n' :: unifyBreaks rest
  | c :: rest => (if isLineBreak c then '\n' else c) :: unifyBreaks rest
  | [] => []

/-- A break becomes a line feed, with what goes with it. -/
theorem unifyBreaks_cons {c : Char} (hc : isLineBreak c = true) (rest : List Char) :
    unifyBreaks (c :: rest) = '\n' :: unifyBreaks (afterBreak (c :: rest)) := by
  unfold afterBreak
  split
  · next heq => rw [heq, unifyBreaks]
  · next c' rest' hreturn heq =>
    rw [heq, unifyBreaks]
    · cases heq
      rw [if_pos hc]
    · intro rest'' hc' hrest'
      exact hreturn rest'' hc' hrest'
  · next heq => cases heq

/-- A line stays as it is. -/
theorem unifyBreaks_append {l : List Char} (hl : Unbroken l) (cs : List Char) :
    unifyBreaks (l ++ cs) = l ++ unifyBreaks cs := by
  induction l with
  | nil => rfl
  | cons c l ih =>
    have hc : isLineBreak c = false := hl c List.mem_cons_self
    rw [List.cons_append, unifyBreaks, hc, ih fun d hd => hl d (List.mem_cons_of_mem _ hd)]
    · rfl
    · rintro _ rfl
      cases hc

/-- **The kind of a break** does not show in the lines. -/
theorem linesOf_unifyBreaks (cs : List Char) : linesOf (unifyBreaks cs) = linesOf cs := by
  induction cs using lines_induction with
  | nil => rfl
  | last l hne hl =>
    have hself : unifyBreaks l = l := by
      have h := unifyBreaks_append hl []
      rwa [List.append_nil, unifyBreaks, List.append_nil] at h
    rw [hself]
  | cons l c rest hl hc ih =>
    rw [unifyBreaks_append hl, unifyBreaks_cons hc, linesOf_append_cons hl (by decide),
      afterBreak_cons (by decide), ih, linesOf_append_cons hl hc]

/-- **A break at the end** closes the open line and opens no other. -/
theorem linesOf_append_lineFeed {cs : List Char} (h : ¬ EndsLine cs) :
    linesOf (cs ++ ['\n']) = linesOf cs := by
  induction cs using lines_induction with
  | nil => exact absurd (fun c hc => by cases hc) h
  | last l hne hl =>
    rw [linesOf_append_cons hl (by decide), afterBreak_cons (by decide), linesOf_nil,
      linesOf_unbroken hne hl]
  | cons l c rest hl hc ih =>
    -- A carriage return at the very end would end the line.
    have hreturn : ¬ SplitsReturn (c :: rest) ['\n'] := by
      rintro ⟨hlast, -⟩
      apply h
      intro d hd
      have hreturn : '\r' ∈ (l ++ c :: rest).getLast? :=
        List.mem_getLast?_append_of_mem_getLast? hlast
      rw [Option.mem_unique hd hreturn]
      rfl
    have hbehind : ¬ EndsLine (afterBreak (c :: rest)) :=
      fun hends => h ((endsLine_append_cons hc l rest).2 hends)
    rw [List.append_assoc, List.cons_append, linesOf_append_cons hl hc, ← List.cons_append,
      afterBreak_append hreturn, ih hbehind, linesOf_append_cons hl hc]

end Scribe.Markdown
