import Scribe.Text.Lines

/-!
# Lines and cuts

`Lines` says what the lines of a text are without counting on how they are found: each ends at a
line feed, and only a last one may lack it. These are the lines that `feedLines` finds
(`feedLines_eq_iff`), and a text that is cut behind a line feed has the lines of its two parts
(`feedLines_append`).
-/

namespace Scribe.Text

variable {α : Type} [BEq α] [LawfulBEq α] {lf cr : α}

/-- The lines of a text. Only a line that a line feed ends loses a carriage return. -/
inductive Lines (lf cr : α) : List α → List (List α) → Prop where
  | nil : Lines lf cr [] []
  | last {line : List α} : line ≠ [] → lf ∉ line → Lines lf cr line [line]
  | cons {line rest : List α} {lines : List (List α)} : lf ∉ line → Lines lf cr rest lines →
      Lines lf cr (line ++ lf :: rest) (dropReturn cr line :: lines)

/-- The part of the current line that has been passed belongs to the text. -/
theorem lines_feedLinesFrom {done : List α} (hdone : lf ∉ done) (text : List α) :
    Lines lf cr (done.reverse ++ text) (feedLinesFrom lf cr done text) := by
  have hreverse : lf ∉ done.reverse := fun h => hdone (List.mem_reverse.1 h)
  induction text generalizing done with
  | nil =>
    rw [feedLinesFrom, List.append_nil]
    cases done with
    | nil => exact .nil
    | cons c done => exact .last (by simp) hreverse
  | cons c cs ih =>
    rw [feedLinesFrom]
    by_cases hc : c = lf
    · subst hc
      rw [if_pos (beq_self_eq_true c)]
      exact .cons hreverse (ih List.not_mem_nil List.not_mem_nil)
    · rw [if_neg (by simpa using hc)]
      have hnext : lf ∉ c :: done := by simpa using ⟨Ne.symm hc, hdone⟩
      simpa using ih hnext fun h => hnext (List.mem_reverse.1 h)

/-- Up to a line feed the characters are passed. -/
theorem feedLinesFrom_append {line : List α} (hline : lf ∉ line) (done rest : List α) :
    feedLinesFrom lf cr done (line ++ rest) = feedLinesFrom lf cr (line.reverse ++ done) rest := by
  induction line generalizing done with
  | nil => rfl
  | cons c line ih =>
    have hc : ¬ c = lf := fun h => hline (h ▸ List.mem_cons_self)
    have hmore : lf ∉ line := fun h => hline (List.mem_cons_of_mem c h)
    rw [List.cons_append, feedLinesFrom, if_neg (by simpa using hc), ih hmore]
    simp

/-- **The lines that are found are the lines of the text**, which has no others. -/
theorem feedLines_eq_iff {text : List α} {lines : List (List α)} :
    feedLines lf cr text = lines ↔ Lines lf cr text lines := by
  constructor
  · rintro rfl
    exact lines_feedLinesFrom List.not_mem_nil text
  · intro h
    induction h with
    | nil => rfl
    | @last line hne hline =>
      have hpassed : feedLinesFrom lf cr [] (line ++ []) =
          feedLinesFrom lf cr (line.reverse ++ []) [] :=
        feedLinesFrom_append hline [] []
      rw [List.append_nil, List.append_nil, feedLinesFrom] at hpassed
      rw [feedLines, hpassed]
      simp [hne]
    | cons hline _ ih =>
      rw [feedLines, feedLinesFrom_append hline, feedLinesFrom, if_pos (beq_self_eq_true lf),
        ← feedLines, ih]
      simp

/-- Behind a line feed the lines start afresh. -/
theorem feedLines_append (first second : List α) :
    feedLines lf cr (first ++ lf :: second) =
      feedLines lf cr (first ++ [lf]) ++ feedLines lf cr second := by
  have hfrom : ∀ done, feedLinesFrom lf cr done (first ++ lf :: second) =
      feedLinesFrom lf cr done (first ++ [lf]) ++ feedLines lf cr second := by
    induction first with
    | nil =>
      intro done
      rw [List.nil_append, List.nil_append, feedLinesFrom, feedLinesFrom,
        if_pos (beq_self_eq_true lf), if_pos (beq_self_eq_true lf)]
      rfl
    | cons c first ih =>
      intro done
      rw [List.cons_append, List.cons_append, feedLinesFrom, feedLinesFrom]
      split
      · rw [ih, List.cons_append]
      · exact ih _
  exact hfrom []

end Scribe.Text
