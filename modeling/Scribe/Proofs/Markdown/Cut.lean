import Mathlib.Data.List.Forall2
import Scribe.Proofs.Markdown.Break

/-!
# The one cut of a text into lines

`Cut` says what it is to cut a text into lines, without counting on how the lines are found: a mark
behind each line ends it, only the last line may be open, and a carriage return keeps its line feed.
A text has exactly one cut (`exists_cut`, `Cut.unique`), and its lines are those of `splitLines`
(`splitLines_exact`).

A text is kept as bytes, where a line is a slice between two offsets. `boundsFrom` finds these
offsets in one scan that counts the bytes of each character. None of them falls into a character,
for the scan stands in front of a character or at the end whenever it writes one down
(`forall₂_boundsFrom`).
-/

namespace Scribe.Markdown

/-! ### Cuts -/

/-- What ends a line: a line break, or a carriage return with the line feed behind it. -/
inductive IsMark : List Char → Prop where
  | single {c : Char} (h : isLineBreak c = true) : IsMark [c]
  | pair : IsMark ['\r', '\n']

/-- A line with the mark that ends it; an open line has none. -/
structure EndedLine where
  line : List Char
  mark : List Char

/-- A cut of a text into lines: the text is the lines and their marks, one after the other. -/
inductive Cut : List Char → List EndedLine → Prop where
  | nil : Cut [] []
  /-- Only the last line may be open, and then it is not empty. -/
  | last {line : List Char} : line ≠ [] → Unbroken line → Cut line [⟨line, []⟩]
  /-- A mark ends a line. A carriage return is one only if no line feed follows. -/
  | cons {line mark rest : List Char} {es : List EndedLine} : Unbroken line → IsMark mark →
      (mark = ['\r'] → '\n' ∉ rest.head?) → Cut rest es →
      Cut (line ++ (mark ++ rest)) (⟨line, mark⟩ :: es)

variable {cs : List Char} {es es' : List EndedLine}

/-- A break takes the line feed that goes with it, or it stands alone. -/
theorem afterBreak_cases (c : Char) (rest : List Char) :
    (c = '\r' ∧ rest = '\n' :: afterBreak (c :: rest)) ∨
      (afterBreak (c :: rest) = rest ∧ (c = '\r' → '\n' ∉ rest.head?)) := by
  by_cases hc : c = '\r'
  · subst hc
    match rest with
    | [] => exact .inr ⟨rfl, fun _ h => by cases h⟩
    | d :: rest =>
      by_cases hd : d = '\n'
      · subst hd
        exact .inl ⟨rfl, rfl⟩
      · refine .inr ⟨by simp [afterBreak, hd], fun _ hfeed => hd ?_⟩
        exact Option.some.inj hfeed
  · exact .inr ⟨afterBreak_cons hc rest, fun h => absurd h hc⟩

/-- The mark that a break belongs to is what the break takes. -/
theorem exists_mark {c : Char} (hc : isLineBreak c = true) (rest : List Char) :
    ∃ mark, IsMark mark ∧ mark ++ afterBreak (c :: rest) = c :: rest ∧
      (mark = ['\r'] → '\n' ∉ (afterBreak (c :: rest)).head?) := by
  rcases afterBreak_cases c rest with ⟨rfl, hrest⟩ | ⟨hrest, halone⟩
  · refine ⟨['\r', '\n'], .pair, congrArg ('\r' :: ·) hrest.symm, fun h => ?_⟩
    cases h
  · rw [hrest]
    refine ⟨[c], .single hc, rfl, fun h => halone ?_⟩
    exact List.head_eq_of_cons_eq h

/-- A mark starts with a break, and is what that break takes. -/
theorem IsMark.exists_cons {mark rest : List Char} (h : IsMark mark)
    (hwhole : mark = ['\r'] → '\n' ∉ rest.head?) :
    ∃ c behind, mark ++ rest = c :: behind ∧ isLineBreak c = true ∧
      afterBreak (c :: behind) = rest := by
  cases h with
  | @single c hc =>
    refine ⟨c, rest, rfl, hc, ?_⟩
    rcases afterBreak_cases c rest with ⟨rfl, hrest⟩ | ⟨hrest, -⟩
    · rw [hrest] at hwhole
      exact absurd rfl (hwhole rfl)
    · exact hrest
  | pair => exact ⟨'\r', '\n' :: rest, rfl, rfl, rfl⟩

/-- **Every text has a cut**, into the lines that are found. -/
theorem exists_cut (cs : List Char) : ∃ es, Cut cs es ∧ linesOf cs = es.map (·.line) := by
  induction cs using lines_induction with
  | nil => exact ⟨[], .nil, linesOf_nil⟩
  | last l hne hl => exact ⟨[⟨l, []⟩], .last hne hl, linesOf_unbroken hne hl⟩
  | cons l c rest hl hc ih =>
    obtain ⟨es, hcut, hlines⟩ := ih
    obtain ⟨mark, hmark, hrest, hwhole⟩ := exists_mark hc rest
    have hcons := Cut.cons hl hmark hwhole hcut
    rw [hrest] at hcons
    refine ⟨_, hcons, ?_⟩
    rw [linesOf_append_cons hl hc, hlines]
    rfl

/-! ### No other cut -/

/-- A text has one first break. -/
theorem first_break_unique {l l' r r' : List Char} {c d : Char} (hl : Unbroken l)
    (hl' : Unbroken l') (hc : isLineBreak c = true) (hd : isLineBreak d = true)
    (h : l ++ c :: r = l' ++ d :: r') : l = l' ∧ c = d ∧ r = r' := by
  have htake : ∀ {l r : List Char} {c : Char}, Unbroken l → isLineBreak c = true →
      (l ++ c :: r).takeWhile (!isLineBreak ·) = l := by
    intro l r c hl hc
    rw [List.takeWhile_append_of_pos fun a ha => by rw [hl a ha]; rfl,
      List.takeWhile_cons_of_neg (by simp [hc]), List.append_nil]
  have hline : l = l' := by rw [← htake (r := r) hl hc, h, htake hl' hd]
  subst hline
  exact ⟨rfl, List.cons.inj (List.append_cancel_left h)⟩

theorem Cut.of_nil (h : Cut [] es) : es = [] := by
  generalize hcs : ([] : List Char) = cs at h
  cases h with
  | nil => rfl
  | last hne _ => exact absurd hcs.symm hne
  | cons _ hmark hwhole _ =>
    obtain ⟨c, behind, heq, -, -⟩ := hmark.exists_cons hwhole
    rw [heq] at hcs
    simp at hcs

/-- A text without a break is one open line. -/
theorem Cut.of_unbroken {l : List Char} (h : Cut l es) (hne : l ≠ []) (hl : Unbroken l) :
    es = [⟨l, []⟩] := by
  cases h with
  | nil => exact absurd rfl hne
  | last _ _ => rfl
  | @cons line _ _ _ _ hmark hwhole _ =>
    obtain ⟨c, behind, heq, hc, -⟩ := hmark.exists_cons hwhole
    rw [heq] at hl
    have hbroken : isLineBreak c = false := hl c (by simp)
    rw [hc] at hbroken
    cases hbroken

/-- The first line ends at the first break, and what the break leaves is cut again. -/
theorem Cut.of_break {l rest : List Char} {c : Char} (h : Cut (l ++ c :: rest) es)
    (hl : Unbroken l) (hc : isLineBreak c = true) :
    ∃ mark es', es = ⟨l, mark⟩ :: es' ∧ mark ++ afterBreak (c :: rest) = c :: rest ∧
      Cut (afterBreak (c :: rest)) es' := by
  generalize hcs : l ++ c :: rest = cs at h
  cases h with
  | nil => simp at hcs
  | last _ hline =>
    have hopen : isLineBreak c = false := hline c (hcs ▸ by simp)
    rw [hc] at hopen
    cases hopen
  | @cons line mark behind es' hline hmark hwhole hcut =>
    obtain ⟨d, back, heq, hd, hback⟩ := hmark.exists_cons hwhole
    rw [heq] at hcs
    obtain ⟨rfl, rfl, rfl⟩ := first_break_unique hl hline hc hd hcs
    rw [hback]
    exact ⟨mark, es', rfl, heq, hcut⟩

/-- **A text has no other cut.** -/
theorem Cut.unique (h : Cut cs es) (h' : Cut cs es') : es = es' := by
  induction cs using lines_induction generalizing es es' with
  | nil => rw [h.of_nil, h'.of_nil]
  | last l hne hl => rw [h.of_unbroken hne hl, h'.of_unbroken hne hl]
  | cons l c rest hl hc ih =>
    obtain ⟨mark, es₁, rfl, hmark, hcut⟩ := h.of_break hl hc
    obtain ⟨mark', es₂, rfl, hmark', hcut'⟩ := h'.of_break hl hc
    rw [List.append_cancel_right (hmark.trans hmark'.symm), ih hcut hcut']

/-! ### Slices -/

/-- The slice of a text between two offsets in bytes is a line. Both offsets have to lie in front of
a character, or at the end. -/
structure IsSlice (s : String) (bounds : Nat × Nat) (line : String) : Prop where
  start : (⟨bounds.1⟩ : String.Pos.Raw).IsValid s
  stop : (⟨bounds.2⟩ : String.Pos.Raw).IsValid s
  bytes : s.toByteArray.extract bounds.1 bounds.2 = line.toByteArray

/-- The bounds of the lines in bytes. The scan is at the offset `here`, and the current line has begun
at the offset `start`. -/
def boundsFrom (start here : Nat) : List Char → List (Nat × Nat)
  | [] => if start < here then [(start, here)] else []
  | '\r' :: '\n' :: rest =>
    (start, here) ::
      boundsFrom (here + '\r'.utf8Size + '\n'.utf8Size) (here + '\r'.utf8Size + '\n'.utf8Size) rest
  | c :: rest =>
    if isLineBreak c then (start, here) :: boundsFrom (here + c.utf8Size) (here + c.utf8Size) rest
    else boundsFrom start (here + c.utf8Size) rest

/-- The bounds of the lines of a text in bytes. -/
def lineBounds (s : String) : List (Nat × Nat) := boundsFrom 0 0 s.toList

/-- A part of a text is a slice. It starts behind the bytes in front of it. -/
theorem isSlice_ofList {front line : List Char} {start stop : Nat}
    (hstart : start = (String.ofList front).utf8ByteSize)
    (hstop : stop = (String.ofList (front ++ line)).utf8ByteSize) (back : List Char) :
    IsSlice (.ofList (front ++ line ++ back)) (start, stop) (.ofList line) := by
  subst hstart hstop
  simp only [String.ofList_append]
  refine ⟨?_, ?_, ?_⟩
  · exact String.Pos.Raw.isValid_iff_exists_append.2 ⟨_, _, String.append_assoc, rfl⟩
  · exact String.Pos.Raw.isValid_iff_exists_append.2 ⟨_, _, rfl, rfl⟩
  · simp only [String.toByteArray_append, String.utf8ByteSize_append, ByteArray.append_assoc]
    have hbehind := ByteArray.extract_append_size_add' (i := 0)
      (String.ofList front).size_toByteArray.symm (j := (String.ofList line).utf8ByteSize)
      (b := (String.ofList line).toByteArray ++ (String.ofList back).toByteArray)
    exact hbehind.trans (ByteArray.extract_append_eq_left String.size_toByteArray.symm)

/-- A character more is as many bytes more. -/
theorem utf8ByteSize_ofList_concat (cs : List Char) (c : Char) :
    (String.ofList (cs ++ [c])).utf8ByteSize = (String.ofList cs).utf8ByteSize + c.utf8Size := by
  simp

/-- **The lines are slices.** The scan has passed the text in front of the current line, and the line
up to where it is. -/
theorem forall₂_boundsFrom {start here : Nat} {front line rest : List Char} (hline : Unbroken line)
    (hstart : start = (String.ofList front).utf8ByteSize)
    (hhere : here = (String.ofList (front ++ line)).utf8ByteSize) :
    List.Forall₂ (IsSlice (.ofList (front ++ line ++ rest))) (boundsFrom start here rest)
      ((linesOf (line ++ rest)).map .ofList) := by
  have hempty : Unbroken [] := fun c hc => by cases hc
  fun_induction boundsFrom start here rest generalizing front line with
  | case1 start here hlt =>
    have hne : line ≠ [] := by
      rintro rfl
      rw [hstart, hhere, List.append_nil] at hlt
      exact Nat.lt_irrefl _ hlt
    rw [List.append_nil line, linesOf_unbroken hne hline]
    exact .cons (isSlice_ofList hstart hhere []) .nil
  | case2 start here hle =>
    have hnil : line = [] := by
      rw [hstart, hhere, String.ofList_append, String.utf8ByteSize_append] at hle
      have hzero : (String.ofList line).utf8ByteSize = 0 := by omega
      simpa using hzero
    subst hnil
    rw [List.append_nil [], linesOf_nil]
    exact .nil
  | case3 start here rest ih =>
    -- Both characters are passed, and the next line begins behind them.
    have hbehind : here + '\r'.utf8Size + '\n'.utf8Size =
        (String.ofList (front ++ line ++ ['\r'] ++ ['\n'])).utf8ByteSize := by
      rw [utf8ByteSize_ofList_concat, utf8ByteSize_ofList_concat, hhere]
    have hslices := ih hempty hbehind (by rw [List.append_nil, hbehind])
    rw [List.append_nil, ← List.append_cons, ← List.append_cons, List.nil_append] at hslices
    rw [linesOf_append_cons hline rfl]
    exact .cons (isSlice_ofList hstart hhere _) hslices
  | case4 start here c rest hpair hc ih =>
    -- The break stands alone.
    have halone : afterBreak (c :: rest) = rest := by
      rcases afterBreak_cases c rest with ⟨hreturn, hfeed⟩ | ⟨halone, -⟩
      · exact (hpair _ hreturn hfeed).elim
      · exact halone
    have hbehind : here + c.utf8Size = (String.ofList (front ++ line ++ [c])).utf8ByteSize := by
      rw [utf8ByteSize_ofList_concat, hhere]
    have hslices := ih hempty hbehind (by rw [List.append_nil, hbehind])
    rw [List.append_nil, ← List.append_cons, List.nil_append] at hslices
    rw [linesOf_append_cons hline hc, halone]
    exact .cons (isSlice_ofList hstart hhere _) hslices
  | case5 start here c rest hpair hc ih =>
    -- The current line goes on.
    have hgrown : Unbroken (line ++ [c]) := by
      intro d hd
      rcases List.mem_append.1 hd with hd | hd
      · exact hline d hd
      · rw [List.mem_singleton.1 hd]
        exact Bool.eq_false_iff.2 hc
    have hbehind : here + c.utf8Size = (String.ofList (front ++ (line ++ [c]))).utf8ByteSize := by
      rw [← List.append_assoc, utf8ByteSize_ofList_concat, hhere]
    have hslices := ih hgrown hstart hbehind
    rw [← List.append_assoc, ← List.append_cons, ← List.append_cons] at hslices
    exact hslices

/-! ### Exactness -/

/-- **Splitting is exact.** A text has exactly one cut, and the lines of the text are the lines of
that cut. The line bounds that a scan over the bytes finds are the bounds of these lines, each in
front of a character or at the end. -/
theorem splitLines_exact (s : String) :
    (∃! es, Cut s.toList es) ∧
      (∀ lines, splitLines s = lines ↔
        ∃ es, Cut s.toList es ∧ es.map (fun e => .ofList e.line) = lines) ∧
      List.Forall₂ (IsSlice s) (lineBounds s) (splitLines s) := by
  obtain ⟨es, hcut, hlines⟩ := exists_cut s.toList
  have hsplit : splitLines s = es.map fun e => .ofList e.line := by
    rw [splitLines, hlines, List.map_map]
    rfl
  refine ⟨⟨es, hcut, fun es' hcut' => hcut'.unique hcut⟩, fun lines => ⟨?_, ?_⟩, ?_⟩
  · rintro rfl
    exact ⟨es, hcut, hsplit.symm⟩
  · rintro ⟨es', hcut', rfl⟩
    rw [hcut'.unique hcut, hsplit]
  · -- The scan begins with nothing in front of it.
    have hslices := @forall₂_boundsFrom 0 0 [] [] s.toList (fun c hc => by cases hc) rfl rfl
    rwa [List.append_nil, List.nil_append, String.ofList_toList] at hslices

/-- A pair is one break, its characters the other way round are two, and a break at the end opens no
line. -/
example : splitLines "é\r\nb\n\r\u2028" = ["é", "b", "", ""] ∧
    lineBounds "é\r\nb\n\r\u2028" = [(0, 2), (4, 5), (6, 6), (7, 7)] := by
  cbv

end Scribe.Markdown
