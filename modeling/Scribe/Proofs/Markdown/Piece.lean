import Mathlib.Data.List.TakeWhile
import Scribe.Proofs.Markdown.Span
import Scribe.Proofs.Text.Search

/-!
# The one reading of a line

A line is made of pieces: plain runs, closed pieces between two markers, and perhaps a last piece that
a marker opens and nothing closes. `Reading` says when pieces are a reading of a line, without
counting on how they are found. The first piece and what is behind it are settled by the line
(`Fits.unique`), so a line has no two readings; and the spans of a line are the spans of one
(`exists_reading`).
-/

namespace Scribe.Markdown

open Text

/-! ### Pieces -/

/-- A piece of a line. -/
inductive Piece where
  | plain (text : List Char)
  | closed (d : Delimiter) (text : List Char)
  | opened (d : Delimiter) (text : List Char)

namespace Piece

/-- The characters of a piece, with its markers. -/
def source : Piece → List Char
  | plain text => text
  | closed d text => d.marker ++ text ++ d.marker
  | opened d text => d.marker ++ text

/-- The span that a piece stands for. -/
def span : Piece → Span
  | plain text => .plain (.ofList text)
  | closed d text => d.span text
  | opened d text => d.span text

/-- Whether a piece is a marker that nothing closes. -/
def isOpened : Piece → Bool
  | opened .. => true
  | _ => false

/-- What a piece has to be where it stands, with a text in front of it and one behind it. -/
inductive Fits (front back : List Char) : Piece → Prop where
  /-- A plain run is as long as it can be. -/
  | plain {text : List Char} : text ≠ [] → (∀ c ∈ text, isPlain c = true) →
      (∀ c ∈ front.getLast?, isPlain c = false) → (∀ c ∈ back.head?, isPlain c = false) →
      Fits front back (.plain text)
  /-- Two stars are closed by the next two. -/
  | strong {text : List Char} : OnlyAtEnd ['*', '*'] text → Fits front back (.closed .strong text)
  | emphasis {text : List Char} : text ≠ [] → '*' ∉ text → Fits front back (.closed .emphasis text)
  | code {text : List Char} : '`' ∉ text → Fits front back (.closed .code text)
  /-- What nothing closes goes on to the end of the line. A single star is not followed by another. -/
  | opened {d : Delimiter} {text : List Char} : back = [] → ¬ d.marker <:+: text →
      (d = .emphasis → '*' ∉ text.head?) → Fits front back (.opened d text)

end Piece

/-- The pieces are a reading of a line, or of the part of it that stands behind another text. -/
inductive Reading : List Char → List Char → List Piece → Prop where
  | nil {front : List Char} : Reading front [] []
  | cons {front back : List Char} {p : Piece} {ps : List Piece} : p.Fits front back →
      Reading (front ++ p.source) back ps → Reading front (p.source ++ back) (p :: ps)

variable {front front' back back' cs : List Char} {p p' : Piece} {ps ps' : List Piece}
  {d : Delimiter}

/-! ### Delimiters -/

theorem detect?_eq_some_iff :
    Delimiter.detect? cs = some d ↔
      ∃ body, cs = d.marker ++ body ∧ (d = .emphasis → '*' ∉ body.head?) := by
  constructor
  · intro h
    unfold Delimiter.detect? at h
    split at h
    · next rest =>
      cases h
      exact ⟨rest, rfl, fun h => by cases h⟩
    · next rest hstar =>
      cases h
      refine ⟨rest, rfl, fun _ hhead => ?_⟩
      obtain ⟨rest', rfl⟩ := List.head?_eq_some_iff.1 hhead
      exact hstar rest' rfl
    · next rest =>
      cases h
      exact ⟨rest, rfl, fun h => by cases h⟩
    · cases h
  · rintro ⟨body, rfl, hbody⟩
    cases d with
    | strong => rfl
    | code => rfl
    | emphasis =>
      match body with
      | [] => rfl
      | c :: body =>
        have hc : c ≠ '*' := fun h => hbody rfl (h ▸ rfl)
        simp [Delimiter.marker, Delimiter.detect?, hc]

theorem detect?_cons_of_isPlain {c : Char} (hc : isPlain c = true) (cs : List Char) :
    Delimiter.detect? (c :: cs) = none := by
  unfold Delimiter.detect?
  split <;> simp_all [isPlain]

theorem marker_ne_nil (d : Delimiter) : d.marker ≠ [] :=
  List.ne_nil_of_length_pos d.length_marker_pos

/-! ### The first piece -/

namespace Piece

/-- The delimiter that a piece starts with. -/
def delimiter? : Piece → Option Delimiter
  | plain _ => none
  | closed d _ | opened d _ => some d

theorem Fits.source_ne_nil (h : p.Fits front back) : p.source ≠ [] := by
  cases h with
  | plain hne => exact hne
  | _ => simp [source, marker_ne_nil]

/-- A piece is seen by the delimiter at its start. -/
theorem Fits.detect? (h : p.Fits front back) :
    Delimiter.detect? (p.source ++ back) = p.delimiter? := by
  cases h with
  | @plain text hne hplain =>
    obtain ⟨c, text, rfl⟩ := List.exists_cons_of_ne_nil hne
    exact detect?_cons_of_isPlain (hplain c List.mem_cons_self) (text ++ back)
  | strong => rfl
  | @emphasis text hne hstar =>
    obtain ⟨c, text, rfl⟩ := List.exists_cons_of_ne_nil hne
    apply detect?_eq_some_iff.2
    refine ⟨c :: text ++ ['*'] ++ back, by simp [source, Delimiter.marker], fun _ hhead => ?_⟩
    rw [show c = '*' from Option.some.inj hhead] at hstar
    exact hstar List.mem_cons_self
  | code => rfl
  | opened hback _ hhead =>
    apply detect?_eq_some_iff.2
    exact ⟨_, by rw [source, hback, List.append_nil], hhead⟩

/-- A plain run is all that is plain at the start. -/
theorem Fits.takeWhile_plain {text : List Char} (h : (Piece.plain text).Fits front back) :
    (text ++ back).takeWhile isPlain = text := by
  cases h with
  | plain _ hplain _ hback =>
    rw [List.takeWhile_append_of_pos hplain]
    cases back with
    | nil => exact List.append_nil text
    | cons c back =>
      have hc : ¬ isPlain c = true := by
        rw [hback c rfl]
        exact Bool.false_ne_true
      rw [List.takeWhile_cons_of_neg hc, List.append_nil]

/-- A closed piece ends at the first marker behind the one that it starts with. -/
theorem Fits.breakOn_closed {text : List Char} (h : (Piece.closed d text).Fits front back) :
    breakOn d.marker (text ++ d.marker ++ back) = some (text, back) := by
  apply (breakOn_eq_some_iff (marker_ne_nil d)).2
  refine ⟨rfl, ?_⟩
  cases h with
  | strong hend => exact hend
  | emphasis _ hstar => exact onlyAtEnd_singleton.2 hstar
  | code htick => exact onlyAtEnd_singleton.2 htick

/-- Behind the marker of an opened piece there is no other. -/
theorem Fits.breakOn_opened {text : List Char} (h : (Piece.opened d text).Fits front back) :
    back = [] ∧ breakOn d.marker text = none := by
  cases h with
  | opened hback hnone => exact ⟨hback, (breakOn_eq_none_iff (marker_ne_nil d)).2 hnone⟩

/-- **The first piece is settled by the line**, and with it what is behind it. -/
theorem Fits.unique (h : p.Fits front back) (h' : p'.Fits front' back')
    (heq : p.source ++ back = p'.source ++ back') : p = p' ∧ back = back' := by
  have hdelimiter : p.delimiter? = p'.delimiter? := by rw [← h.detect?, heq, h'.detect?]
  cases p with
  | plain text =>
    cases p' with
    | plain text' =>
      -- both are the run at the start
      have htext : text = text' := by
        rw [← h.takeWhile_plain, ← h'.takeWhile_plain]
        exact congrArg _ heq
      subst htext
      exact ⟨rfl, List.append_cancel_left heq⟩
    | closed => cases hdelimiter
    | opened => cases hdelimiter
  | closed d text =>
    have hbreak := h.breakOn_closed
    cases p' with
    | plain => cases hdelimiter
    | closed d' text' =>
      cases hdelimiter
      simp only [source, List.append_assoc, List.append_cancel_left_eq] at heq
      rw [List.append_assoc, heq, ← List.append_assoc, h'.breakOn_closed] at hbreak
      cases hbreak
      exact ⟨rfl, rfl⟩
    | opened d' text' =>
      cases hdelimiter
      obtain ⟨rfl, hnone⟩ := h'.breakOn_opened
      simp only [source, List.append_assoc, List.append_cancel_left_eq, List.append_nil] at heq
      rw [List.append_assoc, heq, hnone] at hbreak
      cases hbreak
  | opened d text =>
    obtain ⟨rfl, hnone⟩ := h.breakOn_opened
    cases p' with
    | plain => cases hdelimiter
    | closed d' text' =>
      cases hdelimiter
      simp only [source, List.append_assoc, List.append_cancel_left_eq, List.append_nil] at heq
      rw [heq, ← List.append_assoc, h'.breakOn_closed] at hnone
      cases hnone
    | opened d' text' =>
      cases hdelimiter
      obtain ⟨rfl, -⟩ := h'.breakOn_opened
      simp only [source, List.append_cancel_left_eq, List.append_nil] at heq
      exact ⟨by rw [heq], rfl⟩

end Piece

/-- **A line has no two readings**, whatever stands in front of it. -/
theorem Reading.unique (h : Reading front cs ps) (h' : Reading front' cs ps') : ps = ps' := by
  induction h generalizing front' ps' with
  | nil =>
    generalize hcs : ([] : List Char) = cs at h'
    cases h' with
    | nil => rfl
    | cons hfits _ => exact absurd (List.append_eq_nil_iff.1 hcs.symm).1 hfits.source_ne_nil
  | @cons _ back p ps hfits _ ih =>
    generalize hcs : p.source ++ back = cs at h'
    cases h' with
    | nil => exact absurd (List.append_eq_nil_iff.1 hcs).1 hfits.source_ne_nil
    | cons hfits' hrest' =>
      obtain ⟨rfl, rfl⟩ := hfits.unique hfits' hcs
      rw [ih hrest']

/-! ### The reading that is found -/

/-- The rest of a line without a closing marker is one piece. -/
theorem fits_opened (front : List Char) (hd : Delimiter.detect? cs = some d)
    (hb : breakOn d.marker (cs.drop d.marker.length) = none) :
    (Piece.opened d (cs.drop d.marker.length)).Fits front [] := by
  obtain ⟨body, rfl, hhead⟩ := detect?_eq_some_iff.1 hd
  rw [List.drop_left] at hb ⊢
  exact .opened rfl ((breakOn_eq_none_iff (marker_ne_nil d)).1 hb) hhead

/-- The text up to the closing marker is one piece. -/
theorem fits_closed (front : List Char) {inner behind : List Char}
    (hd : Delimiter.detect? cs = some d)
    (hb : breakOn d.marker (cs.drop d.marker.length) = some (inner, behind)) :
    (Piece.closed d inner).Fits front behind := by
  obtain ⟨body, rfl, hhead⟩ := detect?_eq_some_iff.1 hd
  rw [List.drop_left] at hb
  obtain ⟨rfl, hend⟩ := (breakOn_eq_some_iff (marker_ne_nil d)).1 hb
  cases d with
  | strong => exact .strong hend
  | emphasis =>
    refine .emphasis ?_ (onlyAtEnd_singleton.1 hend)
    -- An empty text would make the two markers a pair of stars.
    rintro rfl
    exact hhead rfl rfl
  | code => exact .code (onlyAtEnd_singleton.1 hend)

theorem isPlain_of_mem_head?_dropWhile {c : Char} (hc : c ∈ (cs.dropWhile isPlain).head?) :
    isPlain c = false := by
  have hbehind := List.head?_dropWhile_not isPlain cs
  rw [hc] at hbehind
  exact hbehind

/-- The run at the start of a line is one piece, unless it goes on from the text in front. -/
theorem fits_plain {c : Char} (cs : List Char) (hc : isPlain c = true)
    (hfront : ∀ c ∈ front.getLast?, isPlain c = false) :
    (Piece.plain ((c :: cs).takeWhile isPlain)).Fits front ((c :: cs).dropWhile isPlain) := by
  refine .plain ?_ (fun c hmem => List.mem_takeWhile_imp hmem) hfront
    fun c hc => isPlain_of_mem_head?_dropWhile hc
  rw [List.takeWhile_cons_of_pos hc]
  exact List.cons_ne_nil _ _

theorem isPlain_of_mem_marker (d : Delimiter) : ∀ c ∈ d.marker, isPlain c = false := by
  cases d <;> simp [Delimiter.marker, isPlain]

/-- A marker ends what is closed, so that a plain run may follow. -/
theorem isPlain_of_mem_getLast?_closed {text : List Char} {c : Char}
    (hc : c ∈ (front ++ (Piece.closed d text).source).getLast?) : isPlain c = false := by
  rw [Piece.source, ← List.append_assoc,
    List.getLast?_append_of_ne_nil _ (marker_ne_nil d)] at hc
  exact isPlain_of_mem_marker d c (List.mem_of_getLast? hc)

/-- **A line has a reading**, and its spans are those of the pieces. What stands in front must not end
in the middle of a plain run. -/
theorem exists_reading (hfront : (∀ c ∈ front.getLast?, isPlain c = false) ∨
      ∀ c ∈ cs.head?, isPlain c = false) :
    ∃ ps, Reading front cs ps ∧ spansOf cs = ps.map Piece.span := by
  fun_induction spansOf cs generalizing front with
  | case1 => exact ⟨[], .nil, rfl⟩
  | case2 c rest hd ih =>
    have hc := detect?_eq_none hd
    have hopen : ∀ c ∈ front.getLast?, isPlain c = false := by
      refine hfront.resolve_right fun hhead => ?_
      rw [hhead c rfl] at hc
      cases hc
    obtain ⟨ps, hps, hspans⟩ := ih (.inr fun c hc => isPlain_of_mem_head?_dropWhile hc)
    have hcons := Reading.cons (fits_plain rest hc hopen) hps
    rw [Piece.source, List.takeWhile_append_dropWhile] at hcons
    exact ⟨_, hcons, by rw [hspans]; rfl⟩
  | case3 c rest d hd hb =>
    have hcons := Reading.cons (fits_opened front hd hb) .nil
    rw [Piece.source, List.append_nil, marker_append_of_detect? hd] at hcons
    exact ⟨_, hcons, rfl⟩
  | case4 c rest d hd inner behind hb ih =>
    obtain ⟨ps, hps, hspans⟩ := ih (.inl fun c hc => isPlain_of_mem_getLast?_closed hc)
    have hcons := Reading.cons (fits_closed front hd hb) hps
    rw [Piece.source, List.append_assoc, List.append_assoc, ← List.append_assoc inner,
      ← breakOn_eq_some hb, marker_append_of_detect? hd] at hcons
    exact ⟨_, hcons, by rw [hspans]; rfl⟩

/-! ### What a reading says of the pieces -/

theorem Reading.exists_fits (h : Reading front cs ps) (hp : p ∈ ps) :
    ∃ front back, p.Fits front back := by
  induction h with
  | nil => cases hp
  | cons hfits _ ih =>
    rcases List.mem_cons.1 hp with rfl | hp
    · exact ⟨_, _, hfits⟩
    · exact ih hp

namespace Piece

theorem isEmphasized_span (d : Delimiter) (text : List Char) :
    (d.span text).isEmphasized = true := by
  cases d <;> rfl

theorem eq_plain_of_not_isEmphasized (hp : p.span.isEmphasized = false) :
    ∃ text, p = .plain text := by
  cases p with
  | plain text => exact ⟨text, rfl⟩
  | closed d text | opened d text =>
    rw [span, isEmphasized_span] at hp
    cases hp

theorem not_both_span (p : Piece) : (p.span.bold && p.span.italicOrCode) = false := by
  cases p with
  | plain => rfl
  | closed d | opened d => cases d <;> rfl

theorem Fits.text_ne_empty (h : p.Fits front back) (hplain : p.span.isEmphasized = false) :
    p.span.text ≠ "" := by
  obtain ⟨text, rfl⟩ := eq_plain_of_not_isEmphasized hplain
  cases h with
  | plain hne => exact fun h => hne (String.ofList_eq_empty_iff.1 h)

end Piece

/-- Only the last piece can be open. -/
theorem Reading.not_isOpened (h : Reading front cs ps) : ∀ p ∈ ps.dropLast, p.isOpened = false := by
  induction h with
  | nil => simp
  | @cons _ _ p ps hfits hrest ih =>
    cases hrest with
    | nil => simp
    | cons hnext hrest =>
      rw [List.dropLast_cons_cons]
      rintro q (_ | ⟨_, hq⟩)
      · cases hfits with
        | opened hback => exact absurd (List.append_eq_nil_iff.1 hback).1 hnext.source_ne_nil
        | _ => rfl
      · exact ih q hq

/-- Two plain runs never stand next to each other. -/
theorem Reading.isChain (h : Reading front cs ps) :
    (ps.map Piece.span).IsChain fun a b => (a.isEmphasized || b.isEmphasized) = true := by
  induction h with
  | nil => exact .nil
  | @cons front _ p ps hfits hrest ih =>
    cases hrest with
    | nil => exact .singleton _
    | @cons _ _ q qs hnext hrest =>
      refine .cons_cons ?_ ih
      by_contra hboth
      rw [Bool.not_eq_true, Bool.or_eq_false_iff] at hboth
      obtain ⟨text, rfl⟩ := Piece.eq_plain_of_not_isEmphasized hboth.1
      obtain ⟨_, rfl⟩ := Piece.eq_plain_of_not_isEmphasized hboth.2
      cases hfits with
      | plain hne hplain =>
        cases hnext with
        | plain _ _ hopen =>
          -- The first run would go on.
          have hlast : text.getLast hne ∈ (front ++ text).getLast? := by
            simp [List.getLast?_append, List.getLast?_eq_getLast_of_ne_nil hne]
          have hfalse := hopen _ hlast
          rw [hplain _ (List.getLast_mem hne)] at hfalse
          cases hfalse

/-- **A line has exactly one reading, and its spans are that reading**, one for each piece. So no two
plain spans stand next to each other, none is empty, no span has both flags, and only the last one
can be open. -/
theorem parseSpans_unique_reading (line : String) :
    ∃ ps, (∀ ps', Reading [] line.toList ps' ↔ ps' = ps) ∧ parseSpans line = ps.map Piece.span ∧
      (∀ p ∈ ps.dropLast, p.isOpened = false) ∧
      ((parseSpans line).IsChain fun a b => (a.isEmphasized || b.isEmphasized) = true) ∧
      ∀ s ∈ parseSpans line, (s.isEmphasized = false → s.text ≠ "") ∧
        (s.bold && s.italicOrCode) = false := by
  obtain ⟨ps, hreading, hspans⟩ := @exists_reading [] line.toList (.inl fun c hc => by cases hc)
  refine ⟨ps, fun ps' => ⟨fun h => h.unique hreading, ?_⟩, hspans, hreading.not_isOpened, ?_, ?_⟩
  · rintro rfl
    exact hreading
  · rw [parseSpans, hspans]
    exact hreading.isChain
  · intro s hs
    rw [parseSpans, hspans] at hs
    obtain ⟨p, hp, rfl⟩ := List.mem_map.1 hs
    obtain ⟨_, _, hfits⟩ := hreading.exists_fits hp
    exact ⟨hfits.text_ne_empty, p.not_both_span⟩

/-- Three stars open a strong piece, whose text keeps the third, and the last one is open. -/
example : parseSpans "***a** b*" =
    [⟨"*a", true, false⟩, .plain " b", ⟨"", false, true⟩] := by cbv

end Scribe.Markdown
