import Scribe.Export
import Scribe.Proofs.Text.Blank

/-!
# What is left of links

The Markdown of an exported document is a row of pieces: links, images, and single characters at
which neither starts. `Reading` says when pieces are a reading of a text, without counting on how
they are found. A text has exactly one reading (`Reading.unique`, `exists_reading`), and dropping
targets shows it piece by piece (`Reading.dropTargets`).

The text of a link ends at the first bracket that closes and its target at the first parenthesis
that does. So brackets around a bracketed text are no link, brackets around an image pair with those
of the image, a bracket that stands alone in front of a link takes the place of the one that opens
it, and a link behind an exclamation mark is an image. Where no link text is empty, starts with a
parenthesis or holds a bracket that opens, what is left holds no further link
(`Reading.dropTargets_shown`).
-/

namespace Scribe.Export

open Text

/-! ### Pieces -/

/-- A link as it is written. -/
def linkSource (text target : List Char) : List Char :=
  '[' :: (text ++ ']' :: '(' :: (target ++ [')']))

/-- Whether a link with this text and target is read back from what is written. -/
def IsLink (text target : List Char) : Prop := ']' ∉ text ∧ ')' ∉ target

/-- A link is at the start of a text. -/
def StartsLink (cs : List Char) : Prop :=
  ∃ text target back, IsLink text target ∧ cs = linkSource text target ++ back

/-- A piece of a text. -/
inductive Piece where
  | plain (c : Char)
  | image (text target : List Char)
  | link (text target : List Char)

namespace Piece

/-- The characters of a piece. -/
def source : Piece → List Char
  | plain c => [c]
  | image text target => '!' :: linkSource text target
  | link text target => linkSource text target

/-- What is shown of a piece. -/
def shown : Piece → List Char
  | link text _ => text
  | p => p.source

/-- What a piece has to be where it stands, with a text behind it. -/
inductive Fits (back : List Char) : Piece → Prop where
  | plain {c : Char} : ¬ StartsLink (c :: back) → (c = '!' → ¬ StartsLink back) →
      Fits back (.plain c)
  | image {text target : List Char} : IsLink text target → Fits back (.image text target)
  | link {text target : List Char} : IsLink text target → Fits back (.link text target)

/-- Whether what is shown of a piece cannot become part of another link. -/
def IsTame : Piece → Prop
  | link text _ => text ≠ [] ∧ '(' ∉ text.head? ∧ '[' ∉ text
  | _ => True

/-- Whether a piece is a link. -/
def isLink : Piece → Bool
  | link .. => true
  | _ => false

end Piece

/-- The pieces are a reading of a text. -/
inductive Reading : List Char → List Piece → Prop where
  | nil : Reading [] []
  | cons {back : List Char} {p : Piece} {ps : List Piece} : p.Fits back → Reading back ps →
      Reading (p.source ++ back) (p :: ps)

variable {cs back back' text text' target target' : List Char} {c : Char} {p p' : Piece}
  {ps ps' : List Piece}

/-! ### Links -/

theorem dropWhile_ne_append (h : c ∉ text) (back : List Char) :
    (text ++ c :: back).dropWhile (· != c) = c :: back := by
  rw [List.dropWhile_append_of_pos, dropWhile_of_head?]
  · simp
  · intro d hd
    simpa using ne_of_mem_of_not_mem hd h

theorem takeWhile_ne_append (h : c ∉ text) (back : List Char) :
    (text ++ c :: back).takeWhile (· != c) = text := by
  rw [List.takeWhile_append_of_pos]
  · simp
  · intro d hd
    simpa using ne_of_mem_of_not_mem hd h

theorem takeWhile_ne_of_dropWhile (h : cs.dropWhile (· != c) = c :: back) :
    cs = cs.takeWhile (· != c) ++ c :: back ∧ c ∉ cs.takeWhile (· != c) := by
  constructor
  · rw [← h, List.takeWhile_append_dropWhile]
  · intro hc
    simpa using List.mem_takeWhile_imp hc

/-- **A link is found exactly where it stands**, with its text up to the first closing bracket. -/
theorem link?_eq_some_iff : link? cs = some (text, target, back) ↔
    IsLink text target ∧ cs = linkSource text target ++ back := by
  constructor
  · intro h
    unfold link? at h
    split at h
    · next rest =>
      split at h
      · next behind hbehind =>
        split at h
        · next after hafter =>
          cases h
          obtain ⟨hrest, htext⟩ := takeWhile_ne_of_dropWhile hbehind
          obtain ⟨htarget, hparen⟩ := takeWhile_ne_of_dropWhile hafter
          refine ⟨⟨htext, hparen⟩, ?_⟩
          rw [linkSource, List.cons_append, List.append_assoc, List.cons_append, List.cons_append,
            List.append_assoc, List.singleton_append, ← htarget, ← hrest]
        · cases h
      · cases h
    · cases h
  · rintro ⟨⟨htext, htarget⟩, rfl⟩
    have hsource : linkSource text target ++ back =
        '[' :: (text ++ ']' :: '(' :: (target ++ ')' :: back)) := by simp [linkSource]
    rw [hsource, link?]
    simp only [dropWhile_ne_append htext, takeWhile_ne_append htext, dropWhile_ne_append htarget,
      takeWhile_ne_append htarget]

theorem link?_eq_none_iff : link? cs = none ↔ ¬ StartsLink cs := by
  rw [Option.eq_none_iff_forall_ne_some]
  constructor
  · rintro hnone ⟨text, target, back, hlink⟩
    exact hnone _ (link?_eq_some_iff.2 hlink)
  · rintro hnone ⟨text, target, back⟩ hlink
    exact hnone ⟨text, target, back, link?_eq_some_iff.1 hlink⟩

/-- A link is settled by the text that it starts. -/
theorem IsLink.unique (h : IsLink text target) (h' : IsLink text' target')
    (heq : linkSource text target ++ back = linkSource text' target' ++ back') :
    text = text' ∧ target = target' ∧ back = back' := by
  have hsame := link?_eq_some_iff.2 ⟨h', heq⟩
  rw [link?_eq_some_iff.2 ⟨h, rfl⟩] at hsame
  cases hsame
  exact ⟨rfl, rfl, rfl⟩

theorem StartsLink.head? (h : StartsLink cs) : cs.head? = some '[' := by
  obtain ⟨text, target, back, -, rfl⟩ := h
  rfl

/-! ### The one reading -/

/-- **The first piece is settled by the text**, and with it what is behind it. -/
theorem Piece.Fits.unique (h : p.Fits back) (h' : p'.Fits back')
    (heq : p.source ++ back = p'.source ++ back') : p = p' ∧ back = back' := by
  cases h with
  | plain hnone hbang =>
    cases h' with
    | plain =>
      cases heq
      exact ⟨rfl, rfl⟩
    | image hlink =>
      obtain ⟨rfl, rfl⟩ := List.cons.inj heq
      exact absurd ⟨_, _, _, hlink, rfl⟩ (hbang rfl)
    | link hlink => exact absurd ⟨_, _, _, hlink, heq⟩ hnone
  | image hlink =>
    cases h' with
    | plain hnone hbang =>
      obtain ⟨rfl, rfl⟩ := List.cons.inj heq
      exact absurd ⟨_, _, _, hlink, rfl⟩ (hbang rfl)
    | image hlink' =>
      obtain ⟨rfl, rfl, rfl⟩ := hlink.unique hlink' (List.tail_eq_of_cons_eq heq)
      exact ⟨rfl, rfl⟩
    | link => exact absurd (List.head_eq_of_cons_eq heq) (by decide)
  | link hlink =>
    cases h' with
    | plain hnone => exact absurd ⟨_, _, _, hlink, heq.symm⟩ hnone
    | image => exact absurd (List.head_eq_of_cons_eq heq) (by decide)
    | link hlink' =>
      obtain ⟨rfl, rfl, rfl⟩ := hlink.unique hlink' heq
      exact ⟨rfl, rfl⟩

theorem Piece.source_ne_nil (p : Piece) : p.source ≠ [] := by
  cases p <;> exact List.cons_ne_nil _ _

/-- **A text has no two readings.** -/
theorem Reading.unique (h : Reading cs ps) (h' : Reading cs ps') : ps = ps' := by
  induction h generalizing ps' with
  | nil =>
    generalize hcs : ([] : List Char) = cs at h'
    cases h' with
    | nil => rfl
    | @cons _ p => exact absurd (List.append_eq_nil_iff.1 hcs.symm).1 p.source_ne_nil
  | @cons back p ps hfits _ ih =>
    generalize hcs : p.source ++ back = cs at h'
    cases h' with
    | nil => exact absurd (List.append_eq_nil_iff.1 hcs).1 p.source_ne_nil
    | cons hfits' hrest' =>
      obtain ⟨rfl, rfl⟩ := hfits.unique hfits' hcs
      rw [ih hrest']

/-- **A text has a reading.** -/
theorem exists_reading (cs : List Char) : ∃ ps, Reading cs ps := by
  induction cs using dropTargets.induct with
  | case1 => exact ⟨[], .nil⟩
  | case2 rest text target after hlink ih =>
    obtain ⟨ps, hps⟩ := ih
    obtain ⟨hfits, rfl⟩ := link?_eq_some_iff.1 hlink
    exact ⟨_, .cons (.image hfits) hps⟩
  | case3 rest hnone ih =>
    obtain ⟨ps, hps⟩ := ih
    refine ⟨_, .cons (.plain ?_ fun _ => link?_eq_none_iff.1 hnone) hps⟩
    intro hstarts
    cases hstarts.head?
  | case4 c rest hbang text target after hlink ih =>
    obtain ⟨ps, hps⟩ := ih
    obtain ⟨hfits, hsource⟩ := link?_eq_some_iff.1 hlink
    rw [hsource]
    exact ⟨_, .cons (.link hfits) hps⟩
  | case5 c rest hbang hnone ih =>
    obtain ⟨ps, hps⟩ := ih
    exact ⟨_, .cons (.plain (link?_eq_none_iff.1 hnone) fun hc => absurd hc hbang) hps⟩

/-! ### What is shown -/

theorem dropTargets_link (h : link? cs = some (text, target, back)) :
    dropTargets cs = text ++ dropTargets back := by
  obtain ⟨-, rfl⟩ := link?_eq_some_iff.1 h
  rw [dropTargets.eq_def]
  split
  · next heq => cases heq
  · next heq => cases List.head_eq_of_cons_eq heq
  · next c rest hbang heq =>
    rw [heq] at h
    rw [h]

theorem dropTargets_image (h : link? cs = some (text, target, back)) :
    dropTargets ('!' :: cs) = '!' :: (linkSource text target ++ dropTargets back) := by
  rw [dropTargets, h]
  simp [linkSource]

theorem dropTargets_plain (h : link? (c :: cs) = none) (hbang : c = '!' → link? cs = none) :
    dropTargets (c :: cs) = c :: dropTargets cs := by
  by_cases hc : c = '!'
  · subst hc
    rw [dropTargets, hbang rfl]
  · rw [dropTargets, h]
    exact hc

/-- One step shows the first piece. -/
theorem Piece.Fits.dropTargets_append (h : p.Fits back) :
    dropTargets (p.source ++ back) = p.shown ++ dropTargets back := by
  cases h with
  | plain hnone hbang =>
    exact dropTargets_plain (link?_eq_none_iff.2 hnone) fun hc => link?_eq_none_iff.2 (hbang hc)
  | image hlink => exact dropTargets_image (link?_eq_some_iff.2 ⟨hlink, rfl⟩)
  | link hlink => exact dropTargets_link (link?_eq_some_iff.2 ⟨hlink, rfl⟩)

/-- **Dropping targets shows every piece of the reading**, a link by its text and any other piece as
it stands. -/
theorem Reading.dropTargets (h : Reading cs ps) :
    dropTargets cs = ps.flatMap Piece.shown := by
  induction h with
  | nil => rw [Export.dropTargets]; rfl
  | cons hfits _ ih => rw [hfits.dropTargets_append, ih, List.flatMap_cons]

/-! ### What is left -/

/-- Behind the bracket that opens a link this stands, and the link follows from it. -/
def Closes (cs : List Char) : Prop :=
  ∃ text target back, IsLink text target ∧ cs = text ++ ']' :: '(' :: (target ++ ')' :: back)

theorem startsLink_iff : StartsLink cs ↔ ∃ rest, cs = '[' :: rest ∧ Closes rest := by
  constructor
  · rintro ⟨text, target, back, hlink, rfl⟩
    exact ⟨_, rfl, text, target, back, hlink, by simp⟩
  · rintro ⟨rest, rfl, text, target, back, hlink, rfl⟩
    exact ⟨text, target, back, hlink, by simp [linkSource]⟩

theorem Closes.cons (h : Closes cs) (hc : c ≠ ']') : Closes (c :: cs) := by
  obtain ⟨text, target, back, ⟨htext, htarget⟩, rfl⟩ := h
  refine ⟨c :: text, target, back, ⟨?_, htarget⟩, rfl⟩
  rw [List.mem_cons, not_or]
  exact ⟨hc.symm, htext⟩

/-- A link closes whatever bracket stands in front of it. -/
theorem IsLink.closes (h : IsLink text target) (back : List Char) :
    Closes (linkSource text target ++ back) := by
  have hbehind : Closes (text ++ ']' :: '(' :: (target ++ ')' :: back)) :=
    ⟨text, target, back, h, rfl⟩
  have hsource : linkSource text target ++ back =
      '[' :: (text ++ ']' :: '(' :: (target ++ ')' :: back)) := by simp [linkSource]
  rw [hsource]
  exact hbehind.cons (by decide)

theorem closes_cons_iff : Closes (c :: cs) ↔
    (c = ']' ∧ ∃ rest, cs = '(' :: rest ∧ ')' ∈ rest) ∨ c ≠ ']' ∧ Closes cs := by
  constructor
  · rintro ⟨text, target, back, ⟨htext, htarget⟩, heq⟩
    cases text with
    | nil =>
      obtain ⟨rfl, rfl⟩ := List.cons.inj heq
      exact .inl ⟨rfl, _, rfl, by simp⟩
    | cons d text =>
      obtain ⟨rfl, rfl⟩ := List.cons.inj heq
      rw [List.mem_cons, not_or] at htext
      exact .inr ⟨htext.1 ∘ Eq.symm, text, target, back, ⟨htext.2, htarget⟩, rfl⟩
  · rintro (⟨rfl, rest, rfl, hparen⟩ | ⟨hc, hcloses⟩)
    · obtain ⟨target, back, htarget, hrest⟩ := List.eq_append_cons_of_mem hparen
      exact ⟨[], target, back, ⟨by simp, hrest⟩, by rw [htarget]; rfl⟩
    · exact hcloses.cons hc

/-- Nothing is shown that is not there. -/
theorem Reading.shown_subset (h : Reading cs ps) : ps.flatMap Piece.shown ⊆ cs := by
  induction h with
  | nil => exact fun _ hc => hc
  | @cons back p ps hfits _ ih =>
    rw [List.flatMap_cons]
    intro c hc
    rcases List.mem_append.1 hc with hc | hc
    · apply List.mem_append_left
      cases hfits with
      | plain | image => exact hc
      | link => exact List.mem_cons_of_mem _ (List.mem_append_left _ hc)
    · exact List.mem_append_right _ (ih hc)

/-- A parenthesis that is shown first comes first in the text. -/
theorem Reading.eq_paren_cons {rest : List Char} (h : Reading cs ps)
    (htame : ∀ p ∈ ps, p.IsTame) (hshown : ps.flatMap Piece.shown = '(' :: rest) :
    ∃ rest', cs = '(' :: rest' ∧ rest ⊆ rest' := by
  cases h with
  | nil => cases hshown
  | @cons back p ps hfits hrest =>
    cases hfits with
    | plain =>
      obtain ⟨rfl, rfl⟩ := List.cons.inj hshown
      exact ⟨back, rfl, hrest.shown_subset⟩
    | image => cases List.head_eq_of_cons_eq hshown
    | @link text target hlink =>
      obtain ⟨hne, hhead, -⟩ := htame _ List.mem_cons_self
      obtain ⟨c, text, rfl⟩ := List.exists_cons_of_ne_nil hne
      obtain ⟨rfl, -⟩ := List.cons.inj hshown
      exact absurd rfl hhead

/-- What closes a bracket in what is left does so in the text: only a link between the two could
have brought it about. -/
theorem Reading.closes_of_shown (h : Reading cs ps) (htame : ∀ p ∈ ps, p.IsTame)
    (hcloses : Closes (ps.flatMap Piece.shown)) : Closes cs := by
  induction h with
  | nil => exact hcloses
  | @cons back p ps hfits hrest ih =>
    have hps := (List.forall_mem_cons.1 htame).2
    cases hfits with
    | plain =>
      apply closes_cons_iff.2
      rcases closes_cons_iff.1 hcloses with ⟨hc, rest, hshown, hparen⟩ | ⟨hc, hcloses⟩
      · obtain ⟨rest', hback, hsubset⟩ := hrest.eq_paren_cons hps hshown
        exact .inl ⟨hc, rest', hback, hsubset hparen⟩
      · exact .inr ⟨hc, ih hps hcloses⟩
    | image hlink => exact (hlink.closes back).cons (by decide)
    | link hlink => exact hlink.closes back

/-- No link is at the start of what is left. -/
theorem Reading.not_startsLink_shown (h : Reading cs ps) (htame : ∀ p ∈ ps, p.IsTame) :
    ¬ StartsLink (ps.flatMap Piece.shown) := by
  intro hstarts
  have hhead := hstarts.head?
  cases h with
  | nil => cases hhead
  | @cons back p ps hfits hrest =>
    obtain ⟨hp, hps⟩ := List.forall_mem_cons.1 htame
    cases hfits with
    | plain hnone =>
      -- The bracket would have started one in the text already.
      obtain ⟨rest, heq, hcloses⟩ := startsLink_iff.1 hstarts
      obtain ⟨rfl, rfl⟩ := List.cons.inj heq
      exact hnone (startsLink_iff.2 ⟨back, rfl, hrest.closes_of_shown hps hcloses⟩)
    | image => cases hhead
    | @link text target =>
      obtain ⟨hne, -, hopens⟩ := hp
      obtain ⟨c, text, rfl⟩ := List.exists_cons_of_ne_nil hne
      obtain rfl : c = '[' := Option.some.inj hhead
      exact hopens List.mem_cons_self

/-- A text without brackets that open stays as it is, unless it is in front of a link. -/
theorem dropTargets_append (hopens : '[' ∉ text) (hback : ¬ StartsLink back) :
    dropTargets (text ++ back) = text ++ dropTargets back := by
  have hnone : ∀ {text}, '[' ∉ text → ¬ StartsLink (text ++ back) := by
    intro text hopens hstarts
    cases text with
    | nil => exact hback hstarts
    | cons c text =>
      obtain rfl : c = '[' := Option.some.inj hstarts.head?
      exact hopens List.mem_cons_self
  induction text with
  | nil => rfl
  | cons c text ih =>
    have htext := List.not_mem_of_not_mem_cons hopens
    have hstep := dropTargets_plain (link?_eq_none_iff.2 (hnone hopens))
      fun _ => link?_eq_none_iff.2 (hnone htext)
    exact hstep.trans (congrArg (c :: ·) (ih htext))

/-- **Dropping targets again changes nothing** if no link text can become part of another link. -/
theorem Reading.dropTargets_shown (h : Reading cs ps) (htame : ∀ p ∈ ps, p.IsTame) :
    Export.dropTargets (ps.flatMap Piece.shown) = ps.flatMap Piece.shown := by
  induction h with
  | nil => rw [List.flatMap_nil, Export.dropTargets]
  | @cons back p ps hfits hrest ih =>
    have hwhole := (Reading.cons hfits hrest).not_startsLink_shown htame
    obtain ⟨hp, hps⟩ := List.forall_mem_cons.1 htame
    have hbehind := hrest.not_startsLink_shown hps
    rw [List.flatMap_cons] at hwhole ⊢
    -- Every piece but a link fits where it stands in what is left, too.
    cases hfits with
    | @plain c =>
      have hfits : (Piece.plain c).Fits (ps.flatMap Piece.shown) := .plain hwhole fun _ => hbehind
      exact hfits.dropTargets_append.trans (congrArg (_ ++ ·) (ih hps))
    | @image text target hlink =>
      have hfits : (Piece.image text target).Fits (ps.flatMap Piece.shown) := .image hlink
      exact hfits.dropTargets_append.trans (congrArg (_ ++ ·) (ih hps))
    | link =>
      obtain ⟨-, -, hopens⟩ := hp
      exact (dropTargets_append hopens hbehind).trans (congrArg (_ ++ ·) (ih hps))

/-! ### Texts without links -/

theorem Reading.flatMap_source (h : Reading cs ps) : ps.flatMap Piece.source = cs := by
  induction h with
  | nil => rfl
  | cons _ _ ih => rw [List.flatMap_cons, ih]

theorem length_flatMap_shown_le (ps : List Piece) :
    (ps.flatMap Piece.shown).length ≤ (ps.flatMap Piece.source).length := by
  induction ps with
  | nil => exact Nat.le_refl 0
  | cons p ps ih =>
    rw [List.flatMap_cons, List.flatMap_cons, List.length_append, List.length_append]
    cases p with
    | plain | image => exact Nat.add_le_add_left ih _
    | link text target =>
      simp only [Piece.shown, Piece.source, linkSource, List.length_cons, List.length_append]
      omega

/-- Every link is longer than what is shown of it. -/
theorem not_isLink_of_length (h : (ps.flatMap Piece.shown).length =
    (ps.flatMap Piece.source).length) : ∀ p ∈ ps, p.isLink = false := by
  induction ps with
  | nil => nofun
  | cons p ps ih =>
    have hle := length_flatMap_shown_le ps
    rw [List.flatMap_cons, List.flatMap_cons, List.length_append, List.length_append] at h
    cases p with
    | plain | image => exact List.forall_mem_cons.2 ⟨rfl, ih (Nat.add_left_cancel h)⟩
    | link text target =>
      simp only [Piece.shown, Piece.source, linkSource, List.length_cons, List.length_append] at h
      omega

/-- **A text stays as it is exactly if its reading holds no link.** -/
theorem Reading.dropTargets_eq_self_iff (h : Reading cs ps) :
    Export.dropTargets cs = cs ↔ ∀ p ∈ ps, p.isLink = false := by
  rw [h.dropTargets, ← h.flatMap_source]
  constructor
  · intro hsame
    exact not_isLink_of_length (congrArg List.length hsame)
  · intro hnone
    refine List.flatMap_congr fun p hp => ?_
    cases p with
    | plain | image => rfl
    | link => cases hnone _ hp

/-! ### The Markdown of a document -/

/-- The result is what is left without line feeds in front and blanks behind, and one line feed. -/
theorem finishLine_eq_iff {out : List Char} : finishLine cs = out ↔
    ∃ core, Pared (· == '\n') isBlank cs core ∧ out = if core = [] then [] else core ++ ['\n'] := by
  have hpq : ∀ c, (c == '\n') = true → isBlank c = true := by
    intro c hc
    rw [beq_iff_eq.1 hc]
    decide
  have hfinish : finishLine cs = if dropWhileEnd isBlank (cs.dropWhile (· == '\n')) = [] then []
      else dropWhileEnd isBlank (cs.dropWhile (· == '\n')) ++ ['\n'] := by
    unfold finishLine
    split
    · next hnil => rw [if_pos hnil]
    · next hne => rw [if_neg hne]
  simp only [← dropWhileEnd_dropWhile_eq_iff hpq, exists_eq_left', hfinish]
  exact eq_comm

/-- **The Markdown of a document shows the pieces of what was rendered**, links by their text and
everything else as it stands, without line feeds in front and blanks behind. There is one way to
take what was rendered to pieces. Dropping targets again changes nothing exactly if what is left has
no link in its reading, and it has none if no link text is empty, starts with a parenthesis or holds
a bracket that opens. -/
theorem markdown_shows_pieces (html : String) :
    ∃ ps, (∀ ps', Reading (renderNodes (Html.Document.read html)) ps' ↔ ps' = ps) ∧
      (∃ core, Pared (· == '\n') isBlank (ps.flatMap Piece.shown) core ∧
        (markdown html).toList = if core = [] then [] else core ++ ['\n']) ∧
      (∀ ps', Reading (ps.flatMap Piece.shown) ps' →
        (dropTargets (ps.flatMap Piece.shown) = ps.flatMap Piece.shown ↔
          ∀ p ∈ ps', p.isLink = false)) ∧
      ((∀ p ∈ ps, p.IsTame) →
        dropTargets (ps.flatMap Piece.shown) = ps.flatMap Piece.shown) := by
  obtain ⟨ps, hreading⟩ := exists_reading (renderNodes (Html.Document.read html))
  refine ⟨ps, fun ps' => ⟨fun h => h.unique hreading, ?_⟩, ?_, ?_, hreading.dropTargets_shown⟩
  · rintro rfl
    exact hreading
  · apply finishLine_eq_iff.1
    rw [← hreading.dropTargets, markdown, String.toList_ofList]
  · intro ps' hps'
    exact hps'.dropTargets_eq_self_iff

/-- The target of a link to a footnote is kept, and the brackets around its text are doubled. -/
theorem footnote_target_kept :
    let html := "<p>Fact<a href=\"#ftnt1\">[1]</a>.</p>"
    let ps := "Fact".toList.map .plain ++ [.link "[1]".toList "#ftnt1".toList, .plain '.']
    renderNodes (Html.Document.read html) = ps.flatMap Piece.source ∧
      (markdown html).toList ≠ ps.flatMap Piece.shown ++ ['\n'] ∧
      markdown html = "Fact[[1]](#ftnt1).\n" := by
  intro html ps
  let nodes : List Html.Node :=
    [.element .html "html" [] [.element .html "head" [] [], .element .html "body" []
      [.element .html "p" [] [.text "Fact", .element .html "a" [("href", "#ftnt1")] [.text "[1]"],
        .text "."]]]]
  have hread : Html.Document.read html = nodes := by decide +kernel
  have hheight : Html.Node.heightOfAll nodes = 5 := by decide +kernel
  have hrendered : renderNodes (Html.Document.read html) = ps.flatMap Piece.source := by
    rw [hread, renderNodes, hheight]
    simp only [nodes, renderAll, render]
    decide +kernel
  refine ⟨hrendered, ?_, ?_⟩
  · rw [markdown, hrendered]
    decide +kernel
  · rw [markdown, hrendered]
    decide +kernel

end Scribe.Export
