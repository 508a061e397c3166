import Scribe.Content

/-!
# What a text with escapes spells

A text on the command line is a row of parts, each of which stands for one character: an escape for
the character that it names, and any character but a backslash for itself. `Spells` says which
characters a text stands for, without saying how it is read. Reading follows it:

    unescape_eq_ok_iff    : unescape cs = .ok value ↔ Spells cs value
    unescape_eq_error_iff : unescape cs = .error f ↔ Breaks cs f

Both rest on `Spells.unescape_append`: what a text spells is read from it whatever stands behind,
and reading goes on there.
-/

namespace Scribe.Content

/-! ### Spellings -/

/-- A part of a text, and the character that it stands for. -/
inductive Part : List Char → Char → Prop where
  | itself {c : Char} : c ≠ '\\' → Part [c] c
  | lineFeed : Part ['\\', 'n'] '\n'
  | tab : Part ['\\', 't'] '\t'
  | backslash : Part ['\\', '\\'] '\\'
  | quote : Part ['\\', '"'] '"'

/-- The parts of a text stand for the characters, one after the other. -/
inductive Spells : List Char → List Char → Prop where
  | nil : Spells [] []
  | cons {part cs value : List Char} {c : Char} :
      Part part c → Spells cs value → Spells (part ++ cs) (c :: value)

/-- Why a text spells nothing: behind some parts there is a backslash, and with it the text ends, or
a character follows which no escape has. -/
inductive Breaks : List Char → Fault → Prop where
  | unterminated {front value : List Char} : Spells front value →
      Breaks (front ++ ['\\']) (.invalidContent "unterminated escape sequence")
  | unsupported {front value behind : List Char} {c : Char} : Spells front value →
      c ∉ ['n', 't', '\\', '"'] →
      Breaks (front ++ '\\' :: c :: behind)
        (.invalidContent ("unsupported escape sequence: \\" ++ c.toString))

variable {cs value behind : List Char} {f : Fault} {c d : Char}

/-! ### Single escapes -/

theorem part_of_escaped? (h : escaped? c = some d) : Part ['\\', c] d := by
  unfold escaped? at h
  split at h
  · cases h; exact .lineFeed
  · cases h; exact .tab
  · cases h; exact .backslash
  · cases h; exact .quote
  · cases h

theorem escaped?_eq_none_iff : escaped? c = none ↔ c ∉ ['n', 't', '\\', '"'] := by
  unfold escaped?
  split <;> simp_all

theorem unescape_cons (h : c ≠ '\\') (cs : List Char) :
    unescape (c :: cs) = (unescape cs).map (c :: ·) := by
  rw [unescape]
  · exact fun hc _ => h hc
  · exact fun _ _ hc _ => h hc

/-- A part is read in one step. -/
theorem Part.unescape_append {part : List Char} (h : Part part c) (cs : List Char) :
    unescape (part ++ cs) = (unescape cs).map (c :: ·) := by
  cases h with
  | itself hc => exact unescape_cons hc cs
  | lineFeed => rfl
  | tab => rfl
  | backslash => rfl
  | quote => rfl

/-! ### Reading what is spelled -/

/-- **Reading goes on behind what is spelled**, as it would if nothing stood in front. -/
theorem Spells.unescape_append (h : Spells cs value) (behind : List Char) :
    unescape (cs ++ behind) = (unescape behind).map (value ++ ·) := by
  induction h with
  | nil =>
    show unescape behind = (unescape behind).map id
    cases unescape behind <;> rfl
  | @cons part cs value c hpart _ ih =>
    rw [List.append_assoc, hpart.unescape_append, ih]
    cases unescape behind <;> rfl

theorem Spells.unescape (h : Spells cs value) : unescape cs = .ok value := by
  have hread := h.unescape_append []
  rw [List.append_nil] at hread
  rw [hread]
  show Except.ok (value ++ []) = _
  rw [List.append_nil]

theorem Breaks.unescape (h : Breaks cs f) : unescape cs = .error f := by
  cases h with
  | unterminated hfront =>
    rw [hfront.unescape_append]
    rfl
  | @unsupported front value behind c hfront hc =>
    have hnone := escaped?_eq_none_iff.2 hc
    rw [hfront.unescape_append, Content.unescape, hnone]
    rfl

/-! ### Spelling what is read -/

theorem Breaks.cons {part : List Char} (hpart : Part part c) (h : Breaks cs f) :
    Breaks (part ++ cs) f := by
  cases h with
  | unterminated hfront =>
    rw [← List.append_assoc]
    exact .unterminated (.cons hpart hfront)
  | unsupported hfront hc =>
    rw [← List.append_assoc]
    exact .unsupported (.cons hpart hfront) hc

/-- A text that does not break spells something. -/
theorem spells_or_breaks (cs : List Char) : (∃ value, Spells cs value) ∨ ∃ f, Breaks cs f := by
  have hstep : ∀ {part cs : List Char} {c : Char}, Part part c →
      ((∃ value, Spells cs value) ∨ ∃ f, Breaks cs f) →
      (∃ value, Spells (part ++ cs) value) ∨ ∃ f, Breaks (part ++ cs) f := by
    rintro part cs c hpart (⟨value, hvalue⟩ | ⟨f, hf⟩)
    · exact .inl ⟨c :: value, .cons hpart hvalue⟩
    · exact .inr ⟨f, hf.cons hpart⟩
  induction cs using unescape.induct with
  | case1 => exact .inl ⟨[], .nil⟩
  | case2 => exact .inr ⟨_, .unterminated .nil⟩
  | case3 c cs d hd ih => exact hstep (part_of_escaped? hd) ih
  | case4 c cs hd => exact .inr ⟨_, .unsupported .nil (escaped?_eq_none_iff.1 hd)⟩
  | case5 c cs hend hescape ih =>
    -- A backslash would be one of the cases before.
    have hc : c ≠ '\\' := by
      rintro rfl
      cases cs with
      | nil => exact hend rfl rfl
      | cons d cs => exact hescape d cs rfl rfl
    exact hstep (.itself hc) ih

/-- What is read from a text is what it spells. -/
theorem unescape_eq_ok_iff : unescape cs = .ok value ↔ Spells cs value := by
  refine ⟨fun h => ?_, Spells.unescape⟩
  rcases spells_or_breaks cs with ⟨value', hvalue⟩ | ⟨f, hf⟩
  · rw [hvalue.unescape] at h
    cases h
    exact hvalue
  · rw [hf.unescape] at h
    cases h

/-- Reading fails where the text breaks. -/
theorem unescape_eq_error_iff : unescape cs = .error f ↔ Breaks cs f := by
  refine ⟨fun h => ?_, Breaks.unescape⟩
  rcases spells_or_breaks cs with ⟨value, hvalue⟩ | ⟨f', hf⟩
  · rw [hvalue.unescape] at h
    cases h
  · rw [hf.unescape] at h
    cases h
    exact hf

/-! ### Byte-order marks -/

theorem stripMark_eq_iff {content : List Char} :
    stripMark value = content ↔
      value = '\ufeff' :: content ∨ value = content ∧ '\ufeff' ∉ content.head? := by
  unfold stripMark
  split
  · next cs =>
    constructor
    · rintro rfl
      exact .inl rfl
    · rintro (h | ⟨rfl, hhead⟩)
      · exact List.tail_eq_of_cons_eq h
      · exact absurd rfl hhead
  · next hmark =>
    constructor
    · rintro rfl
      refine .inr ⟨rfl, fun hhead => ?_⟩
      obtain ⟨rest, hrest⟩ := List.head?_eq_some_iff.1 hhead
      exact hmark rest hrest
    · rintro (h | ⟨h, -⟩)
      · exact absurd h (hmark content)
      · exact h

/-! ### Texts that spell a content -/

/-- A text with every backslash doubled. -/
def escape (cs : List Char) : List Char :=
  cs.flatMap fun c => if c = '\\' then ['\\', '\\'] else [c]

theorem spells_escape (cs : List Char) : Spells (escape cs) cs := by
  induction cs with
  | nil => exact .nil
  | cons c cs ih =>
    rw [escape, List.flatMap_cons]
    split
    · next hc =>
      subst hc
      exact .cons .backslash ih
    · next hc => exact .cons (.itself hc) ih

/-! ### The content -/

/-- **A text on the command line is read as it is spelled.** Its content is what it spells, without
one mark at the start; what does not spell anything is refused with the fault that comes first. A
text that spells something may stand in front of any other and is read for itself; and every content
that does not start with a mark is spelled by a text, the one with all backslashes doubled. -/
theorem ofInline_reads_spelling (text : String) :
    (∀ content, ofInline text = .ok content ↔ ∃ value, Spells text.toList value ∧
      (value = '\ufeff' :: content.toList ∨
        value = content.toList ∧ '\ufeff' ∉ content.toList.head?)) ∧
    (∀ f, ofInline text = .error f ↔ Breaks text.toList f) ∧
    (∀ value, unescape text.toList = .ok value → ∀ behind,
      unescape (text.toList ++ behind) = (unescape behind).map (value ++ ·)) ∧
    ('\ufeff' ∉ text.toList.head? → ofInline (.ofList (escape text.toList)) = .ok text) := by
  have hok : ∀ {text content : String}, ofInline text = .ok content ↔
      ∃ value, Spells text.toList value ∧ stripMark value = content.toList := by
    intro text content
    simp only [← unescape_eq_ok_iff, ofInline]
    cases hread : unescape text.toList with
    | error f => simp [Except.map]
    | ok value =>
      simp only [Except.map, Except.ok.injEq, exists_eq_left']
      rw [← String.toList_inj, String.toList_ofList]
  refine ⟨?_, ?_, ?_, ?_⟩
  · intro content
    rw [hok]
    simp only [stripMark_eq_iff]
  · intro f
    rw [← unescape_eq_error_iff, ofInline]
    cases unescape text.toList <;> simp [Except.map]
  · intro value hvalue behind
    exact (unescape_eq_ok_iff.1 hvalue).unescape_append behind
  · intro hmark
    refine hok.2 ⟨text.toList, ?_, stripMark_eq_iff.2 (.inr ⟨rfl, hmark⟩)⟩
    rw [String.toList_ofList]
    exact spells_escape text.toList

/-- The mark is dropped behind the escapes, and the text may hold further ones. -/
example : ofInline "\ufeff\ufeff\\\\n" = .ok "\ufeff\\n" := by cbv

end Scribe.Content
