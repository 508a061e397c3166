import Scribe.Document.Reference
import Scribe.Proofs.Text.Blank

/-!
# Which references name a document

Every reference names a document but the blank ones. What it names is the id behind the leftmost
marker with an id character behind it (`IdAt`), and without such a marker the reference itself, both
after trimming (`resolve_names_id`). An id names itself, if it is one of those that a URL can hold
(`IsId`), and so does its URL, with any blanks in front of it and anything behind it
(`resolve_url`).
-/

namespace Scribe.Document

open Scribe.Text

/-- A reference that is not blank names a document. -/
theorem exists_resolve {reference : String} (h : allBlank reference = false) :
    ∃ id, resolve reference = .ok id := by
  rw [resolve, isEmpty_trim, h]
  simp only [Bool.false_eq_true, if_false]
  cases idIn? (trim reference).toList with
  | some id => exact ⟨_, rfl⟩
  | none => exact ⟨_, rfl⟩

/-! ### The marked id -/

/-- There is a marker behind `front`, and an id character behind the marker. -/
def Marks (cs front : List Char) : Prop :=
  ∃ c back, isIdChar c = true ∧ cs = front ++ (idMarker ++ c :: back)

/-- An id stands behind the leftmost marker that has an id character behind it, and goes on up to
the next other character. -/
structure IdAt (cs front id back : List Char) : Prop where
  cut : cs = front ++ (idMarker ++ (id ++ back))
  nonempty : id ≠ []
  chars : ∀ c ∈ id, isIdChar c = true
  maximal : ∀ c ∈ back.head?, isIdChar c = false
  leftmost : ∀ other, Marks cs other → front.length ≤ other.length

variable {cs front id back rest : List Char} {c : Char}

/-- The id behind a marker goes on up to the next other character. -/
theorem idIn?_marker (hne : id ≠ []) (hid : ∀ c ∈ id, isIdChar c = true)
    (hrest : ∀ c ∈ rest.head?, isIdChar c = false) :
    idIn? (idMarker ++ (id ++ rest)) = some id := by
  have htake : (id ++ rest).takeWhile isIdChar = id := by
    rw [List.takeWhile_append_of_pos hid]
    cases rest with
    | nil => exact List.append_nil id
    | cons c rest =>
      rw [List.takeWhile_cons_of_neg (by rw [hrest c rfl]; exact Bool.false_ne_true),
        List.append_nil]
  have hmarker : dropPattern? idMarker ('/' :: 'd' :: '/' :: (id ++ rest)) = some (id ++ rest) :=
    rfl
  show idIn? ('/' :: 'd' :: '/' :: (id ++ rest)) = some id
  rw [idIn?, hmarker, Option.map_some, htake]
  cases id with
  | nil => exact absurd rfl hne
  | cons d ds => rfl

/-- Without a marker at its start a text holds the id of its rest. -/
theorem idIn?_cons (h : ¬ Marks (c :: cs) []) : idIn? (c :: cs) = idIn? cs := by
  rw [idIn?]
  split
  · next d ds hrun =>
    obtain ⟨rest, hdrop, htake⟩ := Option.map_eq_some_iff.1 hrun
    cases rest with
    | nil => cases htake
    | cons e rest =>
      rw [List.takeWhile_cons] at htake
      split at htake
      · next he =>
        have hcut := dropPattern?_eq_some hdrop
        exact absurd ⟨e, rest, he, hcut⟩ h
      · cases htake
  · rfl

theorem marks_cons : Marks (c :: cs) (c :: front) ↔ Marks cs front := by
  simp [Marks]

/-- The id behind the leftmost marker is found. -/
theorem IdAt.idIn? (h : IdAt cs front id back) : idIn? cs = some id := by
  induction front generalizing cs with
  | nil =>
    rw [h.cut]
    exact idIn?_marker h.nonempty h.chars h.maximal
  | cons c front ih =>
    obtain ⟨rest, rfl⟩ : ∃ rest, cs = c :: rest := ⟨_, h.cut⟩
    have hstart : ¬ Marks (c :: rest) [] := fun hmarks =>
      absurd (h.leftmost [] hmarks) (Nat.not_succ_le_zero _)
    rw [idIn?_cons hstart]
    apply ih
    refine ⟨List.tail_eq_of_cons_eq h.cut, h.nonempty, h.chars, h.maximal, fun other hother => ?_⟩
    exact Nat.le_of_succ_le_succ (h.leftmost (c :: other) (marks_cons.2 hother))

theorem idIn?_eq_none (h : ∀ front, ¬ Marks cs front) : idIn? cs = none := by
  induction cs with
  | nil => rfl
  | cons c cs ih =>
    rw [idIn?_cons (h [])]
    exact ih fun front hfront => h (c :: front) (marks_cons.2 hfront)

/-- A text in which there is a marker holds an id. -/
theorem exists_idAt (cs : List Char) :
    (∃ front id back, IdAt cs front id back) ∨ ∀ front, ¬ Marks cs front := by
  induction cs with
  | nil =>
    refine .inr fun front hfront => ?_
    obtain ⟨c, back, -, hcut⟩ := hfront
    simp at hcut
  | cons c cs ih =>
    by_cases hstart : Marks (c :: cs) []
    · -- The marker at the start is the leftmost.
      obtain ⟨d, back, hd, hcut⟩ := hstart
      refine .inl ⟨[], (d :: back).takeWhile isIdChar, (d :: back).dropWhile isIdChar, ?_⟩
      refine ⟨?_, ?_, fun c hc => List.mem_takeWhile_imp hc, ?_, fun _ _ => Nat.zero_le _⟩
      · rw [List.takeWhile_append_dropWhile]
        exact hcut
      · rw [List.takeWhile_cons_of_pos hd]
        exact List.cons_ne_nil _ _
      · intro c hc
        have hhead := List.head?_dropWhile_not isIdChar (d :: back)
        rw [hc] at hhead
        exact hhead
    · -- Markers stand behind the first character, if there are any.
      have hbehind : ∀ other, Marks (c :: cs) other →
          ∃ front, other = c :: front ∧ Marks cs front := by
        intro other hother
        cases other with
        | nil => exact absurd hother hstart
        | cons d front =>
          obtain ⟨_, _, -, hcut⟩ := id hother
          cases (List.cons.inj hcut).1
          exact ⟨front, rfl, marks_cons.1 hother⟩
      rcases ih with ⟨front, id, back, hid⟩ | hnone
      · refine .inl ⟨c :: front, id, back, ?_, hid.nonempty, hid.chars, hid.maximal, ?_⟩
        · rw [List.cons_append, ← hid.cut]
        · intro other hother
          obtain ⟨front', rfl, hfront'⟩ := hbehind other hother
          exact Nat.succ_le_succ (hid.leftmost front' hfront')
      · refine .inr fun other hother => ?_
        obtain ⟨front, -, hfront⟩ := hbehind other hother
        exact hnone front hfront

theorem idIn?_eq_some_iff : Document.idIn? cs = some id ↔ ∃ front back, IdAt cs front id back := by
  constructor
  · intro h
    rcases exists_idAt cs with ⟨front, id', back, hid⟩ | hnone
    · rw [hid.idIn?] at h
      cases h
      exact ⟨front, back, hid⟩
    · rw [idIn?_eq_none hnone] at h
      cases h
  · rintro ⟨front, back, hid⟩
    exact hid.idIn?

theorem idIn?_eq_none_iff : Document.idIn? cs = none ↔ ∀ front, ¬ Marks cs front := by
  refine ⟨fun h => ?_, idIn?_eq_none⟩
  rcases exists_idAt cs with ⟨front, id, back, hid⟩ | hnone
  · rw [hid.idIn?] at h
    cases h
  · exact hnone

/-! ### Ids and their URLs -/

/-- An id that a URL can hold. -/
structure IsId (id : String) : Prop where
  nonempty : id ≠ ""
  chars : ∀ c ∈ id.toList, isIdChar c = true

/-- The blank characters lie below and above those of an id. -/
theorem isBlank_of_isIdChar {c : Char} (h : isIdChar c = true) : isBlank c = false := by
  have hbounds : 33 ≤ c.toNat ∧ c.toNat ≤ 127 := by
    -- The classes of characters, as the bounds that they are.
    change (decide (c.val ≥ 'A'.val ∧ c.val ≤ 'Z'.val) ||
      (decide (c.val ≥ 'a'.val) && decide (c.val ≤ 'z'.val)) ||
      (decide (c.val ≥ '0'.val) && decide (c.val ≤ '9'.val)) || c == '_' || c == '-') = true at h
    simp only [Bool.or_eq_true, Bool.and_eq_true, decide_eq_true_eq, beq_iff_eq, ge_iff_le,
      UInt32.le_iff_toNat_le, Char.toNat_val] at h
    rcases h with (((h | h) | h) | rfl) | rfl
    · exact ⟨Nat.le_trans (by decide) h.1, Nat.le_trans h.2 (by decide)⟩
    · exact ⟨Nat.le_trans (by decide) h.1, Nat.le_trans h.2 (by decide)⟩
    · exact ⟨Nat.le_trans (by decide) h.1, Nat.le_trans h.2 (by decide)⟩
    · decide
    · decide
  simp only [isBlank, inRanges, blankRanges, List.any_cons, List.any_nil, Bool.or_eq_false_iff,
    Bool.and_eq_false_iff, decide_eq_false_iff_not, and_true]
  omega

/-- There is no marker in the characters of an id. -/
theorem not_marks_of_isIdChar (h : ∀ c ∈ cs, isIdChar c = true) (front : List Char) :
    ¬ Marks cs front := by
  rintro ⟨c, back, -, hcut⟩
  have hslash := h '/' (by simp [hcut, idMarker])
  cases hslash

/-- The only marker in the start of a URL is at its end. -/
theorem idIn?_urlStart (cs : List Char) :
    idIn? (urlStart.toList ++ cs) = idIn? (idMarker ++ cs) := rfl

variable {id : String}

/-- An id names itself. -/
theorem IsId.resolve (h : IsId id) : resolve id = .ok id := by
  have hne : id.toList ≠ [] := fun hnil => h.nonempty (String.toList_inj.1 hnil)
  have hblank : ∀ c ∈ id.toList, isBlank c = false := fun c hc => isBlank_of_isIdChar (h.chars c hc)
  have htrim : trim id = id := by
    have hlist := @toList_trim id [] id.toList [] (by simp) rfl hne
      (fun c hc => hblank c (List.mem_of_head? hc))
      (fun c hc => hblank c (List.mem_of_getLast? hc))
    exact String.toList_inj.1 (hlist.trans (List.append_nil _))
  have hfull : id.isEmpty = false := by
    rw [← Bool.not_eq_true, String.isEmpty_iff]
    exact h.nonempty
  rw [Document.resolve, htrim, hfull, idIn?_eq_none (not_marks_of_isIdChar h.chars)]
  rfl

/-- An id is named by every text that starts like its URL, with any blanks in front, if the id is
over where the rest begins. -/
theorem IsId.resolve_urlStart (h : IsId id) {front tail : String} (hfront : allBlank front = true)
    (htail : ∀ c ∈ tail.toList.head?, isIdChar c = false) :
    Document.resolve (front ++ (urlStart ++ id ++ tail)) = .ok id := by
  have hne : id.toList ≠ [] := fun hnil => h.nonempty (String.toList_inj.1 hnil)
  -- Neither the start of a URL nor an id has a blank at its ends, so trimming changes only the tail.
  have htrim : (trim (front ++ (urlStart ++ id ++ tail))).toList =
      (urlStart.toList ++ id.toList) ++ dropWhileEnd isBlank tail.toList := by
    refine toList_trim (by simp) hfront (by simp [hne]) ?_ ?_
    · intro c hc
      cases hc
      decide
    · intro c hc
      rw [List.getLast?_append_of_ne_nil _ hne] at hc
      exact isBlank_of_isIdChar (h.chars c (List.mem_of_getLast? hc))
  have hrest : ∀ c ∈ (dropWhileEnd isBlank tail.toList).head?, isIdChar c = false := by
    intro c hc
    obtain ⟨rest, hrest⟩ := List.rdropWhile_prefix isBlank (l := tail.toList)
    apply htail
    rw [← hrest]
    exact List.mem_head?_append_of_mem_head? hc
  have hfound : idIn? (trim (front ++ (urlStart ++ id ++ tail))).toList = some id.toList := by
    rw [htrim, List.append_assoc, idIn?_urlStart]
    exact idIn?_marker hne h.chars hrest
  have hfull : (trim (front ++ (urlStart ++ id ++ tail))).isEmpty = false := by
    rw [← Bool.not_eq_true, String.isEmpty_iff, ← String.toList_inj, htrim]
    exact List.cons_ne_nil _ _
  rw [Document.resolve, hfull, hfound]
  simp

/-- **The URL of an id names it**, with any blanks in front and anything behind: a blank, a
fragment, a query. -/
theorem IsId.resolve_url (h : IsId id) {front : String} (hfront : allBlank front = true)
    (tail : String) : Document.resolve (front ++ url id ++ tail) = .ok id := by
  have hurl : front ++ url id ++ tail = front ++ (urlStart ++ id ++ ("/edit" ++ tail)) := by
    simp only [url, String.append_assoc]
  rw [hurl]
  apply h.resolve_urlStart hfront
  intro c hc
  rw [String.toList_append] at hc
  cases hc
  decide

/-- The start of a URL names its id where the id is over, with blanks around. -/
theorem IsId.resolve_between (h : IsId id) {front tail back : String}
    (hfront : allBlank front = true) (hback : allBlank back = true)
    (htail : ∀ c ∈ tail.toList.head?, isIdChar c = false) :
    Document.resolve (front ++ (urlStart ++ id ++ tail) ++ back) = .ok id := by
  have hsplit : front ++ (urlStart ++ id ++ tail) ++ back =
      front ++ (urlStart ++ id ++ (tail ++ back)) := by
    simp only [String.append_assoc]
  rw [hsplit]
  apply h.resolve_urlStart hfront
  intro c hc
  rw [String.toList_append, List.head?_append] at hc
  cases htext : tail.toList.head? with
  | some d =>
    rw [htext] at hc htail
    cases hc
    exact htail _ rfl
  | none =>
    -- The id is followed by a blank of the end, and no blank is an id character.
    rw [htext] at hc
    have hblank := List.all_eq_true.1 hback c (List.mem_of_head? hc)
    rw [← Bool.not_eq_true]
    intro hidChar
    rw [isBlank_of_isIdChar hidChar] at hblank
    cases hblank

/-! ### What a reference names -/

theorem resolve_eq_error_iff {reference : String} :
    (∃ f, resolve reference = .error f) ↔ allBlank reference = true := by
  rw [← isEmpty_trim, resolve]
  cases hempty : (trim reference).isEmpty with
  | true => simp
  | false => cases idIn? (trim reference).toList <;> simp

theorem resolve_eq_ok_iff {reference id : String} :
    resolve reference = .ok id ↔ trim reference ≠ "" ∧
      ((∃ front back, IdAt (trim reference).toList front id.toList back) ∨
        (∀ front, ¬ Marks (trim reference).toList front) ∧ id = trim reference) := by
  rw [resolve, ← idIn?_eq_some_iff, ← idIn?_eq_none_iff]
  by_cases hempty : trim reference = ""
  · simp [hempty]
  · have hfull : (trim reference).isEmpty = false := by simpa using hempty
    rw [hfull]
    cases hfound : idIn? (trim reference).toList with
    | none => simp [hempty, eq_comm]
    | some found =>
      simp only [Bool.false_eq_true, if_false, Except.ok.injEq, Option.some.injEq, ne_eq, hempty,
        not_false_eq_true, true_and, reduceCtorEq, false_and, or_false]
      rw [← String.toList_inj, String.toList_ofList]

/-- What a reference names is named by itself. -/
theorem resolve_resolve {reference id : String} (h : resolve reference = .ok id) :
    resolve id = .ok id := by
  obtain ⟨hne, ⟨front, back, hid⟩ | ⟨hnone, rfl⟩⟩ := resolve_eq_ok_iff.1 h
  · refine IsId.resolve ⟨?_, hid.chars⟩
    rintro rfl
    exact hid.nonempty rfl
  · rw [resolve_eq_ok_iff, trim_trim]
    exact ⟨hne, .inr ⟨hnone, rfl⟩⟩

/-- **A reference names the id that is marked in it, or else itself.** It is refused exactly if it
is blank. Else let `core` be what trimming leaves of it: the id is the run of id characters behind
the leftmost marker in `core` that has such a character behind it, and `core` itself if there is no
such marker. So an id that was named names itself; and every text over the id characters is named by
its URL, and by whatever starts like that URL, where the text is over and blanks stand around. -/
theorem resolve_names_id :
    (∀ reference, (∃ f, resolve reference = .error f) ↔ ∀ c ∈ reference.toList, isBlank c = true) ∧
    (∀ reference id, resolve reference = .ok id ↔
      ∃ core, Pared isBlank isBlank reference.toList core ∧ core ≠ [] ∧
        ((∃ front back, IdAt core front id.toList back) ∨
          (∀ front, ¬ Marks core front) ∧ id.toList = core)) ∧
    (∀ reference id, resolve reference = .ok id → resolve id = .ok id) ∧
    ∀ id, IsId id → resolve (url id) = .ok id ∧
      ∀ front tail back : String, allBlank front = true → allBlank back = true →
        (∀ c ∈ tail.toList.head?, isIdChar c = false) →
        resolve (front ++ ("https://docs.google.com/document/d/" ++ id ++ tail) ++ back) =
          .ok id := by
  refine ⟨?_, ?_, fun _ _ => resolve_resolve, fun id hid => ⟨?_, ?_⟩⟩
  · intro reference
    rw [resolve_eq_error_iff, allBlank, List.all_eq_true]
  · intro reference id
    rw [resolve_eq_ok_iff]
    constructor
    · rintro ⟨hne, hid⟩
      refine ⟨(trim reference).toList, trim_eq_iff.1 rfl, ?_, ?_⟩
      · simpa using hne
      · rwa [String.toList_inj]
    · rintro ⟨core, hcore, hne, hid⟩
      have htrim : trim reference = .ofList core :=
        trim_eq_iff.2 (by rwa [String.toList_ofList])
      have hinj : id = .ofList core ↔ id.toList = core := by
        rw [← String.toList_inj, String.toList_ofList]
      rw [htrim, hinj, String.toList_ofList]
      exact ⟨by simpa using hne, hid⟩
  · have hurl : url id = "" ++ url id ++ "" := by simp
    rw [hurl]
    exact hid.resolve_url rfl ""
  · intro front tail back hfront hback htail
    exact hid.resolve_between hfront hback htail

/-- The first marker has no id character behind it. -/
example : resolve " /d//d/x-1/edit " = .ok "x-1" := by decide

end Scribe.Document
