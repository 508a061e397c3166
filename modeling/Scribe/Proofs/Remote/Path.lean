import Scribe.Proofs.Text.Percent
import Scribe.Remote.Address

/-!
# Paths of addresses

A path is cut into segments at its slashes, each is written with percent signs where it needs them,
and segments of dots are resolved. What segments of dots do to a path is to make it shorter
(`resolve_of_plain`, `length_resolve_lt`), and a slash inside of a name is not written in a form
that is longer, as it would have to be in order to stay inside (`length_written_lt_escaped`).
-/

namespace Scribe.Remote.Address

open Text

variable {s cs ds : List Char} {ss ts done : List (List Char)}

/-! ### Segments -/

/-- The text of a path: a slash in front of each segment. -/
def pathText (ss : List (List Char)) : List Char := ss.flatMap ('/' :: ·)

theorem pathText_cons (s : List Char) (ss : List (List Char)) :
    pathText (s :: ss) = '/' :: (s ++ pathText ss) :=
  List.flatMap_cons

theorem pathText_append (ss ts : List (List Char)) :
    pathText (ss ++ ts) = pathText ss ++ pathText ts :=
  List.flatMap_append

theorem length_pathText_reverse (ss : List (List Char)) :
    (pathText ss.reverse).length = (pathText ss).length := by
  rw [pathText, pathText, List.length_flatMap, List.length_flatMap, List.map_reverse,
    List.sum_reverse]

/-- A text in which no character is a slash. -/
def Unbroken (s : List Char) : Prop := ∀ c ∈ s, isSlash c = false

theorem segments_append_cons {c : Char} (h : isSlash c = true) (cs ds : List Char) :
    segments (cs ++ c :: ds) = segments cs ++ segments ds :=
  List.splitOnP_append_cons cs ds h

theorem segments_of_unbroken (h : Unbroken s) : segments s = [s] :=
  List.splitOnP_eq_singleton h

theorem segments_ne_nil (cs : List Char) : segments cs ≠ [] := List.splitOnP_ne_nil _ _

/-- Segments without slashes are found in their text. -/
theorem segments_pathText (hne : ss ≠ []) (h : ∀ s ∈ ss, Unbroken s) :
    segments (pathText ss).tail = ss := by
  induction ss with
  | nil => exact absurd rfl hne
  | cons s ss ih =>
    rw [pathText_cons, List.tail_cons]
    have hs := segments_of_unbroken (h s (.head _))
    cases ss with
    | nil => rwa [pathText, List.flatMap_nil, List.append_nil]
    | cons t ts =>
      have hrest := ih (List.cons_ne_nil t ts) fun u hu => h u (.tail _ hu)
      rw [pathText_cons, List.tail_cons] at hrest
      rw [pathText_cons, segments_append_cons rfl, hs, hrest, List.singleton_append]

/-- A text tells the segments it was made of, if they hold no slashes. -/
theorem pathText_inj (hss : ∀ s ∈ ss, Unbroken s) (hts : ∀ t ∈ ts, Unbroken t)
    (h : pathText ss = pathText ts) : ss = ts := by
  by_cases hs : ss = []
  · subst hs
    cases ts with
    | nil => rfl
    | cons t ts => cases h
  · have ht : ts ≠ [] := by
      rintro rfl
      obtain ⟨s, rest, rfl⟩ := List.exists_cons_of_ne_nil hs
      cases h
    rw [← segments_pathText hs hss, h, segments_pathText ht hts]

/-! ### How segments are written -/

/-- A segment as it is written in a path. -/
def written (s : List Char) : List Char := s.flatMap (encodeChar encodedInPath)

/-- Whether a character is to be encoded in a name that is to be one segment. -/
def encodedInName (c : Char) : Bool := encodedInPath c || isSlash c

/-- A name as it has to be written to be one segment. -/
def escaped (s : List Char) : List Char := s.flatMap (encodeChar encodedInName)

theorem leavesCodes_encodedInPath : LeavesCodes encodedInPath := by
  refine ⟨by decide, fun c hc => ?_⟩
  exact of_ascii (P := fun c => isHexDigit c = true → Kept encodedInPath c) (by decide)
    (lt_of_isHexDigit hc) hc

theorem kept_of_isSlash {c : Char} (h : isSlash c = true) : Kept encodedInPath c := by
  rw [isSlash, Bool.or_eq_true, beq_iff_eq, beq_iff_eq] at h
  rcases h with rfl | rfl <;> decide

theorem written_cons (c : Char) (cs : List Char) :
    written (c :: cs) = encodeChar encodedInPath c ++ written cs :=
  List.flatMap_cons

theorem written_append (cs ds : List Char) : written (cs ++ ds) = written cs ++ written ds :=
  List.flatMap_append

theorem written_slash_cons {c : Char} (h : isSlash c = true) (cs : List Char) :
    written (c :: cs) = c :: written cs := by
  rw [written_cons, encodeChar_of_kept (kept_of_isSlash h), List.singleton_append]

theorem written_pathText (ss : List (List Char)) :
    written (pathText ss) = pathText (ss.map written) := by
  induction ss with
  | nil => rfl
  | cons s ss ih =>
    rw [pathText_cons, List.map_cons, pathText_cons, written_slash_cons rfl, written_append, ih]

/-- Every character takes room. -/
theorem length_written_of_sublist (h : cs.Sublist ds) :
    (written cs).length + ds.length ≤ (written ds).length + cs.length := by
  induction h with
  | slnil => exact Nat.le_refl _
  | cons d _ ih =>
    have hpos := length_encodeChar_pos (p := encodedInPath) d
    rw [written_cons, List.length_append, List.length_cons]
    omega
  | cons_cons d _ ih =>
    rw [written_cons, written_cons, List.length_append, List.length_append, List.length_cons,
      List.length_cons]
    omega

/-- A path is as long as its text with the characters written as they have to be. -/
theorem length_pathText_written (cs : List Char) :
    (pathText ((segments cs).map written)).length = (written cs).length + 1 := by
  induction cs with
  | nil => rfl
  | cons c cs ih =>
    rw [segments, List.splitOnP_cons_eq_if_modifyHead]
    split
    · next hc =>
      rw [List.map_cons, pathText_cons, written_slash_cons hc, List.length_cons, List.length_cons]
      exact congrArg _ ih
    · obtain ⟨t, ts, hts⟩ := List.exists_cons_of_ne_nil (segments_ne_nil cs)
      rw [hts] at ih
      unfold segments at hts
      rw [hts]
      rw [List.map_cons, pathText_cons, List.length_cons, List.length_append] at ih
      rw [List.modifyHead_cons, List.map_cons, pathText_cons, written_cons, written_cons,
        List.length_cons, List.length_append, List.length_append, List.length_append]
      omega

theorem kept_of_mem_written {d : Char} (h : d ∈ written s) : Kept encodedInPath d := by
  obtain ⟨c, -, hc⟩ := List.mem_flatMap.1 h
  exact leavesCodes_encodedInPath.kept_of_mem hc

theorem unbroken_written (h : Unbroken s) : Unbroken (written s) := by
  intro d hd
  obtain ⟨c, hc, hdc⟩ := List.mem_flatMap.1 hd
  rcases mem_encodeChar hdc with ⟨rfl, -⟩ | rfl | hdigit
  · exact h d hc
  · rfl
  · exact of_ascii (P := fun d => isHexDigit d = true → isSlash d = false) (by decide)
      (lt_of_isHexDigit hdigit) hdigit

theorem kept_encodedInName {c : Char} :
    Kept encodedInName c ↔ Kept encodedInPath c ∧ isSlash c = false := by
  rw [Kept, Kept, encodedInName, Bool.or_eq_false_iff, and_assoc]

theorem encodeChar_encodedInName {c : Char} (h : isSlash c = false) :
    encodeChar encodedInName c = encodeChar encodedInPath c := by
  rw [encodeChar, encodeChar, encodedInName, h, Bool.or_false]

theorem length_encodeChar_of_isSlash {c : Char} (h : isSlash c = true) :
    (encodeChar encodedInPath c).length < (encodeChar encodedInName c).length := by
  rw [isSlash, Bool.or_eq_true, beq_iff_eq, beq_iff_eq] at h
  rcases h with rfl | rfl <;> decide

theorem length_written_le_escaped (s : List Char) : (written s).length ≤ (escaped s).length := by
  induction s with
  | nil => exact Nat.le_refl 0
  | cons c s ih =>
    unfold written escaped at *
    rw [List.flatMap_cons, List.flatMap_cons, List.length_append, List.length_append]
    refine Nat.add_le_add ?_ ih
    cases h : isSlash c with
    | false => exact Nat.le_of_eq (by rw [encodeChar_encodedInName h])
    | true => exact Nat.le_of_lt (length_encodeChar_of_isSlash h)

/-- Slashes inside of a name are not written as they would have to be. -/
theorem length_written_lt_escaped (h : ¬Unbroken s) : (written s).length < (escaped s).length := by
  have hslash : ∃ c ∈ s, isSlash c = true := by
    simpa [Unbroken] using h
  obtain ⟨c, hc, hslash⟩ := hslash
  obtain ⟨front, back, rfl⟩ := List.append_of_mem hc
  have hlt := length_encodeChar_of_isSlash hslash
  have hfront := length_written_le_escaped front
  have hback := length_written_le_escaped back
  unfold written escaped at *
  simp only [List.flatMap_append, List.flatMap_cons, List.length_append]
  omega

theorem length_pathText_written_le (ss : List (List Char)) :
    (pathText (ss.map written)).length ≤ (pathText (ss.map escaped)).length := by
  induction ss with
  | nil => exact Nat.le_refl 0
  | cons s ss ih =>
    have hs := length_written_le_escaped s
    simp only [List.map_cons, pathText_cons, List.length_cons, List.length_append]
    omega

theorem length_pathText_written_lt (hs : s ∈ ss) (h : ¬Unbroken s) :
    (pathText (ss.map written)).length < (pathText (ss.map escaped)).length := by
  obtain ⟨front, back, rfl⟩ := List.append_of_mem hs
  have hlt := length_written_lt_escaped h
  have hfront := length_pathText_written_le front
  have hback := length_pathText_written_le back
  simp only [List.map_append, List.map_cons, pathText_append, pathText_cons, List.length_append,
    List.length_cons]
  omega

/-! ### Dots -/

/-- Whether a segment is made of dots that are resolved. -/
def IsDots (s : List Char) : Prop := plainDots s = ['.'] ∨ plainDots s = ['.', '.']

instance : DecidablePred IsDots := fun _ => inferInstanceAs (Decidable (_ ∨ _))

/-- The segments so far, in reverse, behind one that is not the last. -/
def descend (done : List (List Char)) (s : List Char) : List (List Char) :=
  if plainDots s = ['.'] then done
  else if plainDots s = ['.', '.'] then if done.head?.any isDrive then done else done.tail
  else s :: done

theorem descend_of_plain (h : ¬IsDots s) : descend done s = s :: done := by
  rw [IsDots, not_or] at h
  rw [descend, if_neg h.1, if_neg h.2]

/-- Dots add nothing to the segments so far. -/
theorem descend_suffix (done : List (List Char)) (h : IsDots s) : descend done s <:+ done := by
  rw [descend]
  split
  · exact List.suffix_refl _
  · next hone =>
    rw [if_pos (h.resolve_left hone)]
    split
    · exact List.suffix_refl _
    · exact List.tail_suffix done

theorem resolve_cons_cons (done : List (List Char)) (s t : List Char) (ts : List (List Char)) :
    resolve done (s :: t :: ts) = resolve (descend done s) (t :: ts) := by
  rw [resolve, descend]
  simp only [List.isEmpty_cons, Bool.false_eq_true, if_false]
  split
  · rfl
  · split <;> rfl

/-- Dots at the end leave an empty segment. -/
theorem resolve_singleton_of_dots (h : IsDots s) :
    resolve done [s] = (descend done s).reverse ++ [[]] := by
  rw [resolve, descend]
  by_cases hone : plainDots s = ['.']
  · simp [hone, resolve]
  · have htwo := h.resolve_left hone
    simp [htwo, resolve]

theorem resolve_cons_of_plain (h : ¬IsDots s) (ts : List (List Char)) :
    resolve done (s :: ts) = resolve (s :: done) ts := by
  rw [IsDots, not_or] at h
  rw [resolve, if_neg h.1, if_neg h.2]

/-- What stands behind segments cannot change what they are resolved to. -/
theorem resolve_append (ss : List (List Char)) (hts : ts ≠ []) :
    resolve done (ss ++ ts) = resolve (ss.foldl descend done) ts := by
  induction ss generalizing done with
  | nil => rfl
  | cons s ss ih =>
    obtain ⟨t, rest, ht⟩ := List.exists_cons_of_ne_nil (List.append_ne_nil_of_right_ne_nil ss hts)
    rw [List.cons_append, ht, resolve_cons_cons, ← ht, ih, List.foldl_cons]

/-- Segments without dots stand behind those that are there. -/
theorem resolve_of_plain (h : ∀ s ∈ ss, ¬IsDots s) : resolve done ss = done.reverse ++ ss := by
  induction ss generalizing done with
  | nil => rw [resolve, List.append_nil]
  | cons s ss ih =>
    rw [resolve_cons_of_plain (h s (.head _)), ih fun t ht => h t (.tail _ ht),
      List.reverse_cons, List.append_assoc, List.singleton_append]

/-- Nothing but an empty segment is new in what segments are resolved to. -/
theorem mem_resolve (h : s ∈ resolve done ss) : s = [] ∨ s ∈ done ∨ s ∈ ss := by
  induction ss generalizing done with
  | nil =>
    rw [resolve, List.mem_reverse] at h
    exact .inr (.inl h)
  | cons t ts ih =>
    by_cases hdots : IsDots t
    · have hsuffix := descend_suffix done hdots
      cases ts with
      | nil =>
        rw [resolve_singleton_of_dots hdots, List.mem_append, List.mem_reverse,
          List.mem_singleton] at h
        exact h.symm.imp_right fun hs => .inl (hsuffix.mem hs)
      | cons u us =>
        rw [resolve_cons_cons] at h
        exact (ih h).imp_right (Or.imp hsuffix.mem (.tail _))
    · rw [resolve_cons_of_plain hdots] at h
      rcases ih h with hnil | hdone | hrest
      · exact .inl hnil
      · rcases List.mem_cons.1 hdone with rfl | hdone
        · exact .inr (.inr (.head _))
        · exact .inr (.inl hdone)
      · exact .inr (.inr (.tail _ hrest))

theorem length_plainDots_le (s : List Char) : (plainDots s).length ≤ s.length := by
  fun_induction plainDots s with
  | case1 cs ih => simp only [List.length_cons]; omega
  | case2 cs ih => simp only [List.length_cons]; omega
  | case3 c cs _ _ ih => simp only [List.length_cons]; omega
  | case4 => exact Nat.le_refl 0

theorem length_pos_of_dots (h : IsDots s) : 0 < s.length := by
  refine Nat.lt_of_lt_of_le ?_ (length_plainDots_le s)
  rcases h with h | h <;> rw [h] <;> decide

theorem length_pathText_le_of_suffix (h : ts <:+ ss) :
    (pathText ts).length ≤ (pathText ss).length := by
  obtain ⟨front, rfl⟩ := h
  rw [pathText_append, List.length_append]
  exact Nat.le_add_left _ _

theorem length_resolve_of_plain (done : List (List Char)) (h : ¬∃ s ∈ ss, IsDots s) :
    (pathText (resolve done ss)).length = (pathText done).length + (pathText ss).length := by
  rw [resolve_of_plain fun s hs hdots => h ⟨s, hs, hdots⟩, pathText_append, List.length_append,
    length_pathText_reverse]

/-- **Dots make a path shorter.** -/
theorem length_resolve_lt (done : List (List Char)) (h : ∃ s ∈ ss, IsDots s) :
    (pathText (resolve done ss)).length < (pathText done).length + (pathText ss).length := by
  induction ss generalizing done with
  | nil =>
    obtain ⟨s, hs, -⟩ := h
    cases hs
  | cons t ts ih =>
    have hle : ∀ done, (pathText (resolve done ts)).length ≤
        (pathText done).length + (pathText ts).length := by
      intro done
      by_cases hts : ∃ s ∈ ts, IsDots s
      · exact Nat.le_of_lt (ih done hts)
      · exact Nat.le_of_eq (length_resolve_of_plain done hts)
    rw [pathText_cons, List.length_cons, List.length_append]
    by_cases hdots : IsDots t
    · have hpos := length_pos_of_dots hdots
      have hdescend := length_pathText_le_of_suffix (descend_suffix done hdots)
      cases ts with
      | nil =>
        rw [resolve_singleton_of_dots hdots, pathText_append, List.length_append,
          length_pathText_reverse]
        change _ + 1 < _
        omega
      | cons u us =>
        rw [resolve_cons_cons]
        have hrest := hle (descend done t)
        omega
    · have hts : ∃ s ∈ ts, IsDots s := by
        obtain ⟨s, hs, hsdots⟩ := h
        rcases List.mem_cons.1 hs with rfl | hs
        · exact absurd hsdots hdots
        · exact ⟨s, hs, hsdots⟩
      have hrest := ih (t :: done) hts
      rw [resolve_cons_of_plain hdots]
      rw [pathText_cons, List.length_cons, List.length_append] at hrest
      omega

theorem length_resolve_le (done ss : List (List Char)) :
    (pathText (resolve done ss)).length ≤ (pathText done).length + (pathText ss).length := by
  by_cases h : ∃ s ∈ ss, IsDots s
  · exact Nat.le_of_lt (length_resolve_lt done h)
  · exact Nat.le_of_eq (length_resolve_of_plain done h)

end Scribe.Remote.Address
