import Scribe.Proofs.Text.Search
import Scribe.Text.Quoted

/-!
# Quoted texts are unique

A quoted text shows all of the text, and where it ends: no quoted character begins like the quoted
form of another one (`quotedChar_append_inj`), nor like the quotation mark at the end
(`quotedChar_append_ne`). So two texts that begin with quoted texts are equal only if the quoted
texts are, and what follows them (`quoted_append_inj`).
-/

namespace Scribe.Text

/-! ### Code points -/

theorem digitChar_sixteen_inj :
    ∀ n < 16, ∀ m < 16, Nat.digitChar n = Nat.digitChar m → n = m := by decide

theorem digitChar_sixteen_ne : ∀ n < 16, Nat.digitChar n ≠ '\x7d' := by decide

/-- A hexadecimal numeral has no brace that could be taken for its end. -/
theorem brace_notMem_toDigits (n : Nat) : '\x7d' ∉ Nat.toDigits 16 n := by
  induction n using Nat.strongRecOn with
  | ind n ih =>
    rcases Nat.lt_or_ge n 16 with hlt | hge
    · rw [Nat.toDigits_of_lt_base hlt, List.mem_singleton]
      exact (digitChar_sixteen_ne n hlt).symm
    · rw [Nat.toDigits_of_base_le (by decide) hge, List.mem_append, List.mem_singleton]
      rintro (hmem | hlast)
      · exact ih (n / 16) (by omega) hmem
      · exact digitChar_sixteen_ne (n % 16) (by omega) hlast.symm

/-- Numbers with the same hexadecimal numeral are equal: their last digits are, and what is in
front of these. -/
theorem toDigits_sixteen_inj {n m : Nat} (h : Nat.toDigits 16 n = Nat.toDigits 16 m) : n = m := by
  induction n using Nat.strongRecOn generalizing m with
  | ind n ih =>
    rcases Nat.lt_or_ge n 16 with hn | hn <;> rcases Nat.lt_or_ge m 16 with hm | hm
    · rw [Nat.toDigits_of_lt_base hn, Nat.toDigits_of_lt_base hm] at h
      exact digitChar_sixteen_inj n hn m hm (List.singleton_inj.1 h)
    · have hlength := congrArg List.length h
      have := Nat.length_toDigits_pos (b := 16) (n := m / 16)
      rw [Nat.toDigits_of_lt_base hn, Nat.toDigits_of_base_le (by decide) hm] at hlength
      simp at hlength
    · have hlength := congrArg List.length h
      rw [Nat.toDigits_of_base_le (by decide) hn, Nat.toDigits_of_lt_base hm] at hlength
      simp at hlength
    · rw [Nat.toDigits_of_base_le (by decide) hn, Nat.toDigits_of_base_le (by decide) hm] at h
      obtain ⟨hfront, hlast⟩ := List.append_inj' h rfl
      have hdiv : n / 16 = m / 16 := ih (n / 16) (by omega) hfront
      have hmod : n % 16 = m % 16 :=
        digitChar_sixteen_inj _ (by omega) _ (by omega) (List.singleton_inj.1 hlast)
      omega

/-! ### Characters -/

/-- The characters that are quoted by a letter, and the letters. -/
def quotedByLetter : List (Char × Char) :=
  [('"', '"'), ('\\', '\\'), ('\t', 't'), ('\n', 'n'), ('\r', 'r'), ('\x00', '0')]

theorem eq_of_quotedByLetter {c c' letter : Char} (h : (c, letter) ∈ quotedByLetter)
    (h' : (c', letter) ∈ quotedByLetter) : c = c' := by
  simp only [quotedByLetter, List.mem_cons, Prod.mk.injEq, List.not_mem_nil] at h h'
  grind

/-- What stands for a character is a letter or a code point behind a backslash, or the character
itself, which then is neither a quotation mark nor a backslash. -/
theorem quotedChar_cases (c : Char) :
    (∃ letter, (c, letter) ∈ quotedByLetter ∧ quotedChar c = ['\\', letter]) ∨
    quotedChar c = '\\' :: 'u' :: '\x7b' :: (Nat.toDigits 16 c.toNat ++ ['\x7d']) ∨
    c ≠ '"' ∧ c ≠ '\\' ∧ quotedChar c = [c] := by
  unfold quotedChar
  split
  iterate 6 exact .inl ⟨_, by decide, rfl⟩
  next hquote hbackslash _ _ _ _ =>
    split
    · exact .inr (.inl rfl)
    · exact .inr (.inr ⟨hquote, hbackslash, rfl⟩)

/-- A quoted character determines the character, whatever is behind it. -/
theorem quotedChar_append_inj {c c' : Char} {cs cs' : List Char}
    (h : quotedChar c ++ cs = quotedChar c' ++ cs') : c = c' ∧ cs = cs' := by
  rcases quotedChar_cases c with ⟨letter, hmem, hc⟩ | hc | ⟨-, hc_ne, hc⟩ <;>
    rcases quotedChar_cases c' with ⟨letter', hmem', hc'⟩ | hc' | ⟨-, hc_ne', hc'⟩ <;>
    rw [hc, hc'] at h <;> simp only [List.cons_append, List.nil_append, List.cons.injEq] at h
  -- A letter stands for one character only, and `u` for none.
  · obtain ⟨-, rfl, hcs⟩ := h
    exact ⟨eq_of_quotedByLetter hmem hmem', hcs⟩
  · obtain ⟨-, rfl, -⟩ := h
    simp [quotedByLetter] at hmem
  · exact absurd h.1.symm hc_ne'
  · obtain ⟨-, rfl, -⟩ := h
    simp [quotedByLetter] at hmem'
  · obtain ⟨-, -, -, hdigits⟩ := h
    rw [List.append_assoc, List.append_assoc] at hdigits
    obtain ⟨hcode, hcs⟩ := append_cons_inj_of_notMem (brace_notMem_toDigits _)
      (brace_notMem_toDigits _) hdigits
    exact ⟨Char.toNat_inj.1 (toDigits_sixteen_inj hcode), hcs⟩
  · exact absurd h.1.symm hc_ne'
  · exact absurd h.1 hc_ne
  · exact absurd h.1 hc_ne
  · exact h

/-- No quoted character begins with a quotation mark. -/
theorem quotedChar_append_ne (c : Char) (cs rest : List Char) :
    quotedChar c ++ cs ≠ '"' :: rest := by
  intro h
  rcases quotedChar_cases c with ⟨letter, -, hc⟩ | hc | ⟨hc_ne, -, hc⟩ <;>
    rw [hc, List.cons_append, List.cons.injEq] at h
  · exact absurd h.1 (by decide)
  · exact absurd h.1 (by decide)
  · exact hc_ne h.1

/-! ### Texts -/

/-- Where quoted characters end is clear, and so is what they stand for. -/
theorem flatMap_quotedChar_inj {cs cs' rest rest' : List Char}
    (h : cs.flatMap quotedChar ++ '"' :: rest = cs'.flatMap quotedChar ++ '"' :: rest') :
    cs = cs' ∧ rest = rest' := by
  induction cs generalizing cs' with
  | nil =>
    cases cs' with
    | nil => exact ⟨rfl, (List.cons.inj h).2⟩
    | cons c' cs' =>
      rw [List.flatMap_cons, List.append_assoc] at h
      exact absurd h.symm (quotedChar_append_ne _ _ _)
  | cons c cs ih =>
    cases cs' with
    | nil =>
      rw [List.flatMap_cons, List.append_assoc] at h
      exact absurd h (quotedChar_append_ne _ _ _)
    | cons c' cs' =>
      rw [List.flatMap_cons, List.append_assoc, List.flatMap_cons, List.append_assoc] at h
      obtain ⟨rfl, htail⟩ := quotedChar_append_inj h
      obtain ⟨rfl, hrest⟩ := ih htail
      exact ⟨rfl, hrest⟩

/-- **A quoted text determines the text**, whatever is behind it. -/
theorem quoted_append_inj {s s' t t' : String} :
    quoted s ++ t = quoted s' ++ t' ↔ s = s' ∧ t = t' := by
  constructor
  · intro h
    have hlist := congrArg String.toList h
    simp only [quoted, String.toList_append, String.toList_ofList, List.append_assoc] at hlist
    obtain ⟨hs, ht⟩ := flatMap_quotedChar_inj (List.cons.inj hlist).2
    exact ⟨String.toList_inj.1 hs, String.toList_inj.1 ht⟩
  · rintro ⟨rfl, rfl⟩
    rfl

theorem quotedOption_none_append_ne (s t t' : String) :
    quotedOption none ++ t ≠ quotedOption (some s) ++ t' := by
  intro h
  have hlist := congrArg String.toList h
  simp [quotedOption, String.toList_append] at hlist

/-- The quoted form of a text that may be missing shows whether it is missing, too. -/
theorem quotedOption_append_inj {s s' : Option String} {t t' : String} :
    quotedOption s ++ t = quotedOption s' ++ t' ↔ s = s' ∧ t = t' := by
  rcases s with _ | s <;> rcases s' with _ | s'
  · rw [String.append_right_inj]
    exact (and_iff_right rfl).symm
  · exact iff_of_false (quotedOption_none_append_ne s' t t') (by simp)
  · exact iff_of_false (quotedOption_none_append_ne s t' t).symm (by simp)
  · simp only [quotedOption, String.append_assoc, String.append_right_inj, quoted_append_inj,
      Option.some.injEq]

end Scribe.Text
