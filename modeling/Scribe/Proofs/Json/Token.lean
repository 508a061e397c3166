import Scribe.Json.Token
import Scribe.Json.Writer

/-!
# Reading back what is written between the brackets

A number and a string are read back from their written forms, with any text behind them that cannot
belong to them: behind a number stands none of its characters (`Delimited`), and a string ends at
the first quote that is not escaped, which is the one that was written to end it. A number is kept
as an integer if it is one and fits in sixty-four bits; of doubles nothing is said.
-/

namespace Scribe.Json

/-! ### Readers -/

/-- A sequence of readers goes on with what the first one leaves. -/
theorem bind_of_ok {α β : Type} {a : Reader α} {cs r : List Char} {x : α}
    (h : a cs = .ok (x, r)) (f : α → Reader β) : (a >>= f) cs = f x r := by
  simp only [bind, StateT.bind, h, Except.bind]

/-- What a reader gives, if it does not stop, satisfies `P`. -/
def Gives {α : Type} (P : α → Prop) (a : Reader α) : Prop := ∀ cs x r, a cs = .ok (x, r) → P x

section Gives

variable {α β : Type} {P : β → Prop} {Q : α → Prop}

theorem gives_pure {x : β} (h : P x) : Gives P (pure x : Reader β) := by
  intro cs y r hy
  cases hy
  exact h

theorem Gives.bind {a : Reader α} {f : α → Reader β} (ha : Gives Q a)
    (hf : ∀ x, Q x → Gives P (f x)) : Gives P (a >>= f) := by
  intro cs y r hy
  simp only [Bind.bind, StateT.bind, Except.bind] at hy
  split at hy
  · cases hy
  · next p hp => exact hf p.1 (ha cs p.1 p.2 hp) p.2 y r hy

/-- Of a reader in front nothing need be known. -/
theorem gives_bind {a : Reader α} {f : α → Reader β} (hf : ∀ x, Gives P (f x)) :
    Gives P (a >>= f) :=
  Gives.bind (Q := fun _ => True) (fun _ _ _ _ => trivial) fun x _ => hf x

theorem gives_stopHere (cause : Cause) : Gives P (stopHere cause) := by
  intro cs y r hy
  cases hy

theorem gives_stopAtNext (cause : Cause) : Gives P (stopAtNext cause) := by
  intro cs y r hy
  cases hy

theorem Gives.run' {a : Reader β} (ha : Gives P a) {cs : List Char} {x : β}
    (h : StateT.run' a cs = .ok x) : P x := by
  rw [StateT.run'_eq] at h
  cases hp : a.run cs with
  | error stop => rw [hp] at h; cases h
  | ok p =>
    rw [hp] at h
    cases h
    exact ha cs p.1 p.2 hp

end Gives

/-! ### Numbers -/

/-- What may stand behind a number in compact text. -/
def Delimited (rest : List Char) : Prop := ∀ c ∈ rest.head?, c = ',' ∨ c = ']' ∨ c = '\x7d'

/-- Digits are added up as long as their number stays below the limit. -/
theorem accumulate_of_le {limit n : Nat} {ds : List Char}
    (h : Nat.ofDigitChars 10 ds n ≤ limit) :
    accumulate limit n ds = (Nat.ofDigitChars 10 ds n, []) := by
  induction ds generalizing n with
  | nil => simp [accumulate]
  | cons d ds ih =>
    rw [Nat.ofDigitChars_cons] at h ⊢
    have hnext : 10 * n + (d.toNat - 48) ≤ limit := by
      rw [Nat.ofDigitChars_eq_ofDigitChars_zero] at h
      have hpow : 0 < 10 ^ ds.length := Nat.pow_pos (by decide)
      have := Nat.le_mul_of_pos_left (10 * n + (d.toNat - 48)) hpow
      change 10 ^ ds.length * (10 * n + (d.toNat - 48)) + _ ≤ limit at h
      omega
    rw [accumulate, if_neg (Nat.not_lt.2 hnext)]
    exact ih h

/-- The digits of a number other than zero do not start with zero. -/
theorem head?_toDigits {n : Nat} (hn : 0 < n) : (Nat.toDigits 10 n).head? ≠ some '0' := by
  induction n using Nat.strongRecOn with
  | _ n ih =>
    by_cases hlt : n < 10
    · rw [Nat.toDigits_of_lt_base hlt]
      simp
      omega
    · rw [Nat.toDigits_of_base_le (by decide) (Nat.not_lt.1 hlt)]
      have hrest := ih (n / 10) (by omega) (by omega)
      cases hd : Nat.toDigits 10 (n / 10) with
      | nil =>
        have := Nat.length_toDigits_pos (b := 10) (n := n / 10)
        rw [hd] at this
        cases this
      | cons d ds =>
        rw [hd] at hrest
        exact hrest

/-- What stands behind a number is not taken for a part of it. -/
theorem Delimited.not_continued {rest : List Char} (h : Delimited rest) :
    rest.head?.any Char.isDigit = false ∧ rest.head? ≠ some '.' ∧ rest.head? ≠ some 'e' ∧
      rest.head? ≠ some 'E' := by
  cases hrest : rest.head? with
  | none => simp
  | some c =>
    rcases h c hrest with rfl | rfl | rfl <;> decide

/-- All digits in front of something else are read. -/
theorem digits_append {ds rest : List Char} (hds : ∀ c ∈ ds, c.isDigit = true)
    (hrest : rest.head?.any Char.isDigit = false) : digits (ds ++ rest) = .ok (ds, rest) := by
  have htake : rest.takeWhile Char.isDigit = [] ∧ rest.dropWhile Char.isDigit = rest := by
    cases rest with
    | nil => exact ⟨rfl, rfl⟩
    | cons c cs =>
      have hc : ¬ c.isDigit = true := by simpa using hrest
      exact ⟨List.takeWhile_cons_of_neg hc, List.dropWhile_cons_of_neg hc⟩
  rw [digits, List.takeWhile_append_of_pos hds, List.dropWhile_append_of_pos hds, htake.1, htake.2,
    List.append_nil]

/-- A number is read back, but for its sign. -/
theorem numberRest_toDigits (negative : Bool) {n : Nat} (hn : n ≤ wordLimit) {rest : List Char}
    (hrest : Delimited rest) :
    numberRest negative (Nat.toDigits 10 n ++ rest) = integerOf negative n rest := by
  obtain ⟨hdigit, hpoint, hlower, hupper⟩ := hrest.not_continued
  have hvalue : accumulate wordLimit 0 (Nat.toDigits 10 n) = (n, []) := by
    rw [accumulate_of_le] <;> rw [Nat.ofDigitChars_ten_toDigits]
    exact hn
  have hnext : peekRaw rest = .ok (rest.head?, rest) := rfl
  rcases Nat.eq_zero_or_pos n with rfl | hpos
  · -- Zero is read by its one digit.
    rw [Nat.toDigits_zero] at hvalue ⊢
    have hzero : (! '0'.isDigit) = false := rfl
    have hdrop : drop1 (['0'] ++ rest) = .ok ((), rest) := rfl
    rw [numberRest, bind_of_ok (x := some '0') (r := ['0'] ++ rest) rfl]
    simp only [hzero, Bool.false_eq_true, if_false, if_true, true_and]
    rw [bind_of_ok hdrop, bind_of_ok (x := ['0']) rfl, bind_of_ok hnext, hvalue, hdigit]
    simp only [Bool.false_eq_true, List.isEmpty_nil, if_false, if_true]
  · -- Any other number is all the digits that stand there.
    have hall : ∀ c ∈ Nat.toDigits 10 n, c.isDigit = true := fun c hc =>
      Nat.isDigit_of_mem_toDigits (by decide) (by decide) hc
    have hzero := head?_toDigits hpos
    cases hds : Nat.toDigits 10 n with
    | nil =>
      have hlen := Nat.length_toDigits_pos (b := 10) (n := n)
      rw [hds] at hlen
      cases hlen
    | cons c cs =>
      rw [hds] at hall hvalue hzero
      have hc : c.isDigit = true := hall c List.mem_cons_self
      have hne : ¬ c = '0' := fun h => hzero (congrArg some h)
      rw [numberRest, bind_of_ok (x := some c) (r := c :: cs ++ rest) rfl]
      simp only [hc, Bool.not_true, Bool.false_eq_true, if_false, hne, false_and]
      rw [bind_of_ok (digits_append hall hdigit), bind_of_ok hnext, hvalue]
      simp only [List.isEmpty_nil, if_true]

/-! ### Strings -/

/-- The digits of a control character are read back. -/
theorem mapM_hexValue?_escape {n : Nat} (hn : n < 0x20) :
    ['0', '0', hexDigit (n / 16), hexDigit n].mapM hexValue? = some [0, 0, n / 16, n % 16] := by
  have hall : ∀ n < 0x20,
      ['0', '0', hexDigit (n / 16), hexDigit n].mapM hexValue? = some [0, 0, n / 16, n % 16] := by
    decide
  exact hall n hn

/-- Four characters are at least four bytes. -/
theorem four_le_byteCount (a b c d : Char) (rest : List Char) :
    4 ≤ Text.byteCount (a :: b :: c :: d :: rest) := by
  have hfold : ∀ (cs : List Char) (n : Nat), n ≤ cs.foldl (fun n c => n + c.utf8Size) n := by
    intro cs
    induction cs with
    | nil => intro n; exact Nat.le_refl n
    | cons c cs ih => intro n; exact Nat.le_trans (Nat.le_add_right ..) (ih _)
  have ha := a.utf8Size_pos
  have hb := b.utf8Size_pos
  have hc := c.utf8Size_pos
  have hd := d.utf8Size_pos
  refine Nat.le_trans ?_ (hfold rest _)
  simp only
  omega

/-- An escape gives its character, and the string goes on behind it. -/
theorem stringBody_backslash {c : Char} {n : Nat} {text rest : List Char}
    (h : escape text = .ok (c, n)) (hdrop : text.drop n = rest) :
    stringBody escape ('\\' :: text) = (stringBody escape rest).map fun p => (c :: p.1, p.2) := by
  rw [stringBody, h, ← hdrop]
  change (stringBody escape (text.drop n) >>= fun p => pure (c :: p.1, p.2)) = _
  cases stringBody escape (text.drop n) <;> rfl

/-- A character that is written by its number is read back. -/
theorem escape_control {c : Char} (hc : c.toNat < 0x20) (rest : List Char) :
    escape ('u' :: '0' :: '0' :: hexDigit (c.toNat / 16) :: hexDigit c.toNat :: rest) =
      .ok (c, 5) := by
  have hbytes := four_le_byteCount '0' '0' (hexDigit (c.toNat / 16)) (hexDigit c.toNat) rest
  have hvalue : 16 * (c.toNat / 16) + c.toNat % 16 = c.toNat := Nat.div_add_mod ..
  have hhex : hex4 ('0' :: '0' :: hexDigit (c.toNat / 16) :: hexDigit c.toNat :: rest) =
      .ok c.toNat := by
    rw [hex4, if_neg (Nat.not_lt.2 hbytes)]
    simp only [List.take_succ_cons, List.take_zero, mapM_hexValue?_escape hc, List.foldl_cons,
      List.foldl_nil, Nat.mul_zero, Nat.zero_add, Nat.add_zero, hvalue]
  have hunicode : unicodeEscape
      ('0' :: '0' :: hexDigit (c.toNat / 16) :: hexDigit c.toNat :: rest) = .ok (c, 4) := by
    rw [unicodeEscape, hhex]
    change (if _ then _ else if _ then _ else _) = _
    rw [if_neg (by omega), if_pos (by omega), Char.ofNat_toNat]
    rfl
  rw [escape, hunicode]
  rfl

/-- A written character is read back, whatever follows. -/
theorem stringBody_escapeChar (c : Char) (rest : List Char) :
    stringBody escape (escapeChar c ++ rest) =
      (stringBody escape rest).map fun p => (c :: p.1, p.2) := by
  unfold escapeChar
  split
  · exact stringBody_backslash rfl rfl
  · exact stringBody_backslash rfl rfl
  · exact stringBody_backslash rfl rfl
  · exact stringBody_backslash rfl rfl
  · exact stringBody_backslash rfl rfl
  · exact stringBody_backslash rfl rfl
  · exact stringBody_backslash rfl rfl
  · next hquote hslash _ _ _ _ _ =>
    split
    · next hcontrol => exact stringBody_backslash (escape_control hcontrol rest) rfl
    · next hplain =>
      rw [List.singleton_append, stringBody, if_neg hplain]
      · change (stringBody escape rest >>= fun p => pure (c :: p.1, p.2)) = _
        cases stringBody escape rest <;> rfl
      · exact hquote
      · exact hslash

/-- A quoted text is read back behind its opening quote. -/
theorem stringRest_quote (s : String) (rest : List Char) :
    stringRest (s.toList.flatMap escapeChar ++ '"' :: rest) = .ok (s, rest) := by
  have hbody : ∀ cs : List Char,
      stringBody escape (cs.flatMap escapeChar ++ '"' :: rest) = .ok (cs, rest) := by
    intro cs
    induction cs with
    | nil => rw [List.flatMap_nil, List.nil_append, stringBody]
    | cons c cs ih =>
      rw [List.flatMap_cons, List.append_assoc, stringBody_escapeChar, ih]
      rfl
  rw [stringRest, hbody]
  change Except.ok (String.ofList s.toList, rest) = _
  rw [String.ofList_toList]

theorem toList_quote (s : String) :
    (quote s).toList = '"' :: (s.toList.flatMap escapeChar ++ ['"']) := by
  simp only [quote, String.toList_append, String.toList_ofList]
  rfl

end Scribe.Json
