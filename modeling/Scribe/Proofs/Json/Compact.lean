import Scribe.Proofs.Json.Reading

/-!
# Compact values on one line

The compact form of a value holds no line feed (`lineFeed_notMem_compact`), whatever texts the value
holds: a line feed in a string or in a name is escaped, numbers are written with digits and a few
signs, and nothing is put between the parts of a value but commas and colons.
-/

namespace Scribe.Json

/-! ### Numbers -/

theorem lineFeed_notMem_toDigits (n : Nat) : '\n' ∉ Nat.toDigits 10 n := by
  intro h
  have hdigit : '\n'.isDigit = true := Nat.isDigit_of_mem_toDigits (by decide) (by decide) h
  cases hdigit

theorem lineFeed_notMem_replicate (n : Nat) : '\n' ∉ List.replicate n '0' := by
  intro h
  have hzero : '\n' = '0' := List.eq_of_mem_replicate h
  cases hzero

theorem lineFeed_notMem_decimal (d : Scribe.Number.Decimal) : '\n' ∉ d.toText.toList := by
  have hdigits := lineFeed_notMem_toDigits d.digits
  have htake : ∀ n, '\n' ∉ (Nat.toDigits 10 d.digits).take n := fun n h =>
    hdigits (List.mem_of_mem_take h)
  have hdrop : ∀ n, '\n' ∉ (Nat.toDigits 10 d.digits).drop n := fun n h =>
    hdigits (List.mem_of_mem_drop h)
  have htail : '\n' ∉ (Nat.toDigits 10 d.digits).tail := fun h => hdigits (List.mem_of_mem_tail h)
  have hzeros := lineFeed_notMem_replicate
  have hexponent := lineFeed_notMem_toDigits
  unfold Scribe.Number.Decimal.toText
  dsimp only
  split
  · simp [hdigits, hzeros]
  · split
    · simp [htake, hdrop]
    · split
      · simp [hdigits, hzeros]
      · -- A sign stands in front of the exponent, and a point only behind the first digit of many.
        split <;> split <;> simp [htake, htail, hexponent]

theorem lineFeed_notMem_number (n : Number) : '\n' ∉ (Value.number n).compact.toList := by
  cases n with
  | integer i =>
    cases i with
    | ofNat n =>
      rw [Int.ofNat_eq_natCast, Value.toList_number_nonneg]
      exact lineFeed_notMem_toDigits n
    | negSucc n =>
      rw [Value.toList_number_neg]
      simp [lineFeed_notMem_toDigits]
  | double bits =>
    have hdecimal := lineFeed_notMem_decimal (Scribe.Number.shortestDecimal bits)
    rw [Value.compact, Number.toText, Scribe.Number.writeDouble, String.toList_append]
    split <;> simp [hdecimal]

/-! ### Strings -/

theorem hexDigit_ne_lineFeed (n : Nat) : hexDigit n ≠ '\n' := by
  have hall : ∀ k < 16, (Nat.toDigits 16 k).headD '0' ≠ '\n' := by decide
  exact hall (n % 16) (Nat.mod_lt n (by decide))

/-- A line feed is escaped, and no escape holds one. -/
theorem lineFeed_notMem_escapeChar (c : Char) : '\n' ∉ escapeChar c := by
  unfold escapeChar
  split
  · decide
  · decide
  · decide
  · decide
  · decide
  · decide
  · decide
  · next hother _ _ =>
    split
    · simp [(hexDigit_ne_lineFeed _).symm]
    · simpa using fun h : '\n' = c => hother h.symm

/-! ### Values -/

theorem lineFeed_notMem_separator (first : Bool) : '\n' ∉ Value.separator first := by
  cases first <;> decide

mutual

/-- **A value in compact form stands on one line.** -/
theorem lineFeed_notMem_compact (v : Value) : '\n' ∉ v.compact.toList := by
  cases v with
  | null => decide
  | bool b => cases b <;> decide
  | number n => exact lineFeed_notMem_number n
  | string s =>
    rw [Value.compact, toList_quote]
    simp [lineFeed_notMem_escapeChar]
  | array items =>
    rw [Value.toList_array]
    simp [lineFeed_notMem_itemsText true items]
  | object members =>
    rw [Value.toList_object]
    simp [lineFeed_notMem_membersText true members]

theorem lineFeed_notMem_itemsText (first : Bool) (items : List Value) :
    '\n' ∉ Value.itemsText first items := by
  cases items with
  | nil => exact List.not_mem_nil
  | cons v rest =>
    have hv := lineFeed_notMem_compact v
    have hrest := lineFeed_notMem_itemsText false rest
    simp [Value.itemsText, lineFeed_notMem_separator, hv, hrest]

theorem lineFeed_notMem_membersText (first : Bool) (members : List (String × Value)) :
    '\n' ∉ Value.membersText first members := by
  cases members with
  | nil => exact List.not_mem_nil
  | cons m rest =>
    obtain ⟨name, v⟩ := m
    have hv := lineFeed_notMem_compact v
    have hrest := lineFeed_notMem_membersText false rest
    simp [Value.membersText, Value.memberText, lineFeed_notMem_separator,
      lineFeed_notMem_escapeChar, hv, hrest]

end

end Scribe.Json
